/-
  AccessControl/Proofs/Json/Spelling.lean
  =======================================
  **JSON values in other spellings.**

  A value is written down leaf by leaf, and every notation spells the leaves in its own way.  A
  reader in that notation meets the same tree.  What it makes of a leaf is what the leaf stands
  for, if a text is read as that text, a truth value as that truth value, and so on, and if
  nothing but `null` is taken for absent.

  A draft of a JSON text spells a leaf by itself.  YAML has plain words for `null`, the truth
  values and the numbers, so a text that looks like one of these must not be plain.

  ## Main definitions

  * `Document.map`: a document with its leaves in another spelling;
  * `JsonScalar.Spelled`: spellings that are read as what they stand for;
  * `YamlScalar.ofJson`: how YAML spells a leaf.

  ## Main statements

  * `JsonScalar.spelled_some`, `YamlScalar.spelled_ofJson`: drafts and YAML.
-/
import AccessControl.Json.Draft
import AccessControl.Json.Number
import AccessControl.Proofs.Text.Decimal
import AccessControl.Yaml.Printer

namespace AccessControl

/-! ## 1. Spellings -/

namespace Document

variable {σ τ : Type}

mutual

/-- The document with every leaf in another spelling. -/
def map (f : σ → τ) : Document σ → Document τ
  | .scalar s => .scalar (f s)
  | .list items => .list (mapItems f items)
  | .table entries => .table (mapEntries f entries)
termination_by structural d => d

def mapItems (f : σ → τ) : List (Document σ) → List (Document τ)
  | [] => []
  | d :: ds => map f d :: mapItems f ds
termination_by structural ds => ds

def mapEntries (f : σ → τ) : List (String × Document σ) → List (String × Document τ)
  | [] => []
  | (k, d) :: es => (k, map f d) :: mapEntries f es
termination_by structural es => es

end

end Document

/-- What a spelling of a leaf has to be read as. -/
structure JsonScalar.Spelled {σ : Type} [Scalar σ] (write : JsonScalar → σ) : Prop where
  text : ∀ t, Scalar.text? (write (.text t)) = some t
  flag : ∀ b, Scalar.flag? (write (.bool b)) = some b
  number : ∀ n : Nat, Scalar.number? (write (.int n)) = some (n : Int)
  null : Scalar.absent? (write .null) = some true
  text_present : ∀ t, Scalar.absent? (write (.text t)) = some false
  number_present : ∀ n : Nat, Scalar.absent? (write (.int n)) = some false

/-- In a draft a leaf that can be read is spelled by itself. -/
theorem JsonScalar.spelled_some : JsonScalar.Spelled (some : JsonScalar → Option JsonScalar) where
  text _ := rfl
  flag _ := rfl
  number _ := rfl
  null := rfl
  text_present _ := rfl
  number_present _ := rfl

/-! ## 2. Numbers in YAML -/

namespace YamlScalar

open Text

/-- A decimal form is no number to another radix, and has no zeros to spare. -/
theorem magnitude?_digits (n : Nat) : magnitude? (digits n) = some n := by
  have decimal := isDecimal_digits n
  -- behind a zero there is no letter, and no digit either
  have lead {c : Char} {rest : List Char} (text : digits n = '0' :: c :: rest) : False := by
    have alone := decimal.lead (by rw [text]; rfl)
    rw [text] at alone
    cases alone
  have unpadded : isPaddedDigits (digits n) = false := by
    unfold isPaddedDigits
    split
    · next text => exact (lead text).elim
    · rfl
  unfold magnitude?
  split
  · next text => exact (lead text).elim
  · next text => exact (lead text).elim
  · next text => exact (lead text).elim
  · rw [unpadded]
    exact inRadix?_digits n

theorem count?_digits (n : Nat) : count? (String.ofList (digits n)) = some n := by
  unfold count?
  rw [String.toList_ofList]
  split
  · next rest text =>
    have plus : isDigit '+' = true := isDigit_of_mem_digits (n := n) (by simp [text])
    exact absurd plus (by decide)
  · exact magnitude?_digits n

/-! ## 3. Leaves in YAML -/

/-- How YAML spells a leaf of a JSON value: a text in the first style that keeps it, and what
    is no text plainly. -/
def ofJson : JsonScalar → YamlScalar
  | .null => ⟨"null", .plain, none⟩
  | .bool b => ⟨if b then "true" else "false", .plain, none⟩
  | .int n => ⟨String.ofList (Json.intText n), .plain, none⟩
  | .float bits => ⟨String.ofList (Json.floatText bits), .plain, none⟩
  | .text t => ⟨t, match Yaml.textStyle t with
      | .plain => .plain
      | .block => .literal
      | .single | .double => .marked, none⟩

/-- A text that could be taken for nothing is not plain. -/
theorem not_isNothing_of_textStyle {t : String} (style : Yaml.textStyle t = .plain) :
    isNothing t = false := by
  by_contra nothing
  have other : Yaml.readsAsOther t = true := by
    simp only [isNothing, Bool.not_eq_false, Bool.or_eq_true] at nothing
    simp only [Yaml.readsAsOther, Bool.or_eq_true]
    tauto
  exact Yaml.textStyle_of_readsAsOther other style

theorem count?_of_isNothing {t : String} (nothing : isNothing t = true) : count? t = none := by
  simp only [isNothing, nullWords, Bool.or_eq_true, String.isEmpty_iff, List.contains_iff_mem,
    List.mem_cons, List.not_mem_nil, or_false] at nothing
  rcases nothing with rfl | rfl | rfl | rfl | rfl
  all_goals rfl

theorem isNothing_digits (n : Nat) : isNothing (String.ofList (digits n)) = false := by
  by_contra nothing
  have none := count?_of_isNothing (by simpa using nothing)
  rw [count?_digits] at none
  cases none

theorem ofJson_count (n : Nat) : ofJson (.int n) = ⟨String.ofList (digits n), .plain, none⟩ := by
  have above : ¬(n : Int) < 0 := by omega
  simp [ofJson, Json.intText, above]

theorem spelled_ofJson : JsonScalar.Spelled ofJson where
  text _ := rfl
  flag b := by cases b <;> rfl
  number n := by
    rw [ofJson_count]
    simp [Scalar.number?, word?, count?_digits]
  null := rfl
  text_present t := by
    simp only [ofJson, Scalar.absent?]
    cases style : Yaml.textStyle t with
    | plain => simp [absent?, not_isNothing_of_textStyle style]
    | block => rfl
    | single => rfl
    | double => rfl
  number_present n := by
    rw [ofJson_count]
    simp [Scalar.absent?, absent?, isNothing_digits]

end YamlScalar

end AccessControl
