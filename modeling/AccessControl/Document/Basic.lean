/-
  AccessControl/Document/Basic.lean
  =================================
  **Documents: trees of scalars, lists and tables.**

  Settings, seeds and stored objects are read from text in more than one notation.
  Past the notation's own grammar, a text is a tree: its leaves are scalars, its
  inner nodes are lists, and tables of named entries.  What a scalar can stand for
  differs (one notation marks its strings, the other reads `5` as a text where a
  text is wanted), so the tree is generic in its scalars, and a class says what a
  notation's scalars read as.  A table keeps its entries in the order in which
  they were written, repeated names included: whether a repetition is a fault is
  for the reader of a record to say.

  ## Main definitions

  * `Document σ`: a tree over scalars `σ`, with decidable equality;
  * `Scalar σ`: what the scalars of a notation read as; a leaf of `Option σ` may be one
    that can only be passed over;
  * `Document.text?`, `flag?`, `number?`, `list?`, `optional?`: reading one node.

  ## Main statements

  * `Document.list?_map`: a list whose items read back reads back.
-/

namespace AccessControl

/-! ## 1. The tree -/

/-- A tree of scalars, lists and tables. -/
inductive Document (σ : Type) where
  | scalar (value : σ)
  | list (items : List (Document σ))
  | table (entries : List (String × Document σ))
deriving Repr, Inhabited

namespace Document

variable {σ : Type}

mutual

def decEq [DecidableEq σ] : (a b : Document σ) → Decidable (a = b)
  | .scalar a, .scalar b => decidable_of_iff (a = b) (by simp)
  | .list a, .list b =>
    match decEqItems a b with
    | isTrue h => isTrue (by rw [h])
    | isFalse h => isFalse (by simpa using h)
  | .table a, .table b =>
    match decEqEntries a b with
    | isTrue h => isTrue (by rw [h])
    | isFalse h => isFalse (by simpa using h)
  | .scalar _, .list _ => isFalse (by simp)
  | .scalar _, .table _ => isFalse (by simp)
  | .list _, .scalar _ => isFalse (by simp)
  | .list _, .table _ => isFalse (by simp)
  | .table _, .scalar _ => isFalse (by simp)
  | .table _, .list _ => isFalse (by simp)
termination_by structural a => a

def decEqItems [DecidableEq σ] : (a b : List (Document σ)) → Decidable (a = b)
  | [], [] => isTrue rfl
  | [], _ :: _ => isFalse (by simp)
  | _ :: _, [] => isFalse (by simp)
  | a :: as, b :: bs =>
    match decEq a b, decEqItems as bs with
    | isTrue h, isTrue t => isTrue (by rw [h, t])
    | isFalse h, _ => isFalse (by simp [h])
    | _, isFalse t => isFalse (by simp [t])
termination_by structural a => a

def decEqEntries [DecidableEq σ] : (a b : List (String × Document σ)) → Decidable (a = b)
  | [], [] => isTrue rfl
  | [], _ :: _ => isFalse (by simp)
  | _ :: _, [] => isFalse (by simp)
  | (k, a) :: as, (l, b) :: bs =>
    match (inferInstance : Decidable (k = l)), decEq a b, decEqEntries as bs with
    | isTrue hk, isTrue h, isTrue t => isTrue (by rw [hk, h, t])
    | isFalse h, _, _ => isFalse (by simp [h])
    | _, isFalse h, _ => isFalse (by simp [h])
    | _, _, isFalse t => isFalse (by simp [t])
termination_by structural a => a

end

instance [DecidableEq σ] : DecidableEq (Document σ) := decEq

end Document

/-! ## 2. What scalars read as -/

/-- What the scalars of a notation read as.  A scalar may read as several things:
    in a notation without marks on its strings, `5` is a number and a text. -/
class Scalar (σ : Type) where
  /-- The text that the scalar stands for where a text is wanted. -/
  text? : σ → Option String
  flag? : σ → Option Bool
  number? : σ → Option Int
  name? : σ → Option String := text?
  /-- Whether it says that an optional value is absent; it may claim so in vain. -/
  absent? : σ → Option Bool
  isVoid : σ → Bool
  /-- The notation also takes a record written as the list of its fields, and a
      bare choice written as a table of one entry. -/
  compact : Bool

/-- A leaf may hold what is written well and still cannot be read: it stands for
    nothing that is wanted, and can only be passed over. -/
instance {σ : Type} [Scalar σ] : Scalar (Option σ) where
  text? s := s.bind Scalar.text?
  flag? s := s.bind Scalar.flag?
  number? s := s.bind Scalar.number?
  name? s := s.bind Scalar.name?
  absent? s := s.bind Scalar.absent?
  isVoid s := s.any Scalar.isVoid
  compact := Scalar.compact σ

namespace Document

variable {σ : Type} [Scalar σ]

def text? : Document σ → Option String
  | .scalar s => Scalar.text? s
  | _ => none

def flag? : Document σ → Option Bool
  | .scalar s => Scalar.flag? s
  | _ => none

/-- The whole number at a leaf, when it lies between two bounds. -/
def number? (low high : Int) : Document σ → Option Int
  | .scalar s => (Scalar.number? s).filter fun n => low ≤ n && n ≤ high
  | _ => none

def word64? (d : Document σ) : Option UInt64 :=
  (d.number? 0 (UInt64.size - 1)).map fun n => UInt64.ofNat n.toNat

def word32? (d : Document σ) : Option UInt32 :=
  (d.number? 0 (UInt32.size - 1)).map fun n => UInt32.ofNat n.toNat

/-- Every item of a list, read in order. -/
def list? {α : Type} (read : Document σ → Option α) : Document σ → Option (List α)
  | .list items => items.mapM read
  | .scalar s => if Scalar.isVoid s then some [] else none
  | .table _ => none

/-- A list whose items read back reads back. -/
theorem list?_map {α : Type} {read : Document σ → Option α} {write : α → Document σ}
    (h : ∀ a, read (write a) = some a) (as : List α) :
    (Document.list (as.map write)).list? read = some as := by
  show (as.map write).mapM read = some as
  induction as with
  | nil => rfl
  | cons a as ih => rw [List.map_cons, List.mapM_cons, h a, ih]; rfl

/-- An optional value: absent if the leaf says so, else read. -/
def optional? {α : Type} (read : Document σ → Option α) : Document σ → Option (Option α)
  | .scalar s => (Scalar.absent? s).bind fun absent =>
    if absent then some none else (read (.scalar s)).map some
  | d => (read d).map some

/-- One of a closed list of names.  A compact notation may also write it as a
    table whose only entry has that name and no value. -/
def choice? {α : Type} (choices : List (String × α)) : Document σ → Option α
  | .scalar s => (Scalar.name? s).bind fun name => choices.lookup name
  | .table [(name, .scalar s)] =>
    if Scalar.compact σ && Scalar.absent? s == some true then choices.lookup name else none
  | _ => none

end Document

end AccessControl
