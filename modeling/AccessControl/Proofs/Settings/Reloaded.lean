/-
  AccessControl/Proofs/Settings/Reloaded.lean
  ===========================================
  **Settings that were shown can be used again.**

  Settings are shown without their salt, and nothing else is left out of them: two settings are
  shown alike exactly if they differ in the salt alone.  An idle limit that is absent is shown as
  absent.  It must be, since a limit that is left out is not absent but the default.

  What is shown reads back with an empty salt, as a value, from its text in either layout, and
  with its leaves as YAML spells them.  With the salt in the environment, and no word about
  authorization there, what was read back is what was shown.

  ## Main definitions

  * `Settings.readings`: what is read of settings that were shown.

  ## Main statements

  * `Settings.steady`: the reader looks at a value only up to its canonical form;
  * `Settings.decode?_map`: settings read back in every spelling;
  * `Settings.encode_eq_iff`: which settings are shown alike;
  * `settings_reload`: all of it, and what the environment overrides.
-/
import AccessControl.Proofs.Json.Layout
import AccessControl.Proofs.Json.Steady
import AccessControl.Settings.Wire

namespace AccessControl

open Json (Steady)

/-! ## 1. Readers of settings -/

theorem SessionSettings.steady : Steady SessionSettings.decode? :=
  .record (.bind (.orElse .text) fun _ => .bind (.orElse (Steady.number.map _)) fun _ =>
    .bind (.orElse .flag) fun _ => .bind (.orElse Steady.text.optional) fun _ => .const _)

theorem LoginSettings.steady : Steady LoginSettings.decode? :=
  .record (.bind (.orElse (Steady.number.map _).optional) fun _ =>
    .bind (.orElse .text) fun _ => .const _)

theorem Settings.steady : Steady Settings.decode? :=
  .record (.bind (.orElse .text) fun _ => .bind (.orElse .text) fun _ =>
    .bind (.orElse .flag) fun _ => .bind (.orElse SessionSettings.steady) fun _ =>
    .bind (.orElse LoginSettings.steady) fun _ => .bind (.orElse Steady.text.optional) fun _ =>
    .const _)

section Spelled

variable {σ : Type} [Scalar σ] {write : JsonScalar → σ} (spelled : JsonScalar.Spelled write)

include spelled

theorem Json.word64?_map (n : UInt64) : ((Json.word64 n).map write).word64? = some n := by
  have bound : (n.toNat : Int) ≤ 18446744073709551615 := by
    have := n.toNat_lt
    omega
  simp [Json.word64, Document.map, Document.word64?, Document.number?, spelled.number,
    Option.filter, bound]

theorem Json.word32?_map (n : UInt32) : ((Json.word32 n).map write).word32? = some n := by
  have bound : (n.toNat : Int) ≤ 4294967295 := by
    have := n.toNat_lt
    omega
  simp [Json.word32, Document.map, Document.word32?, Document.number?, spelled.number,
    Option.filter, bound]

theorem Json.optional?_map {α : Type} {leaf : α → JsonScalar} {read : Document σ → Option α}
    (back : ∀ a, read (.scalar (write (leaf a))) = some a)
    (present : ∀ a, Scalar.absent? (write (leaf a)) = some false) (o : Option α) :
    ((Json.optional (fun a => .scalar (leaf a)) o).map write).optional? read = some o := by
  cases o with
  | none => simp [Json.optional, Document.map, Document.optional?, spelled.null]
  | some a => simp [Json.optional, Document.map, Document.optional?, present, back]

theorem Json.optionalText?_map (o : Option String) :
    ((Json.optional Json.text o).map write).optional? Document.text? = some o :=
  Json.optional?_map spelled spelled.text spelled.text_present o

theorem Json.optionalWord32?_map (o : Option UInt32) :
    ((Json.optional Json.word32 o).map write).optional? Document.word32? = some o :=
  Json.optional?_map spelled (Json.word32?_map spelled) (fun n => spelled.number_present n.toNat) o

theorem SessionSettings.decode?_map (s : SessionSettings) :
    SessionSettings.decode? (s.encode.map write) = some s := by
  simp [decode?, encode, Document.map, Document.mapEntries, Document.record?, Record.orElse,
    Record.lookup_cons_of_ne, Json.word64?_map spelled, Json.optionalText?_map spelled,
    Document.text?, Document.flag?, spelled.text, spelled.flag]

theorem LoginSettings.decode?_map (s : LoginSettings) :
    LoginSettings.decode? (s.encode.map write) = some s := by
  simp [decode?, encode, Document.map, Document.mapEntries, Document.record?, Record.orElse,
    Record.lookup_cons_of_ne, Json.optionalWord32?_map spelled, Document.text?, spelled.text]

/-- In every spelling, settings that are shown read back without their salt. -/
theorem Settings.decode?_map (s : Settings) :
    Settings.decode? (s.encode.map write) = some { s with secretSalt := "" } := by
  simp [decode?, encode, Document.map, Document.mapEntries, Document.record?, Record.orElse,
    Record.lookup_cons_of_ne, SessionSettings.decode?_map spelled,
    LoginSettings.decode?_map spelled, Json.optionalText?_map spelled, Document.text?,
    Document.flag?, spelled.text, spelled.flag, default]

end Spelled

/-! ## 2. What is shown -/

namespace Settings

/-- All leaves are texts, truth values and words, and they are at most two tables deep. -/
theorem fits_encode (s : Settings) : Json.Fits Json.depthLimit s.encode := by
  have word (n : Nat) (h : n < UInt64.size) : (JsonScalar.int n).Fits := by
    refine ⟨?_, ?_⟩
    · exact Int.le_trans (by decide) (Int.natCast_nonneg n)
    · exact Int.ofNat_le.2 (Nat.le_sub_one_of_lt h)
  have age := word s.session.maxAgeSeconds.toNat s.session.maxAgeSeconds.toNat_lt
  have limit : Json.Fits (Json.depthLimit - 2) (Json.optional Json.word32 s.login.maxFailures) := by
    cases s.login.maxFailures with
    | none => trivial
    | some n => exact word n.toNat (Nat.lt_trans n.toNat_lt (by decide))
  have text (depth : Nat) (o : Option String) : Json.Fits depth (Json.optional Json.text o) := by
    cases o <;> trivial
  refine ⟨by decide, trivial, trivial, ?_, ?_, text _ _, trivial⟩
  · exact ⟨by decide, trivial, age, trivial, text _ _, trivial⟩
  · exact ⟨by decide, limit, trivial, trivial⟩

/-- Two settings are shown alike exactly if they differ in the salt alone. -/
theorem encode_eq_iff {s t : Settings} :
    t.encode = s.encode ↔ t = { s with secretSalt := t.secretSalt } := by
  constructor
  · intro same
    have read := decode?_encode t
    rw [same, decode?_encode] at read
    have bare := Option.some.inj read
    cases s
    cases t
    simp_all
  · intro same
    rw [same]
    rfl

/-- What is read of settings that were shown: as a value, as one with the entries of each table
    in order, from either text, and as YAML spells the leaves. -/
def readings (s : Settings) : List (Option Settings) :=
  [decode? s.encode, decode? s.encode.canonical,
    (Json.draft? (Json.compact s.encode)).bind decode?,
    (Json.draft? (Json.pretty s.encode)).bind decode?,
    decode? (s.encode.map YamlScalar.ofJson)]

theorem eq_of_mem_readings (s : Settings) :
    ∀ read ∈ s.readings, read = some { s with secretSalt := "" } := by
  have draft := decode?_map JsonScalar.spelled_some s
  have fits := s.fits_encode
  simp only [readings, List.forall_mem_cons]
  refine ⟨decode?_encode s, steady _ _ (decode?_encode s), ?_, ?_,
    decode?_map YamlScalar.spelled_ofJson s, nofun⟩
  · rw [Json.draft?_compact fits, Option.bind_some, draft]
  · rw [Json.draft?_pretty fits, Option.bind_some, draft]

theorem overridden_salt (s : Settings) :
    { s with secretSalt := "" }.overridden ⟨some s.secretSalt, none⟩ = s := by
  by_cases empty : s.secretSalt = ""
  · -- an empty salt overrides nothing, and none is needed
    cases s
    cases empty
    rfl
  · simp [overridden, Option.filter, empty]

end Settings

/-- What is shown of settings tells everything but the salt, and reads back, in every form, with
    an empty salt in its place.  Settings that were read back are the same as before as soon as
    the environment holds the salt and says nothing about authorization.  And whatever the
    environment holds, it overrides the salt and the authorization at most, and overriding them
    once more changes nothing. -/
theorem settings_reload (s : Settings) :
    (∀ t : Settings, t.encode = s.encode ↔ t = { s with secretSalt := t.secretSalt }) ∧
    (∀ read ∈ s.readings, read = some { s with secretSalt := "" } ∧
      read.map (·.overridden ⟨some s.secretSalt, none⟩) = some s) ∧
    ∀ e, (s.overridden e).overridden e = s.overridden e ∧
      { s.overridden e with secretSalt := s.secretSalt, authorize := s.authorize } = s := by
  refine ⟨fun t => Settings.encode_eq_iff, ?_, ?_⟩
  · intro read hread
    have bare := Settings.eq_of_mem_readings s read hread
    refine ⟨bare, ?_⟩
    rw [bare, Option.map_some, Settings.overridden_salt]
  · intro e
    exact ⟨Settings.overridden_overridden s e, rfl⟩

def Settings.unlimited : Settings :=
  { Settings.default with
    secretSalt := "pepper"
    session := { SessionSettings.default with idleLimit := none } }

/-- An absent limit is not taken for the default one. -/
theorem settings_reload_unlimited :
    ∃ t, (Json.draft? (Json.compact Settings.unlimited.encode)).bind Settings.decode? = some t ∧
      t.secretSalt = "" ∧ t.session.idleLimit = none ∧
      t.overridden ⟨some "pepper", none⟩ = Settings.unlimited := by
  obtain ⟨-, readings, -⟩ := settings_reload Settings.unlimited
  obtain ⟨read, same⟩ := readings
    ((Json.draft? (Json.compact Settings.unlimited.encode)).bind Settings.decode?)
    (by simp [Settings.readings])
  refine ⟨_, read, rfl, rfl, ?_⟩
  rw [read] at same
  exact Option.some.inj same

end AccessControl
