/-
  AccessControl/Proofs/Json/RoundTrip.lean
  ========================================
  **What is written is what is read.**

  The formats leave a field out, write it as `null` or write an empty list, and the readers
  take a missing field as a value of its own, each in its own places.  That the two sides fit
  is said here for the formats that cross the border of the library.  Whatever is written reads
  back as the same, and so does its canonical form, in which a table has its entries in the
  order of their names.  So a value that reads at all, however it spells what it stands for,
  is read once more from what is written of it.

  ## Main definitions

  * `RoundTrips`: a format from which nothing is lost.

  ## Main statements

  * `steady` for each reader: it looks at a value only up to its canonical form;
  * `formats_round_trip`: the formats lose nothing.
-/
import AccessControl.Access.Wire
import AccessControl.Failure.Wire
import AccessControl.Party.View
import AccessControl.Proofs.Json.Steady
import AccessControl.Resource.View
import AccessControl.Seed.Wire

namespace AccessControl

open Json (Steady)

/-- Nothing is lost between the writing and the reading of a format: neither of what is
    written, whatever the order of the entries that are kept of it, nor of what was read. -/
def RoundTrips {α : Type} (write : α → Json) (read : Json → Option α) : Prop :=
  (∀ a, read (write a) = some a ∧ read (write a).canonical = some a) ∧
  ∀ j a, read j = some a → read j.canonical = some a ∧ read (write a) = read j ∧
    read (write a).canonical = read j

theorem RoundTrips.of_steady {α : Type} {write : α → Json} {read : Json → Option α}
    (steady : Steady read) (back : ∀ a, read (write a) = some a) : RoundTrips write read := by
  have kept : ∀ a, read (write a).canonical = some a := fun a => steady (write a) a (back a)
  refine ⟨fun a => ⟨back a, kept a⟩, fun j a h => ⟨steady j a h, ?_, ?_⟩⟩
  · rw [back a, h]
  · rw [kept a, h]

/-! ## 1. Ids, credentials, tokens -/

theorem ObjectId.steady : Steady ObjectId.decode? := Steady.text.map _

theorem ObjectId.steady_all : Steady ObjectId.decodeAll? := ObjectId.steady.list

theorem UserId.steady : Steady UserId.decode? := Steady.text.map _

theorem SessionId.steady : Steady SessionId.decode? := Steady.text.map _

theorem Timestamp.steady : Steady Timestamp.decode? := Steady.number.map _

theorem Credentials.steady : Steady Credentials.decode? :=
  .record (.bind (.required UserId.steady) fun _ => .bind (.required .text) fun _ => .const _)

theorem SessionToken.steady : Steady SessionToken.decode? :=
  .record (.bind (.required SessionId.steady) fun _ =>
    .bind (.required UserId.steady) fun _ => .const _)

/-! ## 2. Failures -/

theorem Cause.steady : Steady Cause.decode? :=
  .record (.bind (.required .text) fun _ => .bind (.required .text) fun _ => .const _)

/-- Details are kept in canonical form from the first. -/
theorem Details.steady : Steady Details.decode? := by
  intro j d h
  cases j with
  | scalar s => cases h
  | list items => simp [decode?, Document.json?_eq_some] at h
  | table entries =>
    have again : Details.ofEntries (Json.canonicalEntries entries) = Details.ofEntries entries := by
      have form := (Details.ofEntries entries).canonical
      simp only [Details.ofEntries] at form ⊢
      simp only [form]
    simpa only [decode?, Document.json?_eq_some, Json.canonical, again] using h

theorem Failure.steady : Steady Failure.decode? :=
  .record (.bind (.required .text) fun _ => .bind (.required .choice) fun _ =>
    .bind (.required .text) fun _ => .bind (.orElse Steady.text.optional) fun _ =>
    .bind (.required (Steady.number.map _)) fun _ => .bind (.required .choice) fun _ =>
    .bind (.required .choice) fun _ => .bind (.orElse Details.steady) fun _ =>
    .bind (.orElse Cause.steady.list) fun _ => .bind (.orElse Steady.text.optional) fun _ =>
    .const _)

/-! ## 3. Resources -/

theorem RealmData.steady : Steady RealmData.decode? :=
  .record (.bind (.optional ObjectId.steady) fun _ => .bind (.optional .text) fun _ =>
    .bind (.required ObjectId.steady_all) fun _ => .bind (.required ObjectId.steady_all) fun _ =>
    .bind (.required ObjectId.steady_all) fun _ => .const _)

theorem RepositoryData.steady : Steady RepositoryData.decode? :=
  .record (.bind (.optional .text) fun _ => .bind (.required ObjectId.steady_all) fun _ =>
    .bind (.required ObjectId.steady_all) fun _ => .bind (.required ObjectId.steady_all) fun _ =>
    .bind (.required ObjectId.steady_all) fun _ => .const _)

theorem DockerfileData.steady : Steady DockerfileData.decode? :=
  .record (.bind (.required .text) fun _ =>
    .bind (.required ObjectId.steady_all) fun _ => .const _)

theorem DockerImageData.steady : Steady DockerImageData.decode? :=
  .record (.bind (.optional .text) fun _ => .bind (.optional .text) fun _ =>
    .bind (.required ObjectId.steady_all) fun _ => .const _)

theorem ScanConfigData.steady : Steady ScanConfigData.decode? :=
  .record (.bind (.required .text) fun _ => .bind (.optional .text) fun _ =>
    .bind (.optional ObjectId.steady) fun _ => .bind (.required ObjectId.steady_all) fun _ =>
    .bind (.required ObjectId.steady_all) fun _ => .const _)

theorem FlagData.steady : Steady FlagData.decode? :=
  .record (.bind (.required .text) fun _ =>
    .bind (.required ObjectId.steady_all) fun _ => .const _)

/-- A union is read by its tag; under a tag that is no kind, nothing is. -/
theorem ResourceKind.steady : Steady (ResourceKind.decode? : Json → Option ResourceKind) := by
  intro j k h
  simp only [decode?, Document.json?_eq_some, Option.bind_eq_bind, Option.bind_some] at h ⊢
  refine Steady.tagged (fun tag content k h => ?_) j k h
  simp only at h ⊢
  split at h
  · exact RealmData.steady.map _ content k h
  · exact RepositoryData.steady.map _ content k h
  · exact DockerfileData.steady.map _ content k h
  · exact DockerImageData.steady.map _ content k h
  · exact ScanConfigData.steady.map _ content k h
  · exact FlagData.steady.map _ content k h
  · cases h

/-- What a resource has in common with all is a record in its record. -/
theorem Resource.steady : Steady Resource.decode? :=
  .record (.nested
    (fun _ => .bind (.const _) fun _ => .bind (.const _) fun _ => .bind (.const _) fun _ =>
      .bind (.const _) fun _ => .bind (.const _) fun _ => .bind (.const _) fun _ =>
      .bind (.required ResourceKind.steady) fun _ => .const _)
    (fun _ => .bind (.required ObjectId.steady) fun _ => .bind (.required .text) fun _ =>
      .bind (.orElse Steady.text.optional) fun _ => .bind (.required Timestamp.steady) fun _ =>
      .bind (.optional ObjectId.steady) fun _ => .bind (.orElse ObjectId.steady_all) fun _ =>
      .bind (.const _) fun _ => .const _))

/-! ## 4. Parties -/

theorem LoginAttempt.steady : Steady LoginAttempt.decode? :=
  .record (.bind (.required Timestamp.steady) fun _ => .bind (.required .flag) fun _ => .const _)

theorem PartyInfo.steady : Steady PartyInfo.decode? :=
  .record (.bind (.required ObjectId.steady) fun _ => .bind (.required .text) fun _ =>
    .bind (.required ObjectId.steady) fun _ => .bind (.required Timestamp.steady) fun _ =>
    .bind (.required .flag) fun _ => .bind (.orElse ObjectId.steady_all) fun _ => .const _)

theorem User.steady : Steady User.decode? :=
  .record (.bind (.required PartyInfo.steady) fun _ => .bind (.required UserId.steady) fun _ =>
    .bind (.required .text) fun _ => .bind (.orElse ObjectId.steady_all) fun _ =>
    .bind (.orElse LoginAttempt.steady.list) fun _ => .bind (.orElse ObjectId.steady_all) fun _ =>
    .const _)

theorem Group.steady : Steady Group.decode? :=
  .record (.bind (.required PartyInfo.steady) fun _ => .bind (.optional .text) fun _ =>
    .bind (.orElse ObjectId.steady_all) fun _ => .const _)

theorem Party.steady : Steady (Party.decode? : Json → Option Party) := by
  intro j p h
  simp only [decode?, Document.json?_eq_some, Option.bind_eq_bind, Option.bind_some] at h ⊢
  refine Steady.tagged (fun tag content p h => ?_) j p h
  simp only at h ⊢
  split at h
  · exact User.steady.map _ content p h
  · exact Group.steady.map _ content p h
  · cases h

/-! ## 5. Grants, decisions, events -/

/-- Five truth values are five leaves. -/
theorem Mask.steady : Steady Mask.decode? := by
  intro j m h
  obtain ⟨bits, hb, hm⟩ := Option.bind_eq_some_iff.1 h
  exact Option.bind_eq_some_iff.2 ⟨bits, Steady.flag.list j bits hb, hm⟩

theorem AclEntry.steady : Steady AclEntry.decode? :=
  .record (.bind (.required ObjectId.steady) fun _ => .bind (.required ObjectId.steady) fun _ =>
    .bind (.required ObjectId.steady) fun _ => .bind (.required Mask.steady) fun _ => .const _)

theorem Grant.steady : Steady Grant.decode? :=
  .record (.bind (.required ObjectId.steady) fun _ => .bind (.required ObjectId.steady) fun _ =>
    .bind (.required ObjectId.steady) fun _ => .bind (.required .choice) fun _ => .const _)

theorem Decision.steady : Steady Decision.decode? :=
  .record (.bind (.required .flag) fun _ => .bind (.optional .choice) fun _ =>
    .bind (.orElse Grant.steady.optional) fun _ => .bind (.orElse Steady.text.optional) fun _ =>
    .const _)

theorem DecisionEvent.steady : Steady DecisionEvent.decode? :=
  .record (.bind (.required UserId.steady) fun _ => .bind (.required ObjectId.steady) fun _ =>
    .bind (.optional .choice) fun _ => .bind (.required .flag) fun _ =>
    .bind (.orElse Steady.choice.optional) fun _ =>
    .bind (.orElse ObjectId.steady.optional) fun _ => .const _)

/-! ## 6. Seeds -/

section Seeds

variable {α : Type} {name : String}

theorem Record.Steady.optionalText : Record.Steady fun r => r.text? name :=
  .orElse Steady.text.optional

theorem Record.Steady.items {read : Json → Option α} (steady : Json.Steady read) :
    Record.Steady fun r => r.list? name read :=
  .orElse steady.list

theorem UserSeed.steady : Steady UserSeed.decode? :=
  .record (.bind (.required .text) fun _ => .bind .optionalText fun _ =>
    .bind (.required .text) fun _ => .const _)

theorem GroupSeed.steady : Steady GroupSeed.decode? :=
  .record (.bind (.required .text) fun _ => .bind .optionalText fun _ =>
    .bind (.items .text) fun _ => .const _)

theorem DockerfileSeed.steady : Steady DockerfileSeed.decode? :=
  .record (.bind (.required .text) fun _ => .bind (.required .text) fun _ => .const _)

theorem ImageSeed.steady : Steady ImageSeed.decode? :=
  .record (.bind (.required .text) fun _ => .bind .optionalText fun _ => .const _)

theorem ScanConfigSeed.steady : Steady ScanConfigSeed.decode? :=
  .record (.bind (.required .text) fun _ => .bind (.required .text) fun _ => .const _)

theorem FlagSeed.steady : Steady FlagSeed.decode? :=
  .record (.bind (.required .text) fun _ => .bind (.required .text) fun _ => .const _)

theorem RepositorySeed.steady : Steady RepositorySeed.decode? :=
  .record (.bind (.required .text) fun _ => .bind .optionalText fun _ =>
    .bind (.items DockerfileSeed.steady) fun _ => .bind (.items ImageSeed.steady) fun _ =>
    .bind (.items ScanConfigSeed.steady) fun _ => .bind (.items FlagSeed.steady) fun _ => .const _)

theorem RealmSeed.steady : Steady RealmSeed.decode? :=
  .record (.bind (.required .text) fun _ => .bind .optionalText fun _ =>
    .bind (.items UserSeed.steady) fun _ => .bind (.items GroupSeed.steady) fun _ =>
    .bind (.items RepositorySeed.steady) fun _ => .const _)

theorem GrantSeed.steady : Steady GrantSeed.decode? :=
  .record (.bind (.required .text) fun _ => .bind .optionalText fun _ =>
    .bind .optionalText fun _ => .bind (.required Steady.choice.list) fun _ => .const _)

theorem Seed.steady : Steady Seed.decode? :=
  .record (.bind (.items RealmSeed.steady) fun _ =>
    .bind (.items GrantSeed.steady) fun _ => .const _)

end Seeds

/-! ## 7. All formats -/

/-- The formats lose nothing: failures of any code, with any details and causes, resources of
    every kind, users and groups, grants, decisions and their events, seeds, credentials and
    tokens. -/
theorem formats_round_trip :
    RoundTrips Failure.encode Failure.decode? ∧
    RoundTrips Resource.encode Resource.decode? ∧
    RoundTrips Party.encode Party.decode? ∧
    RoundTrips AclEntry.encode AclEntry.decode? ∧
    RoundTrips Decision.encode Decision.decode? ∧
    RoundTrips DecisionEvent.encode DecisionEvent.decode? ∧
    RoundTrips Seed.encode Seed.decode? ∧
    RoundTrips Credentials.encode Credentials.decode? ∧
    RoundTrips SessionToken.encode SessionToken.decode? :=
  ⟨.of_steady Failure.steady Failure.decode?_encode,
    .of_steady Resource.steady Resource.decode?_encode,
    .of_steady Party.steady Party.decode?_encode,
    .of_steady AclEntry.steady AclEntry.decode?_encode,
    .of_steady Decision.steady Decision.decode?_encode,
    .of_steady DecisionEvent.steady DecisionEvent.decode?_encode,
    .of_steady Seed.steady Seed.decode?_encode,
    .of_steady Credentials.steady Credentials.decode?_encode,
    .of_steady SessionToken.steady SessionToken.decode?_encode⟩

end AccessControl
