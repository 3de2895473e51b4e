/-
  AccessControl/Failure/Wire.lean
  ===============================
  **Failures as JSON values.**

  A failure is stored with all of its fields, those that say nothing left out.
  Reading accepts every field in any order, passes over unknown ones, and takes an
  optional field that is missing or `null` as absent.  The details have to be readable
  as a whole.

  ## Main definitions

  * `Failure.encode`, `Failure.decode?`: the stored form of a failure;
  * `Cause.encode`, `Cause.decode?`: that of a link of its chain.

  ## Main statements

  * `Failure.decode?_encode`: what is written reads back as the same failure.
-/
import AccessControl.Failure.Basic
import AccessControl.Json.Draft

namespace AccessControl

variable {σ : Type} [Scalar σ]

/-! ## 1. Classes -/

def FailureKind.decode? (d : Document σ) : Option FailureKind :=
  d.choice? (FailureKind.all.map fun k => (k.name, k))

def Retry.decode? (d : Document σ) : Option Retry :=
  d.choice? [("Transient", .transient), ("Permanent", .permanent)]

def Severity.decode? (d : Document σ) : Option Severity :=
  d.choice? [("Info", .info), ("Warn", .warn), ("Error", .error), ("Critical", .critical)]

theorem FailureKind.decode?_name (k : FailureKind) : decode? (Json.text k.name) = some k := by
  cases k <;> rfl

theorem Retry.decode?_name (r : Retry) : decode? (Json.text r.name) = some r := by
  cases r <;> rfl

theorem Severity.decode?_name (s : Severity) : decode? (Json.text s.name) = some s := by
  cases s <;> rfl

/-! ## 2. Causes and details -/

def Cause.encode (c : Cause) : Json :=
  .table [("code", Json.text c.code), ("summary", Json.text c.summary)]

def Cause.decode? (d : Document σ) : Option Cause := do
  let r ← d.record? ["code", "summary"]
  return { code := ← r.required "code" Document.text?,
           summary := ← r.required "summary" Document.text? }

theorem Cause.decode?_encode (c : Cause) : decode? c.encode = some c := rfl

/-- The details that a table stands for, of any values that can be read. -/
def Details.decode? {σ : Type} [JsonLeaf σ] (d : Document σ) : Option Details :=
  match d.json? with
  | some (.table entries) => some (.ofEntries entries)
  | _ => none

/-! ## 3. Failures -/

def Failure.fieldNames : List String :=
  ["code", "kind", "message_user", "message_dev", "http_status", "retryable", "severity", "meta",
   "causes", "correlation_id"]

def Cause.entry (causes : List Cause) : List (String × Json) :=
  if causes = [] then [] else [("causes", .list (causes.map Cause.encode))]

def Failure.entries (f : Failure) : List (String × Json) :=
  [("code", Json.text f.code), ("kind", Json.text f.kind.name),
    ("message_user", Json.text f.userMessage)]
  ++ Json.optionalEntry "message_dev" f.devMessage
  ++ [("http_status", Json.int f.status.toNat), ("retryable", Json.text f.retry.name),
      ("severity", Json.text f.severity.name), ("meta", f.details.toJson)]
  ++ Cause.entry f.causes
  ++ Json.optionalEntry "correlation_id" f.correlation

def Failure.encode (f : Failure) : Json := .table f.entries

def decodeStatus? (d : Document σ) : Option UInt16 :=
  (d.number? 0 65535).map fun n => UInt16.ofNat n.toNat

def Failure.decode? {σ : Type} [JsonLeaf σ] (d : Document σ) : Option Failure := do
  let r ← d.record? Failure.fieldNames
  return {
    code := ← r.required "code" Document.text?
    kind := ← r.required "kind" FailureKind.decode?
    userMessage := ← r.required "message_user" Document.text?
    devMessage := ← r.orElse "message_dev" none (Document.optional? Document.text?)
    status := ← r.required "http_status" decodeStatus?
    retry := ← r.required "retryable" Retry.decode?
    severity := ← r.required "severity" Severity.decode?
    details := ← r.orElse "meta" .empty Details.decode?
    causes := ← r.orElse "causes" [] (Document.list? Cause.decode?)
    correlation := ← r.orElse "correlation_id" none (Document.optional? Document.text?) }

theorem decodeStatus?_toNat (s : UInt16) : decodeStatus? (Json.int s.toNat) = some s := by
  have h : s.toNat < 65536 := s.toNat_lt
  have low : (0 : Int) ≤ s.toNat := by omega
  have high : (s.toNat : Int) ≤ 65535 := by omega
  simp [decodeStatus?, Document.number?, Scalar.number?, Option.filter, low, high]

theorem Cause.names_entry (causes : List Cause) :
    ((Cause.entry causes).map Prod.fst).Sublist ["causes"] := by
  by_cases h : causes = [] <;> simp [entry, h]

theorem Cause.lookup_entry (causes : List Cause) :
    (Cause.entry causes).lookup "causes"
      = if causes = [] then none else some (.list (causes.map Cause.encode)) := by
  by_cases h : causes = [] <;> simp [entry, h]

theorem Cause.lookup_entry_of_ne {name : String} (causes : List Cause) (h : name ≠ "causes") :
    (Cause.entry causes).lookup name = none := by
  by_cases empty : causes = [] <;> simp [entry, empty, Record.lookup_cons_of_ne h]

theorem Failure.names_entries (f : Failure) :
    (f.entries.map Prod.fst).Sublist Failure.fieldNames := by
  simp only [entries, List.map_append]
  exact ((((List.Sublist.refl _).append (Json.names_optionalEntry _ _)).append
    (List.Sublist.refl _)).append (Cause.names_entry _)).append (Json.names_optionalEntry _ _)

theorem Failure.decode?_encode (f : Failure) : decode? f.encode = some f := by
  have fields : f.encode.record? fieldNames = some ⟨f.entries, false⟩ :=
    Document.record?_of_sublist (by simp [fieldNames]) f.names_entries
  obtain ⟨code, kind, user, dev, status, retry, severity, details, causes, correlation⟩ := f
  have hd : Details.decode? details.toJson = some details := by
    simp [Details.decode?, Details.toJson, Details.ofEntries_entries, Document.json?_eq_some]
  have hc := Document.list?_map Cause.decode?_encode causes
  simp only [decode?, fields, entries, Record.required, Record.orElse, List.lookup_append,
    List.lookup_cons_self, Record.lookup_cons_of_ne, List.lookup_nil, Json.lookup_optionalEntry,
    Json.lookup_optionalEntry_of_ne, Cause.lookup_entry, Cause.lookup_entry_of_ne, ne_eq,
    String.reduceEq, not_false_eq_true, Option.none_or, Option.or_none,
    Option.bind_eq_bind, Option.bind_some, Option.pure_def, Document.text?, Scalar.text?,
    FailureKind.decode?_name, Retry.decode?_name, Severity.decode?_name, decodeStatus?_toNat, hd]
  cases dev <;> cases correlation <;> by_cases empty : causes = [] <;>
    simp [empty, hc, Document.optional?, Document.text?, Scalar.text?, Scalar.absent?]

end AccessControl
