/-
  AccessControl/Json/Draft.lean
  =============================
  **JSON values as their readers meet them.**

  A text can be well formed and still hold what stands for no value: half of a pair of
  surrogates, a number beyond every double, a table that is nested too deep.  That is
  no fault where it is passed over.  So a text is first read as a draft, in which such
  a place is a leaf that cannot be read; it is a fault only for the reader that wants
  the leaf.  Whoever wants a whole value, whatever it holds, wants all of its leaves.

  ## Main definitions

  * `JsonDraft`: values with leaves that may not be readable;
  * `JsonLeaf`: leaves that hold a JSON scalar, if they can be read;
  * `Document.json?`: the value of a document, if all of it can be read.

  ## Main statements

  * `json?_eq_some`: a value can be read as a whole.
-/
import AccessControl.Json.Value

namespace AccessControl

/-- What a JSON text holds: a leaf is `none` if what stands there can only be passed
    over. -/
abbrev JsonDraft := Document (Option JsonScalar)

/-- Leaves that hold a JSON scalar, if they can be read. -/
class JsonLeaf (σ : Type) extends Scalar σ where
  json? : σ → Option JsonScalar

instance : JsonLeaf JsonScalar where
  json? := some

instance : JsonLeaf (Option JsonScalar) where
  json? := id

namespace Document

variable {σ : Type} [JsonLeaf σ]

mutual

/-- The value of a document, if all of its leaves can be read. -/
def json? : Document σ → Option Json
  | .scalar s => (JsonLeaf.json? s).map .scalar
  | .list items => (jsonItems? items).map .list
  | .table entries => (jsonEntries? entries).map .table
termination_by structural d => d

def jsonItems? : List (Document σ) → Option (List Json)
  | [] => some []
  | d :: ds => (json? d).bind fun j => (jsonItems? ds).map (j :: ·)
termination_by structural ds => ds

def jsonEntries? : List (String × Document σ) → Option (List (String × Json))
  | [] => some []
  | (k, d) :: es => (json? d).bind fun j => (jsonEntries? es).map ((k, j) :: ·)
termination_by structural es => es

end

mutual

/-- A value can be read as a whole. -/
theorem json?_eq_some : (j : Json) → j.json? = some j
  | .scalar _ => rfl
  | .list items => by simp only [json?, jsonItems?_eq_some items, Option.map_some]
  | .table entries => by simp only [json?, jsonEntries?_eq_some entries, Option.map_some]
termination_by structural j => j

theorem jsonItems?_eq_some : (js : List Json) → jsonItems? js = some js
  | [] => rfl
  | j :: js => by
    simp only [jsonItems?, json?_eq_some j, jsonItems?_eq_some js, Option.bind_some,
      Option.map_some]
termination_by structural js => js

theorem jsonEntries?_eq_some : (es : List (String × Json)) → jsonEntries? es = some es
  | [] => rfl
  | (k, j) :: es => by
    simp only [jsonEntries?, json?_eq_some j, jsonEntries?_eq_some es, Option.bind_some,
      Option.map_some]
termination_by structural es => es

end

end Document

end AccessControl
