/-
  AccessControl/Document/Record.lean
  ==================================
  **Records: documents with known fields.**

  A record has fields with known names.  Written as a table, it may hold other
  entries too, which are passed over; a known name may stand there once only.  A
  compact notation also takes the list of the fields in their order, cut short
  only where the missing fields have a value of their own.  A record that is
  written as nothing at all has no fields.

  A union of records is told apart by a tag: the table has an entry `type`, or
  the list starts with the tag.

  A reader of documents does not look at all of them.  Of a record it takes the fields
  that it knows, and passes over what stands under other names; of a leaf it takes the
  scalar.  A shape says so ahead: where it expects a leaf, a list or a record, and which
  fields the record has.  A notation that has work to do for what is looked at, and only
  for that, needs no more than the shape.

  ## Main definitions

  * `Document.record? names d`: the known fields of a document;
  * `Record.required`, `Record.optional`, `Record.orElse`: reading one field;
  * `Document.tagged?`: the tag of a union and the document without it;
  * `Shape`: leaves, lists and records.

  ## Main statements

  * `record?_table`: a table in which no known name is repeated is a record;
  * `record?_of_sublist`: so is a table of known fields in their order, and it holds all
    its entries;
  * `lookup_cons_of_ne`: a field with another name is passed over;
  * `tagged?_cons`: a tag in front of fields is read off.
-/
import AccessControl.Document.Basic

namespace AccessControl

/-! ## 1. The known fields -/

structure Record (σ : Type) where
  fields : List (String × Document σ)
  /-- The record was written as the list of its fields, so that even a field that
      may be absent has to be written. -/
  positional : Bool

namespace Document

variable {σ : Type} [Scalar σ]

/-- The fields of a record with the known names `names`, in their order. -/
def record? (names : List String) : Document σ → Option (Record σ)
  | .table entries =>
    let known := entries.filter fun e => names.contains e.1
    if (known.map Prod.fst).Nodup then some ⟨known, false⟩ else none
  | .list items =>
    if Scalar.compact σ && items.length ≤ names.length then some ⟨names.zip items, true⟩
    else none
  | .scalar s => if Scalar.isVoid s then some ⟨[], false⟩ else none

/-- A table in which no known name is repeated is a record: its known entries. -/
theorem record?_table {names : List String} {entries : List (String × Document σ)}
    (h : ((entries.filter fun e => names.contains e.1).map Prod.fst).Nodup) :
    (Document.table entries).record? names
      = some ⟨entries.filter fun e => names.contains e.1, false⟩ := by
  simp only [record?]; rw [if_pos h]

/-- A table of known fields, in the order in which they are known, is a record of all its
    entries. -/
theorem record?_of_sublist {names : List String} {entries : List (String × Document σ)}
    (distinct : names.Nodup) (known : (entries.map Prod.fst).Sublist names) :
    (Document.table entries).record? names = some ⟨entries, false⟩ := by
  have all : entries.filter (fun e => names.contains e.1) = entries :=
    List.filter_eq_self.2 fun e he => by
      simpa using known.subset (List.mem_map.2 ⟨e, he, rfl⟩)
  rw [record?_table (by rw [all]; exact distinct.sublist known), all]

/-- The tag of a union, and the document of its fields without the tag. -/
def tagged? : Document σ → Option (String × Document σ)
  | .table entries =>
    match entries.filter (fun e => e.1 == "type") with
    | [(_, tag)] => tag.text?.map fun t => (t, .table (entries.filter fun e => e.1 != "type"))
    | _ => none
  | .list (tag :: items) =>
    if Scalar.compact σ then tag.text?.map fun t => (t, .list items) else none
  | _ => none

/-- A tag in front of fields without that name is the tag of the fields. -/
theorem tagged?_cons {tag : Document σ} {t : String} {entries : List (String × Document σ)}
    (text : tag.text? = some t) (fields : ∀ e ∈ entries, (e.1 == "type") = false) :
    (Document.table (("type", tag) :: entries)).tagged? = some (t, .table entries) := by
  have none : entries.filter (fun e => e.1 == "type") = [] :=
    List.filter_eq_nil_iff.2 fun e he => by simp [fields e he]
  have all : entries.filter (fun e => e.1 != "type") = entries :=
    List.filter_eq_self.2 fun e he => by simp only [bne, fields e he, Bool.not_false]
  simp [tagged?, none, all, text]

end Document

/-! ## 2. Reading a field -/

namespace Record

variable {σ α : Type} [Scalar σ]

/-- A field with another name is passed over. -/
theorem lookup_cons_of_ne {name other : String} {a : α} {entries : List (String × α)}
    (h : name ≠ other) : ((other, a) :: entries).lookup name = entries.lookup name := by
  have differ : (name == other) = false := by simp [h]
  simp only [List.lookup_cons, differ]

/-- A field that has to be there. -/
def required (r : Record σ) (name : String) (read : Document σ → Option α) : Option α :=
  (r.fields.lookup name).bind read

/-- A field that may be left out of a table, or say that it is absent. -/
def optional (r : Record σ) (name : String) (read : Document σ → Option α) :
    Option (Option α) :=
  match r.fields.lookup name with
  | some d => d.optional? read
  | none => if r.positional then none else some none

/-- A field with a value of its own when it is left out. -/
def orElse (r : Record σ) (name : String) (value : α) (read : Document σ → Option α) :
    Option α :=
  match r.fields.lookup name with
  | some d => read d
  | none => some value

end Record

/-! ## 3. Shapes -/

/-- How far a reader looks into a document. -/
inductive Shape where
  | leaf
  | list (item : Shape)
  | record (fields : List (String × Shape))
deriving Repr, Inhabited

namespace Shape

def leaves (names : List String) : List (String × Shape) := names.map fun name => (name, .leaf)

def rows (names : List String) : Shape := .list (.record (leaves names))

end Shape

end AccessControl
