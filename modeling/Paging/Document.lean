/-
# Documents

A document is an id and its fields. A field of a document is in one of three states: it has a
value, it is explicitly null, or it is undefined. `Fields` keeps all three apart; a `Row`, which
is what filters and sorts read, shows null and undefined fields alike as missing. Which name
stands for the id is not a property of the document but of the collection that holds it.
-/
import Paging.SortedMap
import Paging.Value

namespace Paging

/-- Fields by name. A name under `none` is explicitly null, an absent name is undefined. -/
abbrev Fields := SortedMap String (Option Value)

/-- Named values as filters and sorts read them; `none` for a missing value. -/
abbrev Row := String → Option Value

/-- An id and its fields. -/
structure Document where
  id : EntityId
  fields : Fields
  deriving DecidableEq, Repr

namespace Fields

/-- The value under a name; `none` when it is null or undefined. -/
def value (fields : Fields) (name : String) : Option Value :=
  (fields.get? name).join

/-- Fields with the entries of a patch written over them. -/
def merge (fields patch : Fields) : Fields :=
  patch.entries.foldl (fun all e => all.insert e.1 e.2) fields

/-- The fields with the given names. -/
def project (fields : Fields) (names : List String) : Fields :=
  fields.filter fun name _ => names.contains name

end Fields

namespace Document

/-- The value of a field; `none` when it is null or undefined. -/
def value (d : Document) (name : String) : Option Value :=
  d.fields.value name

/-- The document with a value in a field. -/
def set (d : Document) (name : String) (value : Value) : Document :=
  { d with fields := d.fields.insert name (some value) }

/-- The document with a field explicitly null. -/
def setNull (d : Document) (name : String) : Document :=
  { d with fields := d.fields.insert name none }

/-- The document with a field undefined. -/
def unset (d : Document) (name : String) : Document :=
  { d with fields := d.fields.erase name }

/-- The document with the entries of a patch written over its fields. -/
def merge (d : Document) (patch : Fields) : Document :=
  { d with fields := d.fields.merge patch }

/-- The document with no fields but the given ones. -/
def project (d : Document) (names : List String) : Document :=
  { d with fields := d.fields.project names }

/-- The document read under the name that stands for its id. -/
def row (d : Document) (idField : String) : Row := fun name =>
  if name = idField then some (.entityId d.id) else d.value name

/-- The name for the id shows the id, even over a field of that name. -/
@[simp] theorem row_idField (d : Document) (idField : String) :
    d.row idField idField = some (.entityId d.id) := by
  simp [row]

end Document
end Paging
