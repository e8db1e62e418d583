/-
# Sorts

A sort is a list of distinct sortable fields with directions, checked against a catalog. Each key
knows the name that storage compares. Storage gets the keys followed by the id in ascending order,
unless the id is among them, so that no two documents are ever tied; a reversed page gets the same
keys with all directions turned around.
-/
import Paging.Catalog
import Paging.Order.Clause

namespace Paging

/-- A field to sort by. -/
structure SortKey where
  /-- The declared name, under which cursors carry the value. -/
  field : String
  /-- The name that storage compares. -/
  physical : String
  direction : SortDirection
  caseInsensitive : Bool
  deriving DecidableEq, Repr

/-- Checked sort keys, the most important first. -/
structure SortSpec where
  keys : List SortKey
  deriving DecidableEq, Repr

/-- A sort as callers give it. -/
inductive SortInput
  | pairs (pairs : List (String × SortDirection))
  | text (text : String)
  deriving DecidableEq, Repr

/-- Why a sort is refused. -/
inductive SortError
  /-- The field is not sortable, or is listed for a second time. -/
  | invalidField (name : String)
  | malformed (fault : OrderText.Fault)
  deriving DecidableEq, Repr

namespace SortSpec

/-- No keys: documents in the order of their ids. -/
def unsorted : SortSpec := ⟨[]⟩

/-- The key of a field, settled by the catalog. -/
def key (c : Catalog) (field : String) (direction : SortDirection) : SortKey :=
  ⟨field, c.physicalName field, direction, c.isCaseInsensitive field⟩

/-- The keys of distinct sortable fields; `seen` holds the fields before. -/
def keysOf (c : Catalog) (seen : List String) :
    List (String × SortDirection) → Except SortError (List SortKey)
  | [] => .ok []
  | (field, direction) :: rest =>
    if c.isSortable field ∧ field ∉ seen then
      (keysOf c (field :: seen) rest).map (key c field direction :: ·)
    else .error (.invalidField field)

/-- The sort that a caller gives, checked against a catalog. -/
def parse (c : Catalog) : SortInput → Except SortError SortSpec
  | .pairs pairs => (keysOf c [] pairs).map SortSpec.mk
  | .text text =>
    match OrderText.parse text with
    | .ok order =>
      (keysOf c [] (order.map fun item => (item.field, item.direction))).map SortSpec.mk
    | .error fault => .error (.malformed fault)

/-- The key of the id, in ascending order. -/
def idKey (idField : String) : SortKey :=
  ⟨idField, idField, .asc, false⟩

/-- The keys with the id at the end, unless the id is among them. -/
def withTieBreak (s : SortSpec) (idField : String) : List SortKey :=
  if s.keys.any (·.field = idField) then s.keys else s.keys ++ [idKey idField]

/-- The order for storage; a flipped one has every direction turned around. -/
def orderBy (s : SortSpec) (idField : String) (flip : Bool) : OrderBy :=
  (s.withTieBreak idField).map fun k =>
    ⟨k.physical, if flip then k.direction.reversed else k.direction⟩

end SortSpec
end Paging
