/-
# Criteria

A caller filters by equality: all documents, the document of an id, or those whose listed fields
have the listed values, where an explicit null asks for a missing value. Before they meet a store,
criteria are pointed at the shadows of the fields that are compared without letter case, and their
texts are put in small letters.
-/
import Paging.Catalog
import Paging.Document
import Paging.Predicate
import Paging.Query.Error

namespace Paging

/-- A filter by equality. -/
inductive Criteria
  | all
  | id (id : EntityId)
  | matching (fields : Fields)
  deriving DecidableEq, Repr

namespace Criteria

/-- The criteria with one more field. Criteria that listed no fields start from none. -/
def withField (criteria : Criteria) (field : String) (value : Option Value) : Criteria :=
  match criteria with
  | matching fields => matching (fields.insert field value)
  | all | id _ => matching (SortedMap.empty.insert field value)

/-- The field to compare instead of a listed one, and the value to compare with. -/
def resolveEntry (c : Catalog) (field : String) (value : Option Value) :
    Except QueryError (String × Option Value) :=
  match (c.field? field).bind (·.shadow) with
  | none => .ok (field, value)
  | some shadow =>
    match value with
    | none => .ok (shadow, none)
    | some v =>
      match v.lowercase? with
      | some lower => .ok (shadow, some lower)
      | none => .error (.typeCoercion field v.type)

/-- The listed fields pointed at shadows, in the order of their names. -/
def resolveEntries (c : Catalog) :
    List (String × Option Value) → Except QueryError (List (String × Option Value))
  | [] => .ok []
  | (field, value) :: rest => do
    let entry ← resolveEntry c field value
    let more ← resolveEntries c rest
    pure (entry :: more)

/-- The criteria as storage compares them. -/
def resolve (c : Catalog) : Criteria → Except QueryError Criteria
  | all => .ok all
  | id i => .ok (id i)
  | matching fields =>
    (resolveEntries c fields.entries).map fun entries => matching (.ofList entries)

/-- The condition that a listed field has a value. -/
def condition (field : String) (value : Option Value) : Predicate :=
  match value with
  | some v => .equals field v
  | none => .fieldIsNull field

/-- The criteria as a predicate. -/
def toPredicate (idField : String) : Criteria → Predicate
  | all => .always
  | id i => .equals idField (.entityId i)
  | matching fields => .conjunction (fields.entries.map fun e => condition e.1 e.2)

end Criteria
end Paging
