/-
# Selections

A selection is a complete request to storage: which rows, in what order, how many, and which
fields of them. Its order is a list of names with directions, the first deciding and each further
one breaking the ties that are left. The meaning of a selection is what the store does with it.
-/
import Paging.Collation
import Paging.Predicate.Sql

namespace Paging

/-- A name to sort by and its direction. -/
structure OrderItem where
  field : String
  direction : SortDirection
  deriving DecidableEq, Repr

/-- Names to sort by, the most important first. -/
abbrev OrderBy := List OrderItem

/-- A request to storage. -/
structure Selection where
  predicate : Predicate
  orderBy : OrderBy
  /-- The number of rows, or all. -/
  limit : Option UInt64
  /-- The fields of each row, or all. -/
  fields : Option (List String)
  deriving DecidableEq, Repr

namespace Sql

/-- One name to sort by. Missing values are the lowest, so they come first in ascending order. -/
def orderItem (item : OrderItem) : List Char :=
  identifier item.field ++
    match item.direction with
    | .asc => " ASC NULLS FIRST".toList
    | .desc => " DESC NULLS LAST".toList

/-- The body of an `ORDER BY` clause. -/
def orderBy (order : OrderBy) : List Char :=
  (", ".toList).intercalate (order.map orderItem)

/-- The clauses of a selection after the name of the table. -/
def clauses (s : Selection) : Except RenderError (List Char) := do
  let c ← condition s.predicate
  let order := if s.orderBy.isEmpty then [] else " ORDER BY ".toList ++ orderBy s.orderBy
  let limit :=
    match s.limit with
    | some n => " LIMIT ".toList ++ Text.natural n.toNat
    | none => []
  pure ("WHERE ".toList ++ c ++ order ++ limit)

end Sql

namespace Selection

/-- The clauses of the selection after the name of the table. -/
def sql (s : Selection) : Except Sql.RenderError String :=
  (Sql.clauses s).map String.ofList

/-- The selection as it is displayed. -/
def display (s : Selection) : String :=
  Sql.display (Sql.clauses s)

end Selection
end Paging
