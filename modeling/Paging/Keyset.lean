/-
# Keyset predicates

The rows strictly after a cursor, in the order of a sort, are selected by a predicate and not by
counting. For keys `k₁ … kₙ`, the last of them the id, and cursor values `c₁ … cₙ` it is

    k₁ > c₁  or  (k₁ = c₁ and k₂ > c₂)  or  …  or  (k₁ = c₁ and … and kₙ > cₙ)

where `>` means "later in the direction of the key". For the rows strictly before a cursor, every
`>` is turned around. A missing value is the lowest: being above it means not being missing, being
below a value means being less or missing, and nothing is below it, so that part of the predicate
is left out. The id is never missing, and the part of the id is always there.
-/
import Paging.Cursor
import Paging.Predicate
import Paging.Sort

namespace Paging

/-- The side of a cursor on which rows are wanted. -/
inductive Side
  | after
  | before
  deriving DecidableEq, Repr

namespace Keyset

/-- The value that a cursor has for a sort key, in small letters when the key compares them. -/
def cursorValue (cursor : Cursor) (idField : String) (key : SortKey) :
    Except CursorError (Option Value) :=
  if key.field = idField then .ok (some (.entityId cursor.id))
  else
    match cursor.get? key.field with
    | none => .error (.missingField key.field)
    | some value =>
      .ok (if key.caseInsensitive then value.map fun v => v.lowercase?.getD v else value)

/-- Whether the wanted rows have the greater values of a key. -/
def isForward (key : SortKey) (side : Side) : Bool :=
  (key.direction == .asc) == (side == .after)

/-- The rows that a key puts strictly on the wanted side of a value; `none` when there are none. -/
def beyond (key : SortKey) (value : Option Value) (side : Side) (nullable : Bool) :
    Option Predicate :=
  match isForward key side, value with
  | true, some v => some (.greaterThan key.physical v)
  | true, none => some (.fieldIsNotNull key.physical)
  | false, some v =>
    if nullable then some (.either (.lessThan key.physical v) (.fieldIsNull key.physical))
    else some (.lessThan key.physical v)
  | false, none => none

/-- The rows that have a value of a key. -/
def level (key : SortKey) (value : Option Value) : Predicate :=
  match value with
  | some v => .equals key.physical v
  | none => .fieldIsNull key.physical

/-- The alternatives for the keys, given the condition that the keys before them are level. -/
def alternatives (cursor : Cursor) (side : Side) (idField : String) (before : Predicate) :
    List SortKey → Except CursorError (List Predicate)
  | [] => .ok []
  | key :: rest => do
    let value ← cursorValue cursor idField key
    let later ← alternatives cursor side idField (before.and (level key value)) rest
    let here := (beyond key value side (key.field != idField)).map before.and
    pure (here.toList ++ later)

/-- The predicate of the rows strictly on one side of a cursor in the order of a sort. -/
def compile (s : SortSpec) (cursor : Cursor) (side : Side) (idField : String) :
    Except CursorError Predicate :=
  (alternatives cursor side idField .always (s.withTieBreak idField)).map fun ps =>
    (Predicate.disjunction? ps).getD .never

end Keyset
end Paging
