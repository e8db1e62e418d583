/-
# The order of values

Values of one type are compared by their own order, and integers with floating-point numbers by
exact value; all other pairs are ordered by type: numbers, texts, ids, truth values, times. Texts
are ordered by code point. The missing value, `none`, stands before every defined one, and a
descending order turns the whole order around, the missing value included.

* `compareTyped` is the comparison of filters, defined within one family of types only.
* `collate` is the comparison of sorts, defined on all values.
-/
import Paging.Value

namespace Paging

/-- The direction of a sort key. -/
inductive SortDirection
  | asc
  | desc
  deriving DecidableEq, Repr

namespace SortDirection

/-- The other direction. -/
def reversed : SortDirection → SortDirection
  | asc => desc
  | desc => asc

/-- An outcome of a comparison under a direction. -/
def orient (d : SortDirection) (outcome : Ordering) : Ordering :=
  match d with
  | asc => outcome
  | desc => outcome.swap

end SortDirection

namespace Value

/-- The place of a value's type among the types. -/
def rank : Value → Nat
  | int _ | float _ => 0
  | string _ => 1
  | entityId _ => 2
  | bool _ => 3
  | timestamp _ => 4

/-- The order of two values of one family of types, integers and floating-point numbers being one
family; `none` for values of different families. -/
def compareTyped : Value → Value → Option Ordering
  | string a, string b => some (compare a b)
  | int a, int b => some (compare a b)
  | float a, float b => some (a.compare b)
  | int a, float b => some (Binary64.compareInt a b)
  | float a, int b => some (Binary64.compareInt b a).swap
  | bool a, bool b => some (compare a b)
  | timestamp a, timestamp b => some (a.compare b)
  | entityId a, entityId b => some (compare a b)
  | _, _ => none

/-- The order of all values. -/
def collate (a b : Value) : Ordering :=
  (a.compareTyped b).getD (compare a.rank b.rank)

/-- The order of values that may be missing; a missing one comes first. -/
def collateNullable : Option Value → Option Value → Ordering
  | none, none => .eq
  | none, some _ => .lt
  | some _, none => .gt
  | some a, some b => a.collate b

/-- The order of values that may be missing, under a direction. -/
def collateDirected (d : SortDirection) (a b : Option Value) : Ordering :=
  d.orient (collateNullable a b)

/-- The types in order, and numbers across types. -/
example : collate (int 100) (string "") = .lt ∧ collate (string "a") (entityId default) = .lt ∧
    collate (entityId default) (bool false) = .lt ∧ collate (bool true) (timestamp default) = .lt ∧
    collate (int 2) (float ⟨0x4004000000000000⟩) = .lt ∧
    compareTyped (string "1") (int 1) = none := by
  decide +kernel

end Value
end Paging
