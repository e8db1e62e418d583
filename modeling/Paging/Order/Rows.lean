/-
# Rows in order

Two rows are compared name by name: the first name on which they differ decides, in its direction.
Sorting is stable, so items whose rows do not differ on any name keep their order. The functions
work on items of any kind that can be read as rows.
-/
import Paging.Document
import Paging.Predicate.Eval
import Paging.Selection

namespace Paging

/-- The order of two rows under a list of names with directions. -/
def compareRows : OrderBy → Row → Row → Ordering
  | [], _, _ => .eq
  | item :: rest, a, b =>
    (Value.collateDirected item.direction (a item.field) (b item.field)).then (compareRows rest a b)

/-- The items sorted by their rows; items that compare equal keep their order. -/
def sortRows {α : Type} (read : α → Row) (order : OrderBy) (items : List α) : List α :=
  items.mergeSort fun a b => compareRows order (read a) (read b) != .gt

/-- The first items, as many as asked for, or all. -/
def limitRows {α : Type} (limit : Option UInt64) (items : List α) : List α :=
  match limit with
  | some n => items.take n.toNat
  | none => items

/-- The items whose rows satisfy a predicate. -/
def filterRows {α : Type} (read : α → Row) (predicate : Predicate) (items : List α) : List α :=
  items.filter fun a => predicate.eval (read a)

end Paging
