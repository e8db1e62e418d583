/-
# Pages

A page is a list of rows as they were fetched, with the cursors of the first and the last of them,
from which the neighbouring pages are reached, and with the greatest and the least freshness stamp
among them. A page without rows has none of these.
-/
import Paging.Collation
import Paging.Cursor

namespace Paging

/-- Rows with their cursors and freshness marks. -/
structure Page where
  data : List Document
  firstCursor : Option Cursor
  lastCursor : Option Cursor
  freshest : Option Value
  stalest : Option Value
  deriving DecidableEq, Repr

namespace Page

/-- The later of the mark so far and a stamp; the earlier one met wins a tie. -/
def laterMark (mark : Option Value) (stamp : Value) : Option Value :=
  match mark with
  | some m => if m.collate stamp = .lt then some stamp else some m
  | none => some stamp

/-- The earlier of the mark so far and a stamp; the earlier one met wins a tie. -/
def earlierMark (mark : Option Value) (stamp : Value) : Option Value :=
  match mark with
  | some m => if m.collate stamp = .gt then some stamp else some m
  | none => some stamp

/-- The page of some rows, in their order. -/
def ofRows (rows : List Document) (c : Catalog) : Page :=
  let stamps := rows.filterMap (·.value c.freshnessField)
  ⟨rows, rows.head?.map (Cursor.capture · c), rows.getLast?.map (Cursor.capture · c),
    stamps.foldl laterMark none, stamps.foldl earlierMark none⟩

end Page
end Paging
