/-
# Walks

A walk is a run of pages of one query: the first page, then the page after its last cursor, and so
on until a page is empty, which is not part of the walk. Walking backward starts before the first
cursor of some page. On its way from page to page a cursor may be carried as it is or as a token.
No walk has more pages than its bound.
-/
import Paging.Query

namespace Paging
namespace Walk

/-- The cursor of a page from which a walk goes on. -/
def onward : Side → Page → Option Cursor
  | .after, page => page.lastCursor
  | .before, page => page.firstCursor

/-- How a cursor is carried from page to page. -/
inductive Carrier
  | cursor
  | token
  deriving DecidableEq, Repr

/-- The query for rows on one side of a carried cursor. -/
def continued (q : Query) (carrier : Carrier) (side : Side) (cursor : Cursor) :
    Except QueryError Query :=
  match carrier with
  | .cursor => .ok (q.bounded side cursor)
  | .token => do
    let token ← q.collection.encodeCursor cursor
    q.boundedByToken side token

/-- At most `most` pages, the first of them that of the query `next` and each further one on the
same side of the one before. -/
def pagesFrom (q : Query) (carrier : Carrier) (side : Side) (s : Store) :
    Nat → Query → Except QueryError (List Page)
  | 0, _ => .ok []
  | most + 1, next => do
    let page ← next.run s
    match onward side page with
    | none => pure []
    | some cursor =>
      let onwardQuery ← continued q carrier side cursor
      let more ← pagesFrom q carrier side s most onwardQuery
      pure (page :: more)

/-- The pages of a query from the first one on. -/
def forward (q : Query) (carrier : Carrier) (s : Store) (most : Nat) :
    Except QueryError (List Page) :=
  pagesFrom q carrier .after s most q

/-- The pages before the first row of a page, the nearest first. -/
def backward (q : Query) (carrier : Carrier) (s : Store) (most : Nat) (page : Option Page) :
    Except QueryError (List Page) :=
  match page.bind (·.firstCursor) with
  | none => .ok []
  | some cursor => do
    let first ← continued q carrier .before cursor
    pagesFrom q carrier .before s most first

end Walk
end Paging
