/-
# Queries

A query asks one collection for a page: the documents that meet the criteria, sorted, on the
wanted sides of any number of cursors, stamped within a span of time, at most so many, and with
only some of their fields. It is checked piece by piece while it is built, then compiled into one
selection and run on a store.

With nothing but cursors to stay before, the wanted page is the one next to the cursor, so the
store is asked for the rows in reverse and they are put back in order afterwards. The store always
returns the sortable fields, which the cursors of the page need; the rows lose what was not asked
for at the very end.
-/
import Paging.Criteria
import Paging.Keyset
import Paging.Page
import Paging.Store
import Paging.Token

namespace Paging

/-- A collection as its users hold it: its catalog, the key of its tokens, and the memory of the
machine that they run on. -/
structure Collection where
  catalog : Catalog
  key : List UInt8
  memory : Memory
  deriving DecidableEq, Repr

/-- A query of one collection. -/
structure Query where
  collection : Collection
  /-- The criteria as storage compares them. -/
  criteria : Criteria
  sort : SortSpec
  limit : Option UInt64
  fields : Option (List String)
  bounds : List (Side × Cursor)
  /-- The time after which rows were stamped. -/
  newerThan : Option Timestamp
  /-- The time before which rows were stamped. -/
  olderThan : Option Timestamp
  deriving DecidableEq, Repr

namespace Collection

/-- The query of some criteria, without any further wish. -/
def find (c : Collection) (criteria : Criteria) : Except QueryError Query :=
  (criteria.resolve c.catalog).map fun resolved =>
    ⟨c, resolved, .unsorted, none, none, [], none, none⟩

/-- The query for one document that meets some criteria. -/
def findOne (c : Collection) (criteria : Criteria) : Except QueryError Query :=
  (c.find criteria).map fun q => { q with limit := some 1 }

/-- The cursor of a document. -/
def cursor (c : Collection) (d : Document) : Cursor := .capture d c.catalog

/-- The token of a cursor. -/
def encodeCursor (c : Collection) (cursor : Cursor) : Except QueryError (List UInt8) :=
  (Token.encode c.key cursor).mapError .invalidCursor

/-- The cursor of a token. -/
def decodeCursor (c : Collection) (token : List UInt8) : Except QueryError Cursor :=
  (Token.decode c.key token).mapError .invalidCursor

end Collection

namespace Query

/-- The catalog of the collection that is asked. -/
def catalog (q : Query) : Catalog := q.collection.catalog

/-- The query sorted in another way. -/
def sortBy (q : Query) (sort : SortInput) : Except QueryError Query :=
  ((SortSpec.parse q.catalog sort).mapError .sort).map fun spec => { q with sort := spec }

/-- The query for at most so many rows. -/
def atMost (q : Query) (n : UInt64) : Query := { q with limit := some n }

/-- The query for no other fields than these. -/
def select (q : Query) (names : List String) : Query := { q with fields := some names }

/-- The query for rows on one side of a cursor, too. -/
def bounded (q : Query) (side : Side) (cursor : Cursor) : Query :=
  { q with bounds := q.bounds ++ [(side, cursor)] }

/-- The query for rows on one side of the cursor of a token, too. -/
def boundedByToken (q : Query) (side : Side) (token : List UInt8) : Except QueryError Query :=
  (q.collection.decodeCursor token).map (q.bounded side)

/-- The query for rows stamped strictly after a time. -/
def stampedAfter (q : Query) (t : Timestamp) : Query := { q with newerThan := some t }

/-- The query for rows stamped strictly before a time. -/
def stampedBefore (q : Query) (t : Timestamp) : Query := { q with olderThan := some t }

/-- Whether the store is asked for the rows in reverse: there are cursors to stay before and none to
stay after. -/
def isReversed (q : Query) : Bool :=
  !q.bounds.isEmpty && q.bounds.all (·.1 == .before)

/-- A predicate narrowed to one side of every cursor. -/
def withBounds (q : Query) (predicate : Predicate) :
    List (Side × Cursor) → Except QueryError Predicate
  | [] => .ok predicate
  | (side, cursor) :: rest => do
    let bound ← (Keyset.compile q.sort cursor side q.catalog.idField).mapError .invalidCursor
    q.withBounds (predicate.and bound) rest

/-- A predicate narrowed to a comparison of the freshness stamp with a time, if one is given. -/
def withStamp (q : Query) (comparison : Comparison) (time : Option Timestamp)
    (predicate : Predicate) : Predicate :=
  match time with
  | some t => predicate.and (.fieldIs comparison q.catalog.freshnessField (.timestamp t))
  | none => predicate

/-- The fields that the store is asked for: the wanted ones and then the sortable ones. -/
def storedFields (q : Query) : Option (List String) :=
  q.fields.map fun names =>
    (q.catalog.sortableFields.map (·.name)).foldl
      (fun all name => if name ∈ all then all else all ++ [name]) names

/-- The selection that the query asks the store for. -/
def selection (q : Query) : Except QueryError Selection := do
  let idField := q.catalog.idField
  let predicate ← q.withBounds (q.criteria.toPredicate idField) q.bounds
  pure ⟨q.withStamp .less q.olderThan (q.withStamp .greater q.newerThan predicate),
    q.sort.orderBy idField q.isReversed, q.limit, q.storedFields⟩

/-- The rows that the store has for the query, in the order of the sort. -/
def rows (q : Query) (s : Store) (selection : Selection) : Except QueryError (List Document) := do
  let fetched ← (s.fetch q.collection.memory selection).mapError .noRoom
  pure (if q.isReversed then fetched.reverse else fetched)

/-- A row with the wanted fields. -/
def projected (q : Query) (d : Document) : Document :=
  match q.fields with
  | some names => d.project names
  | none => d

/-- The page that the query gets from a store. -/
def run (q : Query) (s : Store) : Except QueryError Page := do
  let selection ← q.selection
  let rows ← q.rows s selection
  let page := Page.ofRows rows q.catalog
  pure { page with data := page.data.map q.projected }

end Query
end Paging
