/-
# Stores

A store holds the documents of one collection by their ids, together with the name under which it
shows the id of a document among its fields. It answers selections: the documents that satisfy the
predicate, in the asked order, as many as asked for, with the asked fields. An answer of limited
length takes memory for that length before any document is looked at, and is not made where that
memory is not to be had. An engine holds stores by name; opening a store that is there leaves its
documents and its name for the id alone.
-/
import Paging.Catalog
import Paging.Order.TopK

namespace Paging

/-- Rows with some of their fields, or with all. -/
def projectRows (fields : Option (List String)) (rows : List Document) : List Document :=
  match fields with
  | some names => rows.map (·.project names)
  | none => rows

/-- The documents of one collection. -/
structure Store where
  name : String
  /-- The name under which predicates and orders read the id. -/
  idField : String
  documents : SortedMap EntityId Document
  /-- The fields with an index, in the order in which they were asked for. -/
  indexes : List String
  deriving DecidableEq, Repr

namespace Store

/-- A store without documents. -/
def empty (name idField : String) : Store := ⟨name, idField, .empty, []⟩

/-- The number of documents. -/
def size (s : Store) : Nat := s.documents.entries.length

/-- Whether there are no documents. -/
def isEmpty (s : Store) : Bool := s.documents.entries.isEmpty

/-- The document of an id. -/
def get? (s : Store) (id : EntityId) : Option Document := s.documents.get? id

/-- Whether there is a document of an id. -/
def contains (s : Store) (id : EntityId) : Bool := s.documents.contains id

/-- The store with a document, which replaces one of the same id. -/
def set (s : Store) (d : Document) : Store :=
  { s with documents := s.documents.insert d.id d }

/-- The store with several documents, set one after the other. -/
def setAll (s : Store) (ds : List Document) : Store :=
  ds.foldl set s

/-- The store with an index on a field. -/
def addIndex (s : Store) (field : String) : Store :=
  if field ∈ s.indexes then s else { s with indexes := s.indexes ++ [field] }

/-- A document as this store shows it to predicates and orders. -/
def read (s : Store) (d : Document) : Row := d.row s.idField

/-- The documents that satisfy a predicate, in the order of their ids. -/
def matching (s : Store) (predicate : Predicate) : List Document :=
  filterRows s.read predicate s.documents.values

/-- The answer to a selection, made in some memory. -/
def fetch (s : Store) (memory : Memory) (selection : Selection) :
    Except NoRoom (List Document) := do
  let found := s.matching selection.predicate
  let rows ←
    match selection.limit with
    | some k => topKRows memory s.read selection.orderBy k found
    | none => pure (sortRows s.read selection.orderBy found)
  pure (projectRows selection.fields rows)

end Store

/-- Stores by name. -/
structure Engine where
  stores : SortedMap String Store
  deriving DecidableEq, Repr

namespace Engine

/-- An engine without stores. -/
def empty : Engine := ⟨.empty⟩

/-- The store for a catalog: the one of its name, or a new one. -/
def store (e : Engine) (c : Catalog) : Store :=
  (e.stores.get? c.name).getD (.empty c.name c.idField)

/-- The engine with a store in place of the one of its name. -/
def put (e : Engine) (c : Catalog) (s : Store) : Engine :=
  ⟨e.stores.insert c.name s⟩

/-- The engine after opening the store for a catalog, with an index for every sortable field. -/
def openStore (e : Engine) (c : Catalog) : Engine :=
  e.put c (c.indexed.foldl Store.addIndex (e.store c))

end Engine
end Paging
