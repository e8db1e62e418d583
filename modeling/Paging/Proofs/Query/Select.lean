/-
# Queries for some of the fields

The fields that a query asks for take part in nothing but the rows that it hands out. The store is
asked for the same rows in the same order and takes the other fields off when all is sorted and cut
(`selection_select`, `rows_fields`); the sortable fields stay until the cursors and the freshness
marks of the page are taken. So the page is the page of the query for all fields, with every row
restricted to exactly the wanted ones (`run_select`), whatever is wanted: a declared field, a
shadow, a name that nobody declared, a name twice or no name at all.
-/
import Paging.Proofs.Query

namespace Paging

/-- A document restricted to some names: it keeps its id and, under each of the names and no other,
what it held. -/
structure Document.Restricted (names : List String) (whole part : Document) : Prop where
  id : part.id = whole.id
  fields : ∀ name, part.fields.get? name = if name ∈ names then whole.fields.get? name else none

/-- A page restricted to some names: row by row, with nothing else changed. -/
structure Page.Restricted (names : List String) (whole part : Page) : Prop where
  data : List.Forall₂ (Document.Restricted names) whole.data part.data
  firstCursor : part.firstCursor = whole.firstCursor
  lastCursor : part.lastCursor = whole.lastCursor
  freshest : part.freshest = whole.freshest
  stalest : part.stalest = whole.stalest

namespace Query

/-- The query for all fields. -/
def selectAll (q : Query) : Query := { q with fields := none }

variable (q : Query) (names : List String) (s : Store)

/-- Bounds compile alike whichever fields are selected. -/
theorem withBounds_select (predicate : Predicate) (bounds : List (Side × Cursor)) :
    (q.select names).withBounds predicate bounds = q.selectAll.withBounds predicate bounds := by
  induction bounds generalizing predicate with
  | nil => rfl
  | cons b rest ih =>
    obtain ⟨side, cursor⟩ := b
    rw [withBounds, withBounds]
    exact congrArg (Except.bind _) (funext fun bound => ih (predicate.and bound))

/-- The store is asked for the same rows, with other fields. -/
theorem selection_select : (q.select names).selection =
    q.selectAll.selection.map ({ · with fields := (q.select names).storedFields }) := by
  have hbounds :=
    q.withBounds_select names (q.criteria.toPredicate q.catalog.idField) q.bounds
  unfold selection
  show Except.bind ((q.select names).withBounds (q.criteria.toPredicate q.catalog.idField)
    q.bounds) _ = Except.map _ (Except.bind (q.selectAll.withBounds
      (q.criteria.toPredicate q.catalog.idField) q.bounds) _)
  rw [hbounds]
  cases q.selectAll.withBounds (q.criteria.toPredicate q.catalog.idField) q.bounds <;> rfl

/-- A query for all fields asks the store for all fields. -/
theorem fields_of_selectAll {selection : Selection} (h : q.selectAll.selection = .ok selection) :
    selection.fields = none := by
  obtain ⟨predicate, -, h⟩ := bind_eq_ok.1 h
  obtain rfl := Except.ok.inj h
  rfl

/-- The fields come off when the rows are sorted and cut. -/
theorem fetch_fields {selection : Selection} (h : selection.fields = none) (memory : Memory)
    (fields : Option (List String)) : s.fetch memory { selection with fields } =
      (s.fetch memory selection).map (projectRows fields) := by
  obtain ⟨predicate, order, limit, _⟩ := selection
  obtain rfl := h
  cases limit with
  | none => rfl
  | some k =>
    rw [Store.fetch_of_limit rfl, Store.fetch_of_limit rfl]
    cases topKRows memory s.read order k (s.matching predicate) <;> rfl

/-- They come off of the rows of a query, in whatever direction these were fetched. -/
theorem rows_fields {selection : Selection} (h : selection.fields = none)
    (fields : Option (List String)) :
    q.rows s { selection with fields } = (q.rows s selection).map (projectRows fields) := by
  unfold rows
  rw [fetch_fields s h]
  cases s.fetch q.collection.memory selection with
  | error cause => rfl
  | ok fetched =>
    show Except.ok _ = Except.ok _
    cases q.isReversed with
    | false => rfl
    | true => exact congrArg _ (reverse_projectRows fields fetched)

/-- The page of some rows for some of the fields. -/
theorem restricted_pageOf (rows : List Document) :
    (q.selectAll.pageOf rows).Restricted names ((q.select names).pageOf rows) := by
  have hrow : ∀ d : Document, d.Restricted names (d.project names) :=
    fun d => ⟨rfl, d.get?_project names⟩
  refine ⟨?_, rfl, rfl, rfl, rfl⟩
  show List.Forall₂ _ (rows.map id) (rows.map (·.project names))
  rw [List.map_id, List.forall₂_map_right_iff]
  exact List.forall₂_same.2 fun d _ => hrow d

/-- **A query for some fields answers what the query for all fields answers, restricted to them.**
Take any query of a registered catalog, with any criteria, sort, bounds, span of time and limit, and
any store. Asked for some fields, it is refused with the same error or has the same page: the same
documents in the same order, with the same cursors and the same freshness marks, each document
restricted to exactly the wanted fields. -/
theorem run_select {schema : Schema} {config : Config}
    (hc : Catalog.register schema config = .ok q.catalog) :
    SameOutcome (Page.Restricted names) (q.selectAll.run s) ((q.select names).run s) := by
  have hwell : (q.select names).catalog.WellFormed := Catalog.wellFormed_of_register hc
  have hselection := q.selection_select names
  cases hall : q.selectAll.selection with
  | error cause =>
    rw [hall] at hselection
    unfold run
    rw [hall, hselection]
    exact .error cause
  | ok selection =>
    rw [hall] at hselection
    rw [run_of_selection hall, run_of_selection hselection,
      (q.select names).rows_fields s (q.fields_of_selectAll hall)]
    show SameOutcome _ ((q.selectAll.rows s selection).map _)
      (((q.selectAll.rows s selection).map _).map _)
    cases q.selectAll.rows s selection with
    | error cause => exact .error cause
    | ok rows =>
      refine .ok ?_
      -- the sortable fields are still there, so the page is that of the rows with all fields
      rw [pageOf_stored hwell]
      exact q.restricted_pageOf names rows

/-- The last person before an id, of whom a shadow is wanted, twice, and a name that nobody
declared. -/
theorem run_select_people :
    let c := Collection.people
    let s := (Collection.Write.save .epoch Collection.ann).apply c
      ((Engine.empty.openStore c.catalog).store c.catalog)
    let q : Query := ⟨c, .all, .unsorted, some 1, some ["age"],
      [(.before, ⟨.ofNat 2, none, .empty⟩)], none, none⟩
    let names := ["_name", "city", "_name"]
    Catalog.register Catalog.people .standard = .ok q.catalog ∧
      (∃ page, (q.select names).run s = .ok page ∧
        page.data = [⟨.ofNat 1, .ofList [("_name", some (.string "ann"))]⟩]) ∧
      SameOutcome (Page.Restricted names) (q.selectAll.run s) ((q.select names).run s) := by
  intro c s q names
  refine ⟨Catalog.register_people, ⟨_, rfl, ?_⟩, run_select q names s Catalog.register_people⟩
  decide +kernel

end Query
end Paging
