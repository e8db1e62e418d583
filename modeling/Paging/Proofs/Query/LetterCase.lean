/-
# Letter case does not show

Two queries that are built in the same steps, from criteria and cursors that differ in letter case
only, are refused at the same step or differ in their cursors at most (`BuiltAlike.sameOutcome`).
So they ask their stores for the same selection (`Alike.selection_eq`), and nothing that it reads
shows letter case. If the documents of their stores differ in letter case only, both fail for the
same reason, or they get the same ids in the same order, with the same marks and with cursors that
differ in letter case only (`run_ignores_case`).
-/
import Paging.Proofs.Query.Alike

namespace Paging
namespace Query

variable {c c' : Collection} {q r : Query}

/-- Two ways to build a query in the same steps, in one catalog, from alike criteria and from alike
cursors. Tokens are alike when they decode to alike cursors. -/
inductive BuiltAlike (c c' : Collection) : Except QueryError Query → Except QueryError Query → Prop
  | find {a b : Criteria} (h : a.Alike c.catalog b) : BuiltAlike c c' (c.find a) (c'.find b)
  | sortBy {x y : Except QueryError Query} (h : BuiltAlike c c' x y) (input : SortInput) :
      BuiltAlike c c' (x.bind (·.sortBy input)) (y.bind (·.sortBy input))
  | atMost {x y : Except QueryError Query} (h : BuiltAlike c c' x y) (n : UInt64) :
      BuiltAlike c c' (x.map (·.atMost n)) (y.map (·.atMost n))
  | select {x y : Except QueryError Query} (h : BuiltAlike c c' x y) (names : List String) :
      BuiltAlike c c' (x.map (·.select names)) (y.map (·.select names))
  | bounded {x y : Except QueryError Query} (h : BuiltAlike c c' x y) (side : Side) {a b : Cursor}
      (hcursor : a.Alike c.catalog b) :
      BuiltAlike c c' (x.map (·.bounded side a)) (y.map (·.bounded side b))
  | boundedByToken {x y : Except QueryError Query} (h : BuiltAlike c c' x y) (side : Side)
      {token token' : List UInt8}
      (htoken : SameOutcome (Cursor.Alike c.catalog) (c.decodeCursor token)
        (c'.decodeCursor token')) :
      BuiltAlike c c' (x.bind (·.boundedByToken side token)) (y.bind (·.boundedByToken side token'))
  | stampedAfter {x y : Except QueryError Query} (h : BuiltAlike c c' x y) (t : Timestamp) :
      BuiltAlike c c' (x.map (·.stampedAfter t)) (y.map (·.stampedAfter t))
  | stampedBefore {x y : Except QueryError Query} (h : BuiltAlike c c' x y) (t : Timestamp) :
      BuiltAlike c c' (x.map (·.stampedBefore t)) (y.map (·.stampedBefore t))

/-- Bounds on the same sides of alike cursors. -/
def AlikeBounds (c : Catalog) : List (Side × Cursor) → List (Side × Cursor) → Prop :=
  List.Forall₂ fun a b => a.1 = b.1 ∧ a.2.Alike c b.2

/-- Queries that differ in the letter case of their cursors at most. Their criteria are resolved
and their sort is checked. -/
structure Alike (c c' : Collection) (q r : Query) : Prop where
  collection : q.collection = c
  collection' : r.collection = c'
  criteria : r.criteria = q.criteria
  reads : (q.criteria.toPredicate c.catalog.idField).ReadsOnly c.catalog.Plain
  sort : r.sort = q.sort
  checked : q.sort.Checked c.catalog
  limit : r.limit = q.limit
  fields : r.fields = q.fields
  bounds : AlikeBounds c.catalog q.bounds r.bounds
  newerThan : r.newerThan = q.newerThan
  olderThan : r.olderThan = q.olderThan

/-- Alike queries stay so when each gets a bound at one of two alike cursors. -/
theorem Alike.bounded (h : Alike c c' q r) (side : Side) {a b : Cursor}
    (hcursor : a.Alike c.catalog b) : Alike c c' (q.bounded side a) (r.bounded side b) :=
  { h with bounds := List.rel_append h.bounds (.cons ⟨rfl, hcursor⟩ .nil) }

/-- **Queries that were built in the same steps are alike**, or the same step was refused. There is
one case for each step of building, since alike inputs are refused alike. -/
theorem BuiltAlike.sameOutcome {x y : Except QueryError Query} (hc : c.catalog.WellFormed)
    (hcatalog : c'.catalog = c.catalog) (h : BuiltAlike c c' x y) :
    SameOutcome (Alike c c') x y := by
  induction h with
  | @find a b h =>
    unfold Collection.find
    rw [hcatalog, ← Criteria.resolve_alike hc h]
    cases hresolve : a.resolve c.catalog with
    | error cause => exact .error cause
    | ok resolved =>
      exact .ok ⟨rfl, rfl, rfl, Criteria.readsOnly_resolved hc hresolve, rfl,
        SortSpec.checked_unsorted c.catalog, rfl, rfl, .nil, rfl, rfl⟩
  | sortBy _ input ih =>
    refine ih.bind fun q r h => ?_
    have hparse : r.catalog = q.catalog := by
      rw [catalog, catalog, h.collection, h.collection', hcatalog]
    unfold Query.sortBy
    rw [hparse]
    cases hspec : SortSpec.parse q.catalog input with
    | error fault => exact .error _
    | ok spec =>
      rw [catalog, h.collection] at hspec
      exact .ok { h with sort := rfl, checked := SortSpec.checked_of_parse hspec }
  | bounded _ side hcursor ih => exact ih.map fun q r h => h.bounded side hcursor
  | boundedByToken _ side htoken ih =>
    refine ih.bind fun q r h => ?_
    unfold Query.boundedByToken
    rw [h.collection, h.collection']
    exact htoken.map fun a b hcursor => h.bounded side hcursor
  | atMost _ n ih => exact ih.map fun q r h => { h with limit := rfl }
  | select _ names ih => exact ih.map fun q r h => { h with fields := rfl }
  | stampedAfter _ t ih => exact ih.map fun q r h => { h with newerThan := rfl }
  | stampedBefore _ t ih => exact ih.map fun q r h => { h with olderThan := rfl }

/-- **Alike bounds compile to one predicate**, since a cursor is lowered where its key ignores
letter case. -/
theorem withBounds_alike (hc : q.catalog.WellFormed) (hchecked : q.sort.Checked q.catalog)
    (hcatalog : r.catalog = q.catalog) (hsort : r.sort = q.sort)
    {bounds others : List (Side × Cursor)} (h : AlikeBounds q.catalog bounds others)
    (predicate : Predicate) : r.withBounds predicate others = q.withBounds predicate bounds := by
  induction h generalizing predicate with
  | nil => rfl
  | cons hb _ ih =>
    rw [withBounds, withBounds, hcatalog, hsort, ← hb.1, ← Keyset.compile_alike hc hchecked hb.2]
    exact congrArg (Except.bind _) (funext fun bound => ih _)

/-- Whether a query is reversed depends on the sides of its bounds alone. -/
theorem isReversed_alike {c : Catalog} (h : AlikeBounds c q.bounds r.bounds) :
    r.isReversed = q.isReversed := by
  have hsides : r.bounds.map (·.1) = q.bounds.map (·.1) := by
    generalize q.bounds = bounds, r.bounds = others at h
    induction h with
    | nil => rfl
    | cons hb _ ih => rw [List.map_cons, List.map_cons, hb.1, ih]
  have hread : ∀ q : Query, q.isReversed =
      (!(q.bounds.map (·.1)).isEmpty && (q.bounds.map (·.1)).all (· == .before)) := by
    intro q
    rw [List.isEmpty_map, List.all_map]
    rfl
  rw [hread, hread, hsides]

/-- **Alike queries ask the store for the same selection**, or they are refused for the same
reason. -/
theorem Alike.selection_eq (hc : c.catalog.WellFormed) (hcatalog : c'.catalog = c.catalog)
    (h : Alike c c' q r) : r.selection = q.selection := by
  obtain rfl := h.collection
  have hcatalogs : r.catalog = q.catalog := (congrArg _ h.collection').trans hcatalog
  have hstamp : ∀ comparison time predicate,
      r.withStamp comparison time predicate = q.withStamp comparison time predicate := by
    intro comparison time predicate
    unfold withStamp
    rw [hcatalogs]
  have hstored : r.storedFields = q.storedFields := by
    unfold storedFields
    rw [hcatalogs, h.fields]
  unfold selection
  simp only [withBounds_alike hc h.checked hcatalogs h.sort h.bounds, isReversed_alike h.bounds,
    hstamp, hstored, hcatalogs, h.criteria, h.sort, h.limit, h.newerThan, h.olderThan]

/-- Alike rows make alike pages of alike queries. -/
theorem Alike.pageOf (hc : c.catalog.WellFormed) (hcatalog : c'.catalog = c.catalog)
    (h : Alike c c' q r) {rows others : List Document}
    (hrows : List.Forall₂ (Document.Alike c.catalog) rows others) :
    (q.pageOf rows).Alike c.catalog (r.pageOf others) := by
  have hdata : ∀ (q : Query) (rows : List Document),
      rows.map q.projected = projectRows q.fields rows := by
    intro q rows
    unfold projected projectRows
    cases q.fields with
    | none => exact List.map_id _
    | some names => rfl
  have hpage := Page.alike_ofRows hc hrows
  unfold Query.pageOf
  rw [hdata, hdata, h.fields, catalog, catalog, h.collection, h.collection', hcatalog]
  exact { hpage with data := Document.alike_projectRows hrows q.fields }

/-- **Alike queries find alike rows in alike stores**, or none where there is no memory for them. -/
theorem Alike.rows (hc : c.catalog.WellFormed) (hmemory : c'.memory = c.memory) {s t : Store}
    (hs : s.Consistent c.catalog) (ht : t.Consistent c.catalog)
    (hdocuments : ∀ id, Option.Rel (Document.Alike c.catalog) (s.get? id) (t.get? id))
    (h : Alike c c' q r) {selection : Selection} (hselection : q.selection = .ok selection) :
    SameOutcome (List.Forall₂ (Document.Alike c.catalog)) (q.rows s selection)
      (r.rows t selection) := by
  obtain rfl := h.collection
  have hkeys : ∀ k ∈ q.sort.withTieBreak q.catalog.idField, q.catalog.Plain k.physical :=
    fun k hk => (h.checked.key_eq hc hk).1 ▸ hc.plain_physicalName _
  obtain ⟨hpredicate, horder⟩ :=
    ReadsOnly.selection ⟨h.reads, hkeys, hc.plain_freshnessField⟩ hselection
  have hid : ∃ item ∈ selection.orderBy, item.field = q.catalog.idField := by
    obtain ⟨p, -, hselection⟩ := bind_eq_ok.1 hselection
    obtain rfl := Except.ok.inj hselection
    exact h.checked.exists_id_mem_orderBy hc q.isReversed
  refine sameOutcome_rows (isReversed_alike h.bounds) ?_
  rw [h.collection', hmemory]
  exact hs.fetch_forall₂ ht (fun d e hde => ⟨hde.id, hde.agreeOn⟩)
    (fun _ _ hde names => hde.project names) hdocuments hpredicate horder hid q.collection.memory

/-- **Letter case does not show in answers.** Take two collections on one machine with one
registered catalog, a store that was reached through each of them, with documents of the same ids
that differ at most in the letter case of the fields that ignore it, and two queries that were built
in the same steps from criteria and cursors that differ in the same way. Both fail for the same
reason, or both get a page: of the same ids in the same order, with the same marks, and with cursors
that differ at most in the letter case of the fields that ignore it. -/
theorem run_ignores_case {schema : Schema} {config : Config}
    (hc : Catalog.register schema config = .ok c.catalog) (hcatalog : c'.catalog = c.catalog)
    (hmemory : c'.memory = c.memory) {s t : Store} (hs : c.Reachable s) (ht : c'.Reachable t)
    (hst : s.Alike c.catalog t) {x y : Except QueryError Query} (hxy : BuiltAlike c c' x y) :
    SameOutcome (Page.Alike c.catalog) (x.bind (·.run s)) (y.bind (·.run t)) := by
  have hwell := Catalog.wellFormed_of_register hc
  have hstore := hs.consistent hwell
  have hstore' : t.Consistent c.catalog := hcatalog ▸ ht.consistent (hcatalog ▸ hwell)
  refine (hxy.sameOutcome hwell hcatalog).bind fun q r h => ?_
  have hsame := h.selection_eq hwell hcatalog
  cases hselection : q.selection with
  | error cause =>
    rw [hselection] at hsame
    unfold run
    rw [hselection, hsame]
    exact .error cause
  | ok selection =>
    rw [run_of_selection hselection, run_of_selection (hsame.trans hselection)]
    have hrows := h.rows hwell hmemory hstore hstore' (hst.documents hwell hstore hstore') hselection
    exact hrows.map fun _ _ => h.pageOf hwell hcatalog

/-- Ann is stored and asked for in small letters here and in capital letters there. -/
theorem run_ignores_case_people :
    let c := Collection.people
    let c' : Collection := ⟨c.catalog, [1], c.memory⟩
    let person (name : String) : Document := ⟨.ofNat 1, .ofList [("name", some (.string name))]⟩
    let opened := (Engine.empty.openStore c.catalog).store c.catalog
    let s := (Collection.Write.save .epoch (person "ann")).apply c opened
    let t := (Collection.Write.save .epoch (person "ANN")).apply c' opened
    let asked (name : String) : Criteria := .matching (.ofList [("name", some (.string name))])
    let place (name : String) : Cursor := ⟨.ofNat 0, none, .ofList [("name", some (.string name))]⟩
    let x := (((c.find (asked "ann")).bind (·.sortBy (.pairs [("name", .desc)]))).map
      (·.bounded .after (place "ann")))
    let y := (((c'.find (asked "ANN")).bind (·.sortBy (.pairs [("name", .desc)]))).map
      (·.bounded .after (place "ANN")))
    SameOutcome (Page.Alike c.catalog) (x.bind (·.run s)) (y.bind (·.run t)) := by
  intro c c' person opened s t asked place x y
  have hname : Fields.Alike c.catalog (.ofList [("name", some (.string "ann"))])
      (.ofList [("name", some (.string "ANN"))]) :=
    Fields.alike_of_entries (.cons (by decide +kernel) .nil)
  have hst : s.Alike c.catalog t := by
    -- the two stores differ in the name alone, whose shadow is the same in both
    let stored (name : String) : Document := ⟨.ofNat 1, .ofList [("_name", some (.string "ann")),
      ("name", some (.string name)), ("updated", some (.timestamp .epoch))]⟩
    have hs : s.documents.entries = [(.ofNat 1, stored "ann")] := by decide +kernel
    have ht : t.documents.entries = [(.ofNat 1, stored "ANN")] := by decide +kernel
    have hfields : Fields.Alike c.catalog (stored "ann").fields (stored "ANN").fields :=
      Fields.alike_of_entries (.cons (by decide +kernel) (.cons (by decide +kernel)
        (.cons (by decide +kernel) .nil)))
    refine SortedMap.rel_get? ?_
    rw [hs, ht]
    exact .cons ⟨rfl, fun name _ => hfields name⟩ .nil
  have hxy : BuiltAlike c c' x y :=
    ((BuiltAlike.find (.matching hname)).sortBy (.pairs [("name", .desc)])).bounded .after
      ⟨rfl, rfl, hname⟩
  have hcatalog : c'.catalog = c.catalog := rfl
  have hs : c.Reachable s := .written .opened _
  have ht : c'.Reachable t := .written .opened _
  exact run_ignores_case Catalog.register_people hcatalog rfl hs ht hst hxy

end Query
end Paging
