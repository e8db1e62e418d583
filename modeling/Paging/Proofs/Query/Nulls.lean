/-
# Null and undefined fields are not told apart

A document keeps explicitly null fields apart from undefined ones, and queries read both as missing.
All that they see of a document is its id and the values under its names (`Document.view`): filters,
sorts and heaps look at nothing else (`Store.SameButNulls.fetch`), and cursors and freshness marks
are made of values. So two stores whose documents differ in nothing but such fields give every query
the same answer (`Query.run_ignores_nulls`), but for these fields in the rows of the page.
-/
import Paging.Proofs.Order.Images
import Paging.Proofs.Query

namespace Paging

/-- What two documents have under one name, when an explicitly null field of one may be undefined in
the other. -/
inductive SameButNull : Option (Option Value) → Option (Option Value) → Prop
  | same (field : Option (Option Value)) : SameButNull field field
  | nullUndefined : SameButNull (some none) none
  | undefinedNull : SameButNull none (some none)

/-- Two fields are the same but for null exactly if they read the same, where an undefined one reads
as missing. -/
theorem sameButNull_iff {a b : Option (Option Value)} : SameButNull a b ↔ a.join = b.join := by
  constructor
  · intro h
    cases h with
    | same => rfl
    | nullUndefined => rfl
    | undefinedNull => rfl
  · intro h
    cases a with
    | none =>
      cases b with
      | none => exact .same _
      | some y =>
        obtain rfl : none = y := h
        exact .undefinedNull
    | some x =>
      cases b with
      | none =>
        obtain rfl : x = none := h
        exact .nullUndefined
      | some y =>
        obtain rfl : x = y := h
        exact .same _

/-- Documents of one id that differ at most in explicitly null and undefined fields. -/
structure Document.SameButNulls (d e : Document) : Prop where
  id : d.id = e.id
  fields : ∀ name, SameButNull (d.fields.get? name) (e.fields.get? name)

/-- Stores of documents with the same ids, that differ in explicitly null and undefined fields. -/
structure Store.SameButNulls (s t : Store) : Prop where
  idField : s.idField = t.idField
  documents : ∀ id, Option.Rel Document.SameButNulls (s.get? id) (t.get? id)

/-- Pages of the same documents in the same order, but for null and undefined fields, with equal
cursors and equal marks. -/
structure Page.SameButNulls (p p' : Page) : Prop where
  data : List.Forall₂ Document.SameButNulls p.data p'.data
  firstCursor : p.firstCursor = p'.firstCursor
  lastCursor : p.lastCursor = p'.lastCursor
  freshest : p.freshest = p'.freshest
  stalest : p.stalest = p'.stalest

namespace Document

variable {d e : Document}

/-- What a query sees of a document: its id, and the values under all names. -/
def view (d : Document) : EntityId × Row :=
  (d.id, d.value)

/-- A document as predicates and orders read it, made of what is seen of it. -/
def viewRow (idField : String) (view : EntityId × Row) : Row := fun name =>
  if name = idField then some (.entityId view.1) else view.2 name

/-- Documents differ in null and undefined fields alone exactly if a query sees the same of them. -/
theorem sameButNulls_iff_view : d.SameButNulls e ↔ d.view = e.view := by
  constructor
  · intro h
    exact Prod.ext h.id (funext fun name => sameButNull_iff.1 (h.fields name))
  · intro h
    exact ⟨congrArg Prod.fst h, fun name => sameButNull_iff.2 (congrFun (congrArg Prod.snd h) name)⟩

/-- So do lists of documents, in pairs, if the same is seen of both. -/
theorem forall₂_iff_map_view {rows others : List Document} :
    List.Forall₂ SameButNulls rows others ↔ rows.map view = others.map view := by
  have hsame : SameButNulls = fun d e => d.view = e.view :=
    funext₂ fun d e => propext sameButNulls_iff_view
  rw [← List.forall₂_eq_eq_eq, List.forall₂_map_left_iff, List.forall₂_map_right_iff, hsame]

/-- Each field reads the same in both documents. -/
theorem SameButNulls.value_eq (h : d.SameButNulls e) (name : String) :
    d.value name = e.value name :=
  sameButNull_iff.1 (h.fields name)

/-- Restricting both documents to some names keeps that. -/
theorem SameButNulls.project (h : d.SameButNulls e) (names : List String) :
    (d.project names).SameButNulls (e.project names) := by
  refine ⟨h.id, fun name => ?_⟩
  rw [get?_project, get?_project]
  split_ifs
  · exact h.fields name
  · exact .same _

/-- A field that is set to null, and one that is taken away. -/
theorem setNull_sameButNulls_unset (d : Document) (name : String) :
    (d.setNull name).SameButNulls (d.unset name) := by
  refine ⟨rfl, fun other => ?_⟩
  unfold setNull unset
  by_cases h : other = name
  · rw [h, SortedMap.get?_insert_self, SortedMap.get?_erase_self]
    exact .nullUndefined
  · rw [SortedMap.get?_insert_of_ne _ h, SortedMap.get?_erase_of_ne _ h]
    exact .same _

/-- What does not tell documents apart does not tell rows apart. -/
theorem map_eq_of_forall₂ {α : Type} {f : Document → α} {rows others : List Document}
    (hf : ∀ d e, d.SameButNulls e → f d = f e) (h : List.Forall₂ SameButNulls rows others) :
    rows.map f = others.map f := by
  induction h with
  | nil => rfl
  | cons hd _ ih => rw [List.map_cons, List.map_cons, hf _ _ hd, ih]

end Document

/-- Documents that differ in null and undefined fields have one cursor. -/
theorem Document.SameButNulls.capture_eq {d e : Document} (h : d.SameButNulls e) (c : Catalog) :
    Cursor.capture d c = Cursor.capture e c := by
  unfold Cursor.capture
  simp only [h.id, h.value_eq]

namespace Store.SameButNulls

variable {s t : Store}

/-- A store differs from itself in no field at all. -/
theorem refl (s : Store) : s.SameButNulls s := by
  refine ⟨rfl, fun id => ?_⟩
  cases s.get? id with
  | none => exact .none
  | some d => exact .some ⟨rfl, fun _ => .same _⟩

/-- Stores that differ in null and undefined fields alone still do after each has stored one of two
such documents. -/
theorem set (h : s.SameButNulls t) {d e : Document} (hde : d.SameButNulls e) :
    (s.set d).SameButNulls (t.set e) := by
  refine ⟨h.idField, fun id => ?_⟩
  unfold Store.get? Store.set
  rw [SortedMap.get?_insert, SortedMap.get?_insert, hde.id]
  split_ifs
  · exact .some hde
  · exact h.documents id

/-- A query sees the same documents of both stores in the same arrangement, since both keep them by
their ids. -/
theorem map_view_values (h : s.SameButNulls t) :
    s.documents.values.map Document.view = t.documents.values.map Document.view := by
  refine Document.forall₂_iff_map_view.1 ?_
  exact List.forall₂_map_left_iff.2 (List.forall₂_map_right_iff.2
    ((SortedMap.forall₂_entries h.documents).imp fun _ _ => And.right))

/-- **Stores that differ in null and undefined fields answer every selection alike**, ties, limit
and fields included. -/
theorem fetch (h : s.SameButNulls t) (memory : Memory) (selection : Selection) :
    SameOutcome (List.Forall₂ Document.SameButNulls) (s.fetch memory selection)
      (t.fetch memory selection) := by
  have hs (d : Document) : Document.viewRow s.idField d.view = s.read d := rfl
  have ht (d : Document) : Document.viewRow s.idField d.view = t.read d := by
    rw [h.idField]
    rfl
  obtain ⟨predicate, order, limit, fields⟩ := selection
  have hmatching : (s.matching predicate).map Document.view =
      (t.matching predicate).map Document.view := by
    unfold matching
    rw [← filterRows_map hs, ← filterRows_map ht, h.map_view_values]
  -- the fields come off when the rows are sorted and cut
  have hfields (rows others : List Document) (hviews : rows.map Document.view =
      others.map Document.view) : List.Forall₂ Document.SameButNulls (projectRows fields rows)
        (projectRows fields others) :=
    forall₂_projectRows (fun _ _ hde names => hde.project names)
      (Document.forall₂_iff_map_view.2 hviews) fields
  cases limit with
  | none =>
    refine .ok (hfields _ _ ?_)
    rw [← sortRows_map hs, ← sortRows_map ht, hmatching]
  | some k =>
    rw [fetch_of_limit rfl, fetch_of_limit rfl]
    refine SameOutcome.map (.of_map_eq ?_) hfields
    rw [← topKRows_map memory hs, ← topKRows_map memory ht, hmatching]

end Store.SameButNulls

namespace Query

variable {s t : Store}

/-- Rows that differ in null and undefined fields make pages that do. -/
theorem sameButNulls_pageOf (q : Query) {rows others : List Document}
    (h : List.Forall₂ Document.SameButNulls rows others) :
    (q.pageOf rows).SameButNulls (q.pageOf others) := by
  -- cursors and stamps are read off the values, which are the same; the rows themselves are
  -- restricted alike
  have hcursors : rows.map (Cursor.capture · q.catalog) = others.map (Cursor.capture · q.catalog) :=
    Document.map_eq_of_forall₂ (fun _ _ hde => hde.capture_eq q.catalog) h
  have hstamps : rows.filterMap (·.value q.catalog.freshnessField) =
      others.filterMap (·.value q.catalog.freshnessField) := by
    have hvalues := Document.map_eq_of_forall₂
      (fun _ _ hde => hde.value_eq q.catalog.freshnessField) h
    simpa [List.filterMap_map] using congrArg (List.filterMap id) hvalues
  have hprojected (d e : Document) (hde : d.SameButNulls e) :
      (q.projected d).SameButNulls (q.projected e) := by
    unfold projected
    cases q.fields with
    | none => exact hde
    | some names => exact hde.project names
  refine ⟨?_, ?_, ?_, ?_, ?_⟩
  · exact List.forall₂_map_left_iff.2 (List.forall₂_map_right_iff.2 (h.imp hprojected))
  · simp only [pageOf, Page.ofRows, ← List.head?_map, hcursors]
  · simp only [pageOf, Page.ofRows, ← List.getLast?_map, hcursors]
  · exact congrArg (List.foldl Page.laterMark none) hstamps
  · exact congrArg (List.foldl Page.earlierMark none) hstamps

/-- **No query tells null and undefined fields apart.** Take two stores with documents of the same
ids, that differ at most in that fields are explicitly null in one and undefined in the other, and
any query, however it was built or refused. Both fail with the same error, or both get a page: of
the same ids in the same order, with equal cursors and equal marks, and with rows that differ at
most in the same way. -/
theorem run_ignores_nulls (h : s.SameButNulls t) (x : Except QueryError Query) :
    SameOutcome Page.SameButNulls (x.bind (·.run s)) (x.bind (·.run t)) := by
  cases x with
  | error cause => exact .error cause
  | ok q =>
    show SameOutcome _ (q.run s) (q.run t)
    cases hselection : q.selection with
    | error cause =>
      unfold run
      rw [hselection]
      exact .error cause
    | ok selection =>
      rw [run_of_selection hselection, run_of_selection hselection]
      have hfetch := h.fetch q.collection.memory selection
      exact (sameOutcome_rows rfl hfetch).map fun _ _ => q.sameButNulls_pageOf

/-- The last person before an id, one of two of whom one has no age and the other no stamp. -/
theorem run_ignores_nulls_people :
    let c := Collection.people
    let opened := (Engine.empty.openStore c.catalog).store c.catalog
    let ann := Collection.annStored
    let bob : Document := ⟨.ofNat 2, .ofList [("age", some (.int 30))]⟩
    let s := (opened.set (ann.setNull "age")).set (bob.setNull "updated")
    let t := (opened.set (ann.unset "age")).set (bob.unset "updated")
    let q : Query := ⟨c, .all, ⟨[⟨"age", "age", .desc, false⟩]⟩, some 1, some ["age", "updated"],
      [(.before, ⟨.ofNat 3, none, .ofList [("age", none)]⟩)], none, none⟩
    (∃ page, q.run s = .ok page ∧ page.data.map (·.id) = [.ofNat 1]) ∧ s ≠ t ∧
      SameOutcome Page.SameButNulls (Except.bind (.ok q) (·.run s))
        (Except.bind (.ok q) (·.run t)) := by
  intro c opened ann bob s t q
  have h : s.SameButNulls t :=
    ((Store.SameButNulls.refl opened).set (ann.setNull_sameButNulls_unset "age")).set
      (bob.setNull_sameButNulls_unset "updated")
  refine ⟨⟨_, rfl, ?_⟩, ?_, run_ignores_nulls h (.ok q)⟩
  · decide +kernel
  · decide +kernel

end Query
end Paging
