/-
# Handles on one engine

An engine is used through handles: a handle opens the store of its name, and all handles of one name
write to one store. Every write sets some documents and does nothing else, so whatever is opened and
written in whatever order, the documents of each store lie under their own ids, and a store shows
the ids under the name that the first handle of its name gave it (`keeps`).

A handle looks a document up by its id, or asks for it with a query. The query compares the name
that the catalog of the handle has for the id. The two ways agree exactly if that name is the one
which the store shows the ids under, or every document happens to hold its own id under it
(`findsById_iff`). A handle with another name for the id asks for a field that documents need not
have (`asked_in_vain`).
-/
import Paging.Proofs.Query

namespace Paging

namespace Collection

variable {c : Collection} {s : Store}

/-- Whether the query for an id answers what the lookup of the id finds, for every id. -/
def FindsById (c : Collection) (s : Store) : Prop :=
  ∀ id, ∃ page, ((c.find (.id id)).bind fun q => q.run s) = .ok page ∧
    page.data = (s.get? id).toList

/-- The query compares what the store shows under the name that the handle has for the id. -/
theorem exists_run_findId (c : Collection) (s : Store) (id : EntityId) :
    ∃ page, ((c.find (.id id)).bind fun q => q.run s) = .ok page ∧
      page.data.Perm (s.documents.values.filter fun d =>
        s.read d c.catalog.idField = some (.entityId id)) := by
  have hresolve : (Criteria.id id).resolve c.catalog = .ok (.id id) := rfl
  obtain ⟨page, hrun, hdata⟩ := Query.run_find hresolve s
  refine ⟨page, hrun, hdata ▸ (List.mergeSort_perm _ _).trans (.of_eq ?_)⟩
  refine List.filter_congr fun d _ => ?_
  rw [Bool.eq_iff_iff, decide_eq_true_iff]
  exact (Criteria.eval_condition _ _ _).trans Value.meets_entityId

/-- **Queries for ids are lookups** exactly if the store shows every document's id under the name
that the handle has for it. -/
theorem findsById_iff_read (hs : s.Filed) : c.FindsById s ↔
    ∀ d ∈ s.documents.values, s.read d c.catalog.idField = some (.entityId d.id) := by
  constructor
  · intro h d hd
    obtain ⟨page, hrun, hdata⟩ := h d.id
    obtain ⟨page', hrun', hperm⟩ := c.exists_run_findId s d.id
    obtain rfl := Except.ok.inj (hrun.symm.trans hrun')
    rw [hdata, hs.mem_values.1 hd] at hperm
    have hmem := hperm.mem_iff.1 (List.mem_singleton_self d)
    exact of_decide_eq_true (List.mem_filter.1 hmem).2
  · intro h id
    obtain ⟨page, hrun, hperm⟩ := c.exists_run_findId s id
    have hids : (s.documents.values.filter fun d =>
        s.read d c.catalog.idField = some (.entityId id)) =
          s.documents.values.filter (·.id = id) := by
      refine List.filter_congr fun d hd => ?_
      simp only [h d hd, Option.some.injEq, Value.entityId.injEq]
    -- at most one document has the id, so there is only one order for the answer to be in
    have hsame : page.data.Perm (s.get? id).toList := (hids ▸ hperm).trans (hs.perm_filter_id id)
    refine ⟨page, hrun, ?_⟩
    generalize s.get? id = found at hsame ⊢
    cases found with
    | none => exact List.perm_nil.1 hsame
    | some d => exact List.perm_singleton.1 hsame

end Collection

namespace Engine

/-- The handles that were opened on an engine, in order, and what has become of the engine, after
openings and writes through opened handles in any order. -/
inductive Reachable : List Collection → Engine → Prop
  | empty : Reachable [] .empty
  | opened {handles : List Collection} {e : Engine} (h : Reachable handles e) (c : Collection) :
      Reachable (handles ++ [c]) (e.openStore c.catalog)
  | written {handles : List Collection} {e : Engine} (h : Reachable handles e) {c : Collection}
      (hc : c ∈ handles) (w : Collection.Write) :
      Reachable handles (e.put c.catalog (w.apply c (e.store c.catalog)))

/-- The handle that was the first to open the store of a name. -/
def opener? (handles : List Collection) (name : String) : Option Collection :=
  handles.find? (·.catalog.name = name)

/-- A later handle opens a name only if no earlier one did. -/
theorem opener?_opened (handles : List Collection) (c : Collection) (name : String) :
    opener? (handles ++ [c]) name =
      (opener? handles name).or (if c.catalog.name = name then some c else none) := by
  unfold opener?
  rw [List.find?_append, List.find?_singleton]
  simp only [decide_eq_true_eq]

/-- The name of a handle has an opener, maybe the handle itself. -/
theorem exists_opener {handles : List Collection} {c : Collection} (h : c ∈ handles) :
    ∃ first, opener? handles c.catalog.name = some first :=
  Option.isSome_iff_exists.1 (List.find?_isSome.2 ⟨c, h, decide_eq_true rfl⟩)

/-- What is known of the stores of an engine: there is one for each name that was opened, its
documents lie under their own ids, and it shows them under the name of its first opener. -/
def Keeps (handles : List Collection) (e : Engine) : Prop :=
  ∀ name, Option.Rel (fun (s : Store) (first : Collection) =>
    s.Filed ∧ s.idField = first.catalog.idField) (e.stores.get? name) (opener? handles name)

variable {handles : List Collection} {e : Engine} {c : Collection}

/-- Putting back a store with the opener's name for the id keeps the engine as its handles expect
it. -/
theorem Keeps.put (h : Keeps handles e) {catalog : Catalog} {s : Store} {first : Collection}
    (hfirst : opener? handles catalog.name = some first) (hs : s.Filed)
    (hidField : s.idField = first.catalog.idField) : Keeps handles (e.put catalog s) := by
  intro name
  unfold Engine.put
  by_cases hname : name = catalog.name
  · rw [hname, SortedMap.get?_insert_self, hfirst]
    exact .some ⟨hs, hidField⟩
  · rw [SortedMap.get?_insert_of_ne _ hname]
    exact h name

/-- The store of a handle, opened or about to be: a new store belongs to its opener. -/
theorem Keeps.store (h : Keeps handles e) (c : Collection) :
    (e.store c.catalog).Filed ∧ (e.store c.catalog).idField =
      ((opener? handles c.catalog.name).getD c).catalog.idField := by
  have hrel := h c.catalog.name
  unfold Engine.store
  generalize e.stores.get? c.catalog.name = stored, opener? handles c.catalog.name = first at hrel ⊢
  cases hrel with
  | some hstore => exact hstore
  | none => exact ⟨Store.filed_empty _ _, rfl⟩

/-- Opening keeps it: the indexes touch neither documents nor names. -/
theorem Keeps.opened (h : Keeps handles e) (c : Collection) :
    Keeps (handles ++ [c]) (e.openStore c.catalog) := by
  obtain ⟨hs, hidField⟩ := h.store c
  obtain ⟨hdocuments, hsame⟩ := Store.documents_addIndexes c.catalog.indexed (e.store c.catalog)
  intro name
  unfold Engine.openStore Engine.put
  rw [opener?_opened]
  by_cases hname : name = c.catalog.name
  · rw [hname, if_pos rfl, SortedMap.get?_insert_self, Option.or_some]
    refine .some ⟨fun id d hd => hs id d ?_, hsame.trans hidField⟩
    unfold Store.get? at hd ⊢
    rwa [hdocuments] at hd
  · rw [if_neg (Ne.symm hname), Option.or_none, SortedMap.get?_insert_of_ne _ hname]
    exact h name

/-- **What stays true of an engine**, whatever is opened and written, in whatever order. -/
theorem Reachable.keeps (h : Reachable handles e) : Keeps handles e := by
  induction h with
  | empty => exact fun _ => .none
  | opened _ c ih => exact ih.opened c
  | written _ hc w ih =>
    obtain ⟨first, hfirst⟩ := exists_opener hc
    obtain ⟨hs, hidField⟩ := ih.store _
    obtain ⟨set, -, hset⟩ := w.exists_setAll _ _
    rw [hset]
    rw [hfirst] at hidField
    exact ih.put hfirst (hs.setAll set) ((Store.idField_setAll _ set).trans hidField)

/-- **When the two ways to find a document by its id agree.** Take any handles, opened on one engine
for any catalogs, and anything written through them, in whatever order. A handle that asks for an id
gets what it looks up under the id, for every id, exactly in one of two cases: its catalog has the
name for the id that the first handle of this name of a collection had, or every document of the
store holds its own id in the field that its catalog takes for the id. -/
theorem findsById_iff (h : Reachable handles e) (hc : c ∈ handles) :
    ∃ first, opener? handles c.catalog.name = some first ∧
      (c.FindsById (e.store c.catalog) ↔ first.catalog.idField = c.catalog.idField ∨
        ∀ d ∈ (e.store c.catalog).documents.values,
          d.value c.catalog.idField = some (.entityId d.id)) := by
  obtain ⟨first, hfirst⟩ := exists_opener hc
  obtain ⟨hs, hidField⟩ := h.keeps.store c
  rw [hfirst] at hidField
  refine ⟨first, hfirst, (Collection.findsById_iff_read hs).trans ?_⟩
  unfold Store.read Document.row
  rw [hidField]
  by_cases hname : first.catalog.idField = c.catalog.idField
  · simp [hname]
  · simp [hname, Ne.symm hname]

/-- Ann is saved between the openings of two handles that agree on the name for the id. -/
theorem findsById_iff_people :
    let c := Collection.people
    let second : Collection := ⟨c.catalog, [7], .utmost⟩
    let opened := Engine.empty.openStore c.catalog
    let written := opened.put c.catalog
      ((Collection.Write.save .epoch Collection.ann).apply c (opened.store c.catalog))
    let e := written.openStore second.catalog
    Reachable [c, second] e ∧
      ∃ first, opener? [c, second] second.catalog.name = some first ∧
        (second.FindsById (e.store second.catalog) ↔
          first.catalog.idField = second.catalog.idField ∨
            ∀ d ∈ (e.store second.catalog).documents.values,
              d.value second.catalog.idField = some (.entityId d.id)) := by
  intro c second opened written e
  have hreachable : Reachable [c, second] e :=
    .opened (.written (.opened .empty c) (List.mem_singleton_self c) _) second
  exact ⟨hreachable, findsById_iff hreachable (List.mem_cons_of_mem _ List.mem_cons_self)⟩

/-- **A document that is there is asked for in vain** by a handle with another name for the id: it
looks Ann up, and its query for her id has no rows. -/
theorem asked_in_vain :
    let first := Collection.people
    let config : Config := { Config.standard with idField := "key" }
    let second : Collection := ⟨{ Catalog.peopleCatalog with config }, [], .utmost⟩
    let opened := Engine.empty.openStore first.catalog
    let written := opened.put first.catalog
      ((Collection.Write.save .epoch Collection.ann).apply first (opened.store first.catalog))
    let e := written.openStore second.catalog
    let s := e.store second.catalog
    Catalog.register Catalog.people config = .ok second.catalog ∧ Reachable [first, second] e ∧
      s.get? Collection.ann.id = some Collection.annStored ∧
      (∃ page, ((second.find (.id Collection.ann.id)).bind fun q => q.run s) = .ok page ∧
        page.data = []) ∧
      ¬second.FindsById s := by
  intro first config second opened written e s
  have hreachable : Reachable [first, second] e :=
    .opened (.written (.opened .empty first) (List.mem_singleton_self first) _) second
  have hget : s.get? Collection.ann.id = some Collection.annStored := by decide +kernel
  have hrun : ((second.find (.id Collection.ann.id)).bind fun q => q.run s) =
      .ok ⟨[], none, none, none, none⟩ := by decide +kernel
  refine ⟨by decide +kernel, hreachable, hget, ⟨_, hrun, rfl⟩, fun h => ?_⟩
  obtain ⟨page, hpage, hdata⟩ := h Collection.ann.id
  obtain rfl := Except.ok.inj (hrun.symm.trans hpage)
  rw [hget] at hdata
  cases hdata

end Engine
end Paging
