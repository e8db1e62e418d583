/-
# What an update does to a store

An update finds its documents first and then writes over the store that it found them in. What it
writes does not change what it has found: no two of its documents have one id, so each is written
once, from what it was before the update and at a reading of the clock of its own (`saveAll_ok`). A
patch may touch the listed fields, shadows or the stamp; it makes no difference to which documents
are updated, and what it puts into shadows and the stamp is written over in turn (`update_effect`).
-/
import Paging.Proofs.Collection.Fitting
import Paging.Proofs.Query

namespace Paging

/-- What a name holds after a merge: what the patch says, or else what was there before. -/
theorem Document.get?_merge (d : Document) (patch : Fields) (name : String) :
    (d.merge patch).fields.get? name = (patch.get? name).or (d.fields.get? name) :=
  SortedMap.get?_foldl_insert patch.ascending d.fields name

/-- How an update at a time leaves a document: it keeps its id, bears the time as its stamp, has
shadows that follow the patched sources, and holds under every other name what the patch says, an
explicit null included, or else what it held before. -/
structure PatchedAt (c : Catalog) (patch : Fields) (now : Timestamp) (d d' : Document) : Prop where
  id : d'.id = d.id
  stamped : d'.fields.get? c.freshnessField = some (some (.timestamp now))
  follows : ∀ p ∈ c.shadows,
    Follows ((patch.get? p.1).or (d.fields.get? p.1)) (d'.fields.get? p.2)
  patched : ∀ name, name ≠ c.freshnessField → name ∉ c.shadows.map (·.2) →
    d'.fields.get? name = (patch.get? name).or (d.fields.get? name)

namespace Collection

/-- **A patched document is prepared from what it was before.** -/
theorem patchedAt_of_prepare {c : Catalog} (hc : c.WellFormed) {patch : Fields} {now : Timestamp}
    {d d' : Document} (h : prepare c now (d.merge patch) = .ok d') :
    PatchedAt c patch now d d' := by
  obtain ⟨hid, hstamp, hfollows, hkept⟩ := preparedAt_of_prepare hc h
  refine ⟨hid, hstamp, fun p hp => ?_, fun name hname hshadow => ?_⟩
  · rw [← d.get?_merge]
    exact hfollows p hp
  · rw [hkept name hname hshadow, d.get?_merge]

variable {c : Collection} {s : Store} {clock : Nat → Timestamp} {patch : Fields}

/-- The loop of an update touches no documents but those that it is given. -/
theorem get?_saveAll_of_not_mem (hc : c.catalog.WellFormed) (written : Nat) (s : Store)
    {ds : List Document} {id : EntityId} (h : id ∉ ds.map (·.id)) :
    (c.saveAll clock patch written s ds).store.get? id = s.get? id :=
  get?_saveAll hc clock patch written s ds fun hmem =>
    h (List.map_subset _ (List.take_subset _ ds) hmem)

/-- **What the loop of an update writes**, when it comes to its end over documents with ids of their
own: each of them once, at the next reading of the clock, and nothing else. The induction is on the
documents, with any store and any count of those written before. -/
theorem saveAll_ok (hc : c.catalog.WellFormed) {written : Nat} {ds : List Document}
    (hnodup : (ds.map (·.id)).Nodup) (h : (c.saveAll clock patch written s ds).fault = none) :
    (c.saveAll clock patch written s ds).written = written + ds.length ∧
      ∀ i (hi : i < ds.length), ∃ d',
        prepare c.catalog (clock (written + i)) (ds[i].merge patch) = .ok d' ∧
          (c.saveAll clock patch written s ds).store.get? ds[i].id = some d' := by
  induction ds generalizing s written with
  | nil => exact ⟨rfl, fun _ hi => absurd hi (Nat.not_lt_zero _)⟩
  | cons d rest ih =>
    rw [List.map_cons, List.nodup_cons] at hnodup
    unfold saveAll at h ⊢
    cases hsave : c.save (clock written) (d.merge patch) s with
    | error fault =>
      rw [hsave] at h
      cases h
    | ok result =>
      simp only [hsave] at h ⊢
      obtain ⟨d', hprepare, rfl⟩ := map_eq_ok.1 hsave
      obtain ⟨hcount, hrest⟩ := ih hnodup.2 h
      refine ⟨by rw [hcount, List.length_cons]; omega, fun i hi => ?_⟩
      cases i with
      | zero =>
        -- later documents have other ids, so this one stays as it is written now
        have hid : d'.id = d.id := (prepared_of_prepare hc hprepare).1
        refine ⟨d', hprepare, ?_⟩
        rw [List.getElem_cons_zero, get?_saveAll_of_not_mem hc _ _ hnodup.1, ← hid]
        exact s.get?_set_self d'
      | succ i =>
        obtain ⟨e, he, hget⟩ := hrest i (Nat.lt_of_succ_lt_succ hi)
        rw [Nat.add_right_comm] at he
        exact ⟨e, he, hget⟩

/-- The documents that an update finds are those that match the criteria, and no two of them have one
id. -/
theorem exists_found {criteria : Criteria} {page : Page} (hs : s.Filed)
    (hrun : ((c.find criteria).bind fun q => q.run s) = .ok page) :
    ∃ resolved, criteria.resolve c.catalog = .ok resolved ∧
      page.data.Perm (s.matching (resolved.toPredicate c.catalog.idField)) ∧
      (page.data.map (·.id)).Nodup := by
  obtain ⟨q, hq, -⟩ := bind_eq_ok.1 hrun
  obtain ⟨resolved, hresolve, -⟩ := map_eq_ok.1 hq
  obtain ⟨page', hrun', hdata⟩ := Query.run_find hresolve s
  obtain rfl := Except.ok.inj (hrun.symm.trans hrun')
  have hperm : page.data.Perm (s.matching (resolved.toPredicate c.catalog.idField)) :=
    hdata ▸ List.mergeSort_perm _ _
  exact ⟨resolved, hresolve, hperm, (hperm.map _).nodup_iff.2
    (List.pairwise_map.2 (hs.pairwise_id.sublist List.filter_sublist))⟩

end Collection
end Paging
