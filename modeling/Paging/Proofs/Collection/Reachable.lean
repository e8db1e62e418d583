/-
# What stays true of a store

The writes of a collection are a save, a batch and an update, each with the times that its clock
shows. Each of them sets documents that it has prepared (`Write.exists_setAll`), so the stores that
can be reached from the empty one by any run of them are consistent (`Reachable.consistent`): every
document is filed under its own id, and it is as preparation left it. A write touches the documents
with the ids that it writes and no others (`Write.get?_apply`).
-/
import Paging.Proofs.Collection.Prepared
import Paging.Proofs.Store.Filed

namespace Paging

/-- What is known of a store that was written through one collection only. -/
structure Store.Consistent (c : Catalog) (s : Store) : Prop where
  idField : s.idField = c.idField
  filed : ∀ id d, s.get? id = some d → d.id = id ∧ Prepared c d

namespace Collection

/-- A write, and the times at which it is done. -/
inductive Write
  | save (now : Timestamp) (d : Document)
  | create (clock : Nat → Timestamp) (ds : List Document)
  | update (clock : Nat → Timestamp) (criteria : Criteria) (patch : Fields)

namespace Write

/-- The store after a write. A save or a batch that is refused leaves it alone; an update that is
refused keeps what it has written before. -/
def apply (c : Collection) (s : Store) : Write → Store
  | save now d =>
    match c.save now d s with
    | .ok (_, s) => s
    | .error _ => s
  | create clock ds =>
    match c.create clock ds s with
    | .ok (_, s) => s
    | .error _ => s
  | update clock criteria patch => (c.update clock criteria patch s).store

/-- The ids of the documents that a write writes. -/
def ids (c : Collection) (s : Store) : Write → List EntityId
  | save now d =>
    match c.save now d s with
    | .ok (d, _) => [d.id]
    | .error _ => []
  | create clock ds =>
    match c.create clock ds s with
    | .ok (ds, _) => ds.map (·.id)
    | .error _ => []
  | update clock criteria patch =>
    match (c.find criteria).bind fun q => q.run s with
    | .ok page =>
      (page.data.take (c.saveAll clock patch 0 s page.data).written).map (·.id)
    | .error _ => []

end Write

/-- The stores that are reached from the empty one through a collection. -/
inductive Reachable (c : Collection) : Store → Prop
  | opened : Reachable c ((Engine.empty.openStore c.catalog).store c.catalog)
  | written {s : Store} (h : Reachable c s) (w : Write) : Reachable c (w.apply c s)

end Collection

namespace Store

namespace Consistent

variable {c : Catalog} {s : Store}

/-- Setting a prepared document keeps a store consistent. -/
theorem set (hs : s.Consistent c) {d : Document} (hd : Prepared c d) : (s.set d).Consistent c := by
  refine ⟨hs.idField, fun id e he => ?_⟩
  rcases of_get?_set he with ⟨rfl, rfl⟩ | he
  · exact ⟨rfl, hd⟩
  · exact hs.filed id e he

/-- So does setting several. -/
theorem setAll (hs : s.Consistent c) {ds : List Document} (hds : ∀ d ∈ ds, Prepared c d) :
    (s.setAll ds).Consistent c := by
  induction ds generalizing s with
  | nil => exact hs
  | cons d rest ih =>
    rw [List.forall_mem_cons] at hds
    exact ih (hs.set hds.1) hds.2

/-- Its documents lie under their own ids. -/
theorem isFiled (hs : s.Consistent c) : s.Filed :=
  fun id d h => (hs.filed id d h).1

/-- The documents of a store are those that it finds under their ids. -/
theorem mem_values (hs : s.Consistent c) {d : Document} :
    d ∈ s.documents.values ↔ s.get? d.id = some d :=
  hs.isFiled.mem_values

/-- Every document of a consistent store is prepared. -/
theorem prepared (hs : s.Consistent c) {d : Document} (hd : d ∈ s.documents.values) :
    Prepared c d :=
  (hs.filed d.id d (hs.mem_values.1 hd)).2

end Consistent

/-- A store that was just opened is empty. -/
theorem consistent_opened (c : Catalog) :
    ((Engine.empty.openStore c).store c).Consistent c := by
  have hstore : (Engine.empty.openStore c).store c =
      c.indexed.foldl addIndex (Store.empty c.name c.idField) := by
    unfold Engine.openStore Engine.put Engine.store
    rw [SortedMap.get?_insert_self]
    rfl
  obtain ⟨hdocuments, hidField⟩ :=
    documents_addIndexes c.indexed (Store.empty c.name c.idField)
  rw [hstore]
  refine ⟨hidField, fun id d h => ?_⟩
  unfold get? at h
  rw [hdocuments] at h
  exact absurd h (Option.some_ne_none d).symm

end Store

namespace Collection

variable {c : Collection} {s : Store}

/-- A document as preparation has left one. -/
def Written (c : Catalog) (d' : Document) : Prop := ∃ now d, prepare c now d = .ok d'

/-- What was written is prepared. -/
theorem Written.prepared {c : Catalog} (hc : c.WellFormed) {d' : Document} (h : Written c d') :
    Prepared c d' := by
  obtain ⟨now, d, hprepare⟩ := h
  exact (prepared_of_prepare hc hprepare).2

/-- A batch that passes is written document by document. -/
theorem prepareAll_ok {c : Catalog} {clock : Nat → Timestamp} {used : Nat}
    {ds written : List Document} (h : prepareAll c clock used ds = .ok written) :
    ∀ d' ∈ written, Written c d' := by
  induction ds generalizing used written with
  | nil =>
    obtain rfl := Except.ok.inj h
    exact fun _ hd => absurd hd List.not_mem_nil
  | cons d rest ih =>
    obtain ⟨d', hd', h⟩ := bind_eq_ok.1 h
    obtain ⟨more, hmore, h⟩ := bind_eq_ok.1 h
    obtain rfl := Except.ok.inj h
    rw [List.forall_mem_cons]
    exact ⟨⟨_, d, hd'⟩, ih hmore⟩

/-- What a save writes. -/
theorem save_ok (hc : c.catalog.WellFormed) {now : Timestamp} {d d' : Document} {s' : Store}
    (h : c.save now d s = .ok (d', s')) :
    d'.id = d.id ∧ Prepared c.catalog d' ∧ s' = s.set d' := by
  obtain ⟨e, he, heq⟩ := map_eq_ok.1 h
  obtain ⟨rfl, rfl⟩ := Prod.mk.inj heq
  obtain ⟨hid, hprepared⟩ := prepared_of_prepare hc he
  exact ⟨hid, hprepared, rfl⟩

/-- What a batch writes. -/
theorem create_ok {clock : Nat → Timestamp} {ds written : List Document} {s' : Store}
    (h : c.create clock ds s = .ok (written, s')) :
    (∀ d' ∈ written, Written c.catalog d') ∧ s' = s.setAll written := by
  obtain ⟨all, hall, heq⟩ := map_eq_ok.1 h
  obtain ⟨rfl, rfl⟩ := Prod.mk.inj heq
  exact ⟨prepareAll_ok hall, rfl⟩

/-- The loop of an update sets documents that it has prepared, also when it ends early. -/
theorem exists_setAll_saveAll (c : Collection) (clock : Nat → Timestamp) (patch : Fields)
    (written : Nat) (s : Store) (ds : List Document) :
    ∃ set, (∀ d' ∈ set, Written c.catalog d') ∧
      (c.saveAll clock patch written s ds).store = s.setAll set := by
  induction ds generalizing s written with
  | nil => exact ⟨[], fun _ hd => absurd hd List.not_mem_nil, rfl⟩
  | cons d rest ih =>
    unfold saveAll
    cases hsave : c.save (clock written) (d.merge patch) s with
    | error fault => exact ⟨[], fun _ hd => absurd hd List.not_mem_nil, rfl⟩
    | ok result =>
      obtain ⟨d', hd', rfl⟩ := map_eq_ok.1 hsave
      obtain ⟨set, hset, hstore⟩ := ih (written + 1) (s.set d')
      exact ⟨d' :: set, List.forall_mem_cons.2 ⟨⟨_, _, hd'⟩, hset⟩, hstore⟩

/-- **A write sets documents that it has prepared** and does nothing else. -/
theorem Write.exists_setAll (c : Collection) (s : Store) (w : Write) :
    ∃ set, (∀ d' ∈ set, Written c.catalog d') ∧ w.apply c s = s.setAll set := by
  cases w with
  | save now d =>
    rw [apply]
    cases hsave : c.save now d s with
    | error fault => exact ⟨[], fun _ hd => absurd hd List.not_mem_nil, rfl⟩
    | ok result =>
      obtain ⟨d', hd', rfl⟩ := map_eq_ok.1 hsave
      exact ⟨[d'], List.forall_mem_singleton.2 ⟨now, d, hd'⟩, rfl⟩
  | create clock ds =>
    rw [apply]
    cases hcreate : c.create clock ds s with
    | error fault => exact ⟨[], fun _ hd => absurd hd List.not_mem_nil, rfl⟩
    | ok result => exact ⟨result.1, create_ok hcreate⟩
  | update clock criteria patch =>
    rw [apply, Collection.update]
    cases (c.find criteria).bind fun q => q.run s with
    | error cause => exact ⟨[], fun _ hd => absurd hd List.not_mem_nil, rfl⟩
    | ok page => exact c.exists_setAll_saveAll clock patch 0 s page.data

/-- An update counts on from what was written before. -/
theorem le_written_saveAll (clock : Nat → Timestamp) (patch : Fields) (written : Nat)
    (s : Store) (ds : List Document) : written ≤ (c.saveAll clock patch written s ds).written := by
  induction ds generalizing s written with
  | nil => exact Nat.le_refl _
  | cons d rest ih =>
    unfold saveAll
    cases c.save (clock written) (d.merge patch) s with
    | error fault => exact Nat.le_refl _
    | ok result => exact (Nat.le_succ written).trans (ih (written + 1) result.2)

/-- An update touches the documents that it counts as written. The first one is counted, and the
rest count what they write themselves. -/
theorem get?_saveAll (hc : c.catalog.WellFormed) (clock : Nat → Timestamp) (patch : Fields)
    (written : Nat) (s : Store) (ds : List Document) {id : EntityId}
    (h : id ∉ (ds.take ((c.saveAll clock patch written s ds).written - written)).map (·.id)) :
    (c.saveAll clock patch written s ds).store.get? id = s.get? id := by
  induction ds generalizing s written with
  | nil => rfl
  | cons d rest ih =>
    unfold saveAll at h ⊢
    cases hsave : c.save (clock written) (d.merge patch) s with
    | error fault => rfl
    | ok result =>
      obtain ⟨d', s'⟩ := result
      obtain ⟨hid, -, rfl⟩ := save_ok hc hsave
      simp only [hsave] at h
      have hle := c.le_written_saveAll clock patch (written + 1) (s.set d') rest
      obtain ⟨n, hn⟩ := Nat.exists_eq_add_of_le hle
      have hcount : (c.saveAll clock patch (written + 1) (s.set d') rest).written - written =
          n + 1 := by omega
      rw [hcount, List.take_succ_cons, List.map_cons, List.mem_cons, not_or] at h
      have hcount' : (c.saveAll clock patch (written + 1) (s.set d') rest).written -
          (written + 1) = n := by omega
      rw [← hcount'] at h
      have hne : id ≠ d'.id := fun heq => h.1 (heq.trans hid)
      exact (ih (written + 1) (s.set d') h.2).trans (s.get?_set_of_ne hne)

/-- **A write keeps a store consistent.** -/
theorem Write.consistent_apply (hc : c.catalog.WellFormed) (hs : s.Consistent c.catalog)
    (w : Write) : (w.apply c s).Consistent c.catalog := by
  obtain ⟨set, hset, hstore⟩ := w.exists_setAll c s
  rw [hstore]
  exact hs.setAll fun d' hd' => (hset d' hd').prepared hc

/-- **A write touches no documents but those that it writes.** A write that fails leaves the store
as it was, but for an update, which is written document by document. -/
theorem Write.get?_apply (hc : c.catalog.WellFormed) (s : Store) (w : Write) {id : EntityId}
    (h : id ∉ w.ids c s) : (w.apply c s).get? id = s.get? id := by
  cases w with
  | save now d =>
    rw [apply]
    rw [ids] at h
    cases hsave : c.save now d s with
    | error fault => rfl
    | ok result =>
      obtain ⟨d', s'⟩ := result
      obtain ⟨-, -, rfl⟩ := save_ok hc hsave
      simp only [hsave, List.mem_singleton] at h
      exact s.get?_set_of_ne h
  | create clock ds =>
    rw [apply]
    rw [ids] at h
    cases hcreate : c.create clock ds s with
    | error fault => rfl
    | ok result =>
      obtain ⟨written, s'⟩ := result
      obtain ⟨-, rfl⟩ := create_ok hcreate
      simp only [hcreate] at h
      exact s.get?_setAll h
  | update clock criteria patch =>
    rw [apply, Collection.update]
    rw [ids] at h
    cases hrun : (c.find criteria).bind fun q => q.run s with
    | error cause => rfl
    | ok page =>
      simp only [hrun] at h
      exact get?_saveAll hc clock patch 0 s page.data h

/-- **Every reachable store is consistent.** -/
theorem Reachable.consistent (hc : c.catalog.WellFormed) (h : c.Reachable s) :
    s.Consistent c.catalog := by
  induction h with
  | opened => exact Store.consistent_opened c.catalog
  | written _ w ih => exact w.consistent_apply hc ih

/-- The collection of the small schema. -/
def people : Collection := ⟨Catalog.peopleCatalog, [], .utmost⟩

/-- A person without an age. -/
def ann : Document := ⟨.ofNat 1, .ofList [("name", some (.string "Ann"))]⟩

/-- The person as she is stored. -/
def annStored : Document :=
  ⟨.ofNat 1, .ofList [("_name", some (.string "ann")), ("name", some (.string "Ann")),
    ("updated", some (.timestamp .epoch))]⟩

/-- A document that can be prepared can be saved. -/
theorem save_of_prepare {now : Timestamp} {d d' : Document}
    (h : prepare c.catalog now d = .ok d') (s : Store) : c.save now d s = .ok (d', s.set d') := by
  rw [save, h]
  rfl

/-- Ann is saved with the shadow of her name and a stamp. -/
theorem save_ann (s : Store) : people.save .epoch ann s = .ok (annStored, s.set annStored) :=
  save_of_prepare (by decide +kernel) s

/-- A person with a name in small letters. -/
def person (id : Nat) (name : String) : Document := ⟨.ofNat id, .ofList [("name", some (.string name))]⟩

/-- The person as it is stored. -/
def personStored (id : Nat) (name : String) : Document :=
  ⟨.ofNat id, .ofList [("_name", some (.string name)), ("name", some (.string name)),
    ("updated", some (.timestamp .epoch))]⟩

/-- A store in which one person was saved after the other. -/
def storeOf (ds : List Document) : Store :=
  ds.foldl (fun s d => (Write.save .epoch d).apply people s)
    ((Engine.empty.openStore people.catalog).store people.catalog)

/-- Whoever was saved, the store was reached through the collection. -/
theorem reachable_storeOf (ds : List Document) : people.Reachable (storeOf ds) := by
  have hsave (s : Store) (h : people.Reachable s) :
      people.Reachable (ds.foldl (fun s d => (Write.save .epoch d).apply people s) s) := by
    induction ds generalizing s with
    | nil => exact h
    | cons d rest ih => exact ih _ (h.written _)
  exact hsave _ .opened

end Collection
end Paging
