/-
# Updates that end early

An update finds its documents first and then writes them one by one. It ends at the first document
that does not fit when it is patched, and what it has written by then stays written
(`update_fault`). So a failing update may leave a store half done, exactly if the first document
that it finds fits and a later one does not (`atomic_iff`).

A handle interrupts none of its own updates: of documents that fit, either all fit when they are
patched or none, as the patch says (`Fits.merge_iff`), and a handle writes only documents that fit.
But handles of one name may have different catalogs, and what one of them has written need not fit
the others. An update through a handle is safe if the catalogs of all the handles of its name have
its fields, with interchangeable types (`failed_update_iff`). A handle with a new field is not safe:
the field may be there in old documents, with a value of any type (`half_done`).
-/
import Paging.Proofs.Collection.Update
import Paging.Proofs.Engine.Handles

namespace Paging

/-- Acceptance is transitive, because only the two numeric types accept each other. -/
theorem ValueType.accepts_trans {a b d : ValueType} (hab : a.accepts b) (hbd : b.accepts d) :
    a.accepts d := by
  cases a <;> cases b <;> cases hab <;> cases d <;> cases hbd <;> rfl

namespace Collection

variable {c : Collection} {s : Store} {clock : Nat → Timestamp} {criteria : Criteria}
  {patch : Fields}

/-- The loop of an update comes to its end if all documents fit when they are patched. Otherwise it
ends at the first one that does not, with those before it written. The induction is on the
documents: one that fits is written before the loop goes on, and nothing is written after one that
does not. -/
theorem saveAll_cases (hc : c.catalog.WellFormed) (clock : Nat → Timestamp) (patch : Fields)
    (written : Nat) (s : Store) (ds : List Document) :
    ((∀ d ∈ ds, Fits c.catalog (d.merge patch)) ∧
      (c.saveAll clock patch written s ds).fault = none) ∨
    ∃ before d after f v, ds = before ++ d :: after ∧
      (∀ e ∈ before, Fits c.catalog (e.merge patch)) ∧
      FirstMisfit c.catalog (d.merge patch) f v ∧
      c.saveAll clock patch written s ds =
        ⟨(c.saveAll clock patch written s before).store,
          (c.saveAll clock patch written s before).written,
          some (.fieldType f.name f.type v.type)⟩ := by
  induction ds generalizing s written with
  | nil => exact .inl ⟨fun _ hd => absurd hd List.not_mem_nil, rfl⟩
  | cons d rest ih =>
    obtain ⟨hfits, d', hd'⟩ | ⟨f, v, hfirst, herror⟩ :=
      prepare_cases hc (clock written) (d.merge patch)
    · have hsave : c.save (clock written) (d.merge patch) s = .ok (d', s.set d') :=
        map_eq_ok.2 ⟨d', hd', rfl⟩
      have hnext (ds : List Document) : c.saveAll clock patch written s (d :: ds) =
          c.saveAll clock patch (written + 1) (s.set d') ds := by
        rw [saveAll, hsave]
      obtain ⟨hrest, hfault⟩ | ⟨before, e, after, f, v, rfl, hbefore, hfirst, heq⟩ :=
        ih (written + 1) (s.set d')
      · refine .inl ⟨List.forall_mem_cons.2 ⟨hfits, hrest⟩, ?_⟩
        rw [hnext, hfault]
      · refine .inr ⟨d :: before, e, after, f, v, rfl, List.forall_mem_cons.2 ⟨hfits, hbefore⟩,
          hfirst, ?_⟩
        rw [hnext, hnext, heq]
    · have hsave : c.save (clock written) (d.merge patch) s =
          .error (.fieldType f.name f.type v.type) := by
        rw [save, herror]
        rfl
      have hstop : c.saveAll clock patch written s (d :: rest) =
          ⟨s, written, some (.fieldType f.name f.type v.type)⟩ := by
        rw [saveAll, hsave]
      exact .inr ⟨[], d, rest, f, v, rfl, fun _ he => absurd he List.not_mem_nil, hfirst, hstop⟩

/-- An update whose query is refused writes nothing. -/
theorem update_error {cause : QueryError}
    (h : ((c.find criteria).bind fun q => q.run s) = .error cause) :
    c.update clock criteria patch s = ⟨s, 0, some (.ofQuery cause)⟩ := by
  rw [update, h]

/-- An update writes what its query found, one document after the other. -/
theorem update_ok {page : Page} (h : ((c.find criteria).bind fun q => q.run s) = .ok page) :
    c.update clock criteria patch s = c.saveAll clock patch 0 s page.data := by
  rw [update, h]

/-- **An update comes to its end** exactly if all documents that it finds fit when they are
patched. -/
theorem fault_update_eq_none_iff (hc : c.catalog.WellFormed) :
    (c.update clock criteria patch s).fault = none ↔
      ∃ page, ((c.find criteria).bind fun q => q.run s) = .ok page ∧
        ∀ d ∈ page.data, Fits c.catalog (d.merge patch) := by
  cases hrun : (c.find criteria).bind fun q => q.run s with
  | error cause =>
    rw [update_error hrun]
    exact iff_of_false (Option.some_ne_none _) fun ⟨_, h, _⟩ => by cases h
  | ok page =>
    rw [update_ok hrun]
    obtain ⟨hfits, hnone⟩ | ⟨before, d, after, f, v, hdata, -, hfirst, heq⟩ :=
      saveAll_cases hc clock patch 0 s page.data
    · exact iff_of_true hnone ⟨page, rfl, hfits⟩
    · rw [heq]
      refine iff_of_false (Option.some_ne_none _) fun ⟨page', h, hfits⟩ => ?_
      obtain rfl := Except.ok.inj h
      have hd : d ∈ page.data := hdata ▸ List.mem_append_right _ List.mem_cons_self
      exact hfits d hd f v hfirst.toMisfit

/-- **What an update leaves behind that ends early.** If its query was refused, it is the store as
it was. Otherwise the update ended at a document that does not fit when it is patched, and it
reports the first misfit. The documents that it found before that one are patched and counted, and
no others. -/
theorem update_fault (hc : c.catalog.WellFormed) (hs : s.Filed) {fault : MutationError}
    (h : (c.update clock criteria patch s).fault = some fault) :
    (∃ cause, ((c.find criteria).bind fun q => q.run s) = .error cause ∧
      c.update clock criteria patch s = ⟨s, 0, some (.ofQuery cause)⟩) ∨
    ∃ page before d rest f v, ((c.find criteria).bind fun q => q.run s) = .ok page ∧
      page.data = before ++ d :: rest ∧ (∀ e ∈ before, Fits c.catalog (e.merge patch)) ∧
      FirstMisfit c.catalog (d.merge patch) f v ∧ fault = .fieldType f.name f.type v.type ∧
      (c.update clock criteria patch s).written = before.length ∧
      (∀ i (hi : i < before.length), ∃ d',
        (c.update clock criteria patch s).store.get? before[i].id = some d' ∧
          PatchedAt c.catalog patch (clock i) before[i] d') ∧
      ∀ id, id ∉ before.map (·.id) →
        (c.update clock criteria patch s).store.get? id = s.get? id := by
  cases hrun : (c.find criteria).bind fun q => q.run s with
  | error cause => exact .inl ⟨cause, rfl, update_error hrun⟩
  | ok page =>
    rw [update_ok hrun] at h ⊢
    obtain ⟨-, hnone⟩ | ⟨before, d, rest, f, v, hdata, hbefore, hfirst, heq⟩ :=
      saveAll_cases hc clock patch 0 s page.data
    · cases hnone.symm.trans h
    · rw [heq] at h ⊢
      -- the loop comes to its end over the documents before
      obtain ⟨-, hend⟩ | ⟨_, e, _, g, w, rfl, -, hmisfit, -⟩ :=
        saveAll_cases hc clock patch 0 s before
      · obtain ⟨-, -, -, hnodup⟩ := exists_found hs hrun
        rw [hdata, List.map_append] at hnodup
        obtain ⟨hcount, hwritten⟩ := saveAll_ok hc (List.nodup_append.1 hnodup).1 hend
        refine .inr ⟨page, before, d, rest, f, v, rfl, hdata, hbefore, hfirst,
          (Option.some.inj h).symm, hcount.trans (Nat.zero_add _), fun i hi => ?_,
          fun id hid => get?_saveAll_of_not_mem hc 0 s hid⟩
        obtain ⟨d', hprepare, hget⟩ := hwritten i hi
        rw [Nat.zero_add] at hprepare
        exact ⟨d', hget, patchedAt_of_prepare hc hprepare⟩
      · exact absurd hmisfit.toMisfit
          (hbefore e (List.mem_append_right _ List.mem_cons_self) g w)

/-- An update would be interrupted after its first write: the first document that it finds fits when
it is patched, and a later one does not. -/
def Interrupted (c : Collection) (criteria : Criteria) (patch : Fields) (s : Store) : Prop :=
  ∃ page first rest, ((c.find criteria).bind fun q => q.run s) = .ok page ∧
    page.data = first :: rest ∧ Fits c.catalog (first.merge patch) ∧
    ∃ d ∈ rest, ¬Fits c.catalog (d.merge patch)

/-- Updates that fail change no document, whatever the clock shows. -/
def Atomic (c : Collection) (criteria : Criteria) (patch : Fields) (s : Store) : Prop :=
  ∀ clock, (c.update clock criteria patch s).fault ≠ none →
    ∀ id, (c.update clock criteria patch s).store.get? id = s.get? id

/-- At some time a document does not bear the stamp of that time. -/
theorem exists_unstamped (c : Catalog) (d : Document) :
    ∃ now, d.fields.get? c.freshnessField ≠ some (some (.timestamp now)) := by
  by_cases h : d.fields.get? c.freshnessField = some (some (.timestamp .epoch))
  · exact ⟨Timestamp.epoch.later 1, by rw [h]; decide⟩
  · exact ⟨.epoch, h⟩

/-- What an update finds was stored. -/
theorem get?_of_found {page : Page} {d : Document} (hs : s.Filed)
    (hrun : ((c.find criteria).bind fun q => q.run s) = .ok page) (hd : d ∈ page.data) :
    s.get? d.id = some d := by
  obtain ⟨resolved, -, hperm, -⟩ := exists_found hs hrun
  exact hs.mem_values.1 (List.mem_of_mem_filter (hperm.mem_iff.1 hd))

/-- An update that is interrupted after its first write fails, and the first document that it found
bears a new stamp. -/
theorem Interrupted.not_atomic (hc : c.catalog.WellFormed) (hs : s.Filed)
    (h : c.Interrupted criteria patch s) : ¬c.Atomic criteria patch s := by
  obtain ⟨page, first, rest, hrun, hdata, hfirst, d, hd, hunfit⟩ := h
  intro hatomic
  obtain ⟨now, hnow⟩ := exists_unstamped c.catalog first
  -- the update fails, since a later document does not fit
  have hfault : (c.update (fun _ => now) criteria patch s).fault ≠ none := fun hnone => by
    obtain ⟨page', hrun', hfits⟩ := (fault_update_eq_none_iff hc).1 hnone
    obtain rfl := Except.ok.inj (hrun.symm.trans hrun')
    exact hunfit (hfits d (hdata ▸ List.mem_cons_of_mem _ hd))
  have hsame := hatomic (fun _ => now) hfault first.id
  rw [get?_of_found hs hrun (hdata ▸ List.mem_cons_self)] at hsame
  obtain ⟨fault, hsome⟩ := Option.ne_none_iff_exists'.1 hfault
  obtain ⟨cause, hcause, -⟩ | ⟨page', before, d', rest', f, v, hrun', hdata', -, hmisfit, -, -,
      hwritten, -⟩ := update_fault hc hs hsome
  · cases hrun.symm.trans hcause
  · obtain rfl := Except.ok.inj (hrun.symm.trans hrun')
    rw [hdata] at hdata'
    -- it ended behind the first document, which fits and so bears the stamp of its write
    cases before with
    | nil =>
      obtain ⟨rfl, -⟩ := List.cons.inj hdata'
      exact hfirst f v hmisfit.toMisfit
    | cons first' before =>
      obtain ⟨rfl, -⟩ := List.cons.inj hdata'
      obtain ⟨e, hget, hpatched⟩ := hwritten 0 (Nat.zero_lt_succ _)
      obtain rfl := Option.some.inj (hsame.symm.trans hget)
      exact hnow hpatched.stamped

/-- **A failing update changes no document** exactly if it is not interrupted after its first
write. -/
theorem atomic_iff (hc : c.catalog.WellFormed) (hs : s.Filed) (criteria : Criteria)
    (patch : Fields) : c.Atomic criteria patch s ↔ ¬c.Interrupted criteria patch s := by
  refine ⟨fun hatomic h => h.not_atomic hc hs hatomic, fun h clock hfault id => ?_⟩
  obtain ⟨fault, hsome⟩ := Option.ne_none_iff_exists'.1 hfault
  obtain ⟨cause, -, heq⟩ | ⟨page, before, d, rest, f, v, hrun, hdata, hbefore, hmisfit, -, -, -,
      hframe⟩ := update_fault hc hs hsome
  · rw [heq]
  · cases before with
    | nil => exact hframe id List.not_mem_nil
    | cons first before =>
      have hunfit : ¬Fits c.catalog (d.merge patch) := fun hfits => hfits f v hmisfit.toMisfit
      have hlater : d ∈ before ++ d :: rest := List.mem_append_right _ List.mem_cons_self
      exact absurd ⟨page, first, before ++ d :: rest, hrun, hdata,
        hbefore first List.mem_cons_self, d, hlater, hunfit⟩ h

/-- Whether a document that fits does so when it is patched, the patch alone tells. -/
theorem Fits.merge_iff {c : Catalog} {d : Document} (hd : Fits c d) : Fits c (d.merge patch) ↔
    ∀ f ∈ c.fields, ∀ v, patch.get? f.name = some (some v) → f.type.accepts v.type := by
  constructor
  · intro h f hf v hv
    by_contra hrefused
    refine h f v ⟨hf, ?_, hrefused⟩
    rw [Document.get?_merge, hv, Option.some_or]
  · rintro h f v ⟨hf, hv, hrefused⟩
    rw [Document.get?_merge, Option.or_eq_some_iff] at hv
    obtain hv | ⟨-, hv⟩ := hv
    · exact hrefused (h f hf v hv)
    · exact hd f v ⟨hf, hv, hrefused⟩

/-- A store of documents that fit interrupts no update. -/
theorem not_interrupted (hs : s.Filed) (h : ∀ id d, s.get? id = some d → Fits c.catalog d) :
    ¬c.Interrupted criteria patch s := by
  rintro ⟨page, first, rest, hrun, hdata, hfirst, d, hd, hunfit⟩
  have hfits (e : Document) (he : e ∈ first :: rest) : Fits c.catalog e :=
    h e.id e (get?_of_found hs hrun (hdata ▸ he))
  have hpatch := (hfits first List.mem_cons_self).merge_iff.1 hfirst
  exact hunfit ((hfits d (List.mem_cons_of_mem _ hd)).merge_iff.2 hpatch)

/-- A prepared document fits every catalog whose fields are there, with interchangeable types. -/
theorem fits_of_prepared {a b : Catalog} {d : Document} (hd : Prepared b d)
    (h : ∀ f ∈ a.fields, ∃ g ∈ b.fields, g.name = f.name ∧ f.type.accepts g.type) : Fits a d := by
  rintro f v ⟨hf, hv, hrefused⟩
  obtain ⟨g, hg, hname, haccepts⟩ := h f hf
  exact hrefused (ValueType.accepts_trans haccepts (hd.accepts_entry hg (hname ▸ hv)))

end Collection

namespace Engine

variable {handles : List Collection} {e : Engine} {c : Collection}

/-- A store that was put under a name is found under it. -/
theorem store_put_self (e : Engine) {a b : Catalog} (h : b.name = a.name) (s : Store) :
    (e.put a s).store b = s := by
  unfold put store
  rw [h, SortedMap.get?_insert_self]
  rfl

/-- Other names find what they found before. -/
theorem store_put_of_ne (e : Engine) {a b : Catalog} (h : b.name ≠ a.name) (s : Store) :
    (e.put a s).store b = e.store b := by
  unfold put store
  rw [SortedMap.get?_insert_of_ne _ h]

/-- **Every document was written through a handle of its store's name.** -/
theorem Reachable.exists_written (h : Reachable handles e) {catalog : Catalog} {id : EntityId}
    {d : Document} (hd : (e.store catalog).get? id = some d) :
    ∃ other ∈ handles, other.catalog.name = catalog.name ∧
      Collection.Written other.catalog d := by
  induction h generalizing catalog with
  | empty => exact absurd hd (Option.some_ne_none _).symm
  | @opened _ e _ c ih =>
    -- opening adds indexes at most, so the document was there before
    have hbefore : ∃ b : Catalog, b.name = catalog.name ∧ (e.store b).get? id = some d := by
      by_cases hname : catalog.name = c.catalog.name
      · refine ⟨c.catalog, hname.symm, ?_⟩
        rw [openStore, store_put_self e hname] at hd
        unfold Store.get? at hd ⊢
        rwa [(Store.documents_addIndexes _ _).1] at hd
      · rw [openStore, store_put_of_ne e hname] at hd
        exact ⟨catalog, rfl, hd⟩
    obtain ⟨b, hb, hget⟩ := hbefore
    obtain ⟨other, hother, hname, hwritten⟩ := ih hget
    exact ⟨other, List.mem_append_left _ hother, hname.trans hb, hwritten⟩
  | @written _ e _ c hc w ih =>
    by_cases hname : catalog.name = c.catalog.name
    · obtain ⟨set, hset, hstore⟩ := w.exists_setAll c (e.store c.catalog)
      rw [store_put_self e hname, hstore] at hd
      obtain ⟨-, hmem⟩ | hbefore := Store.of_get?_setAll hd
      · exact ⟨c, hc, hname.symm, hset d hmem⟩
      · obtain ⟨other, hother, hsame, hwritten⟩ := ih hbefore
        exact ⟨other, hother, hsame.trans hname.symm, hwritten⟩
    · rw [store_put_of_ne e hname] at hd
      exact ih hd

/-- **When a failing update changes nothing.** Take any handles, opened on one engine for registered
catalogs, and anything written through them, in whatever order. An update through one of the handles
that fails changes no document, whatever the clock shows, exactly if it is not interrupted after its
first write. It never is if the catalogs of all handles of this name have the fields of this one,
with interchangeable types. -/
theorem failed_update_iff (h : Reachable handles e) (hc : c ∈ handles)
    (hregistered : ∀ other ∈ handles, ∃ schema config,
      Catalog.register schema config = .ok other.catalog)
    (criteria : Criteria) (patch : Fields) :
    (c.Atomic criteria patch (e.store c.catalog) ↔
      ¬c.Interrupted criteria patch (e.store c.catalog)) ∧
    ((∀ other ∈ handles, other.catalog.name = c.catalog.name → ∀ f ∈ c.catalog.fields,
        ∃ g ∈ other.catalog.fields, g.name = f.name ∧ f.type.accepts g.type) →
      c.Atomic criteria patch (e.store c.catalog)) := by
  obtain ⟨schema, config, hregister⟩ := hregistered c hc
  have hfiled := (h.keeps.store c).1
  have hatomic := Collection.atomic_iff (Catalog.wellFormed_of_register hregister) hfiled criteria
    patch
  refine ⟨hatomic, fun halike => hatomic.2 (Collection.not_interrupted hfiled fun id d hd => ?_)⟩
  obtain ⟨other, hother, hname, hwritten⟩ := h.exists_written hd
  obtain ⟨schema', config', hregister'⟩ := hregistered other hother
  exact Collection.fits_of_prepared
    (hwritten.prepared (Catalog.wellFormed_of_register hregister')) (halike other hother hname)

/-- The small schema with one more field. -/
def nicknamed : Collection :=
  ⟨⟨"people", .standard,
    [⟨"name", .string, true, true, "_name", some "_name"⟩,
      ⟨"age", .int, true, false, "age", none⟩,
      ⟨"nick", .string, false, false, "nick", none⟩,
      ⟨"updated", .timestamp, true, false, "updated", none⟩],
    ["_name", "age", "updated"]⟩, [], .utmost⟩

/-- The longer schema can be registered. -/
theorem register_nicknamed : Catalog.register
    { Catalog.people with fields := Catalog.people.fields ++ [⟨"nick", .string, false, .inherit⟩] }
    .standard = .ok nicknamed.catalog := by rfl

/-- Somebody with a number for a nickname. -/
def bob : Document := ⟨.ofNat 2, .ofList [("nick", some (.int 7))]⟩

/-- The document as it is stored. -/
def bobStored : Document :=
  ⟨.ofNat 2, .ofList [("nick", some (.int 7)), ("updated", some (.timestamp .epoch))]⟩

/-- Two people are written before nicknames are declared. -/
def renewed : Engine :=
  let c := Collection.people
  let opened := empty.openStore c.catalog
  let batch := Collection.Write.create (fun _ => .epoch) [Collection.ann, bob]
  let written := opened.put c.catalog (batch.apply c (opened.store c.catalog))
  written.openStore nicknamed.catalog

/-- The engine was reached by opening, writing and opening again. -/
theorem reachable_renewed : Reachable [Collection.people, nicknamed] renewed :=
  .opened (.written (.opened .empty Collection.people) (List.mem_singleton_self _) _) nicknamed

/-- Both handles have registered catalogs. -/
theorem registered_renewed : ∀ c ∈ [Collection.people, nicknamed], ∃ schema config,
    Catalog.register schema config = .ok c.catalog := by
  rw [List.forall_mem_cons, List.forall_mem_singleton]
  exact ⟨⟨_, _, Catalog.register_people⟩, ⟨_, _, register_nicknamed⟩⟩

/-- Everybody turns one year old by way of the old handle, which knows nothing of nicknames. -/
theorem failed_update_iff_people :
    let handles := [Collection.people, nicknamed]
    let c := Collection.people
    let patch : Fields := .ofList [("age", some (.int 1))]
    let s := renewed.store c.catalog
    Reachable handles renewed ∧ c ∈ handles ∧
      (∀ other ∈ handles, ∃ schema config,
        Catalog.register schema config = .ok other.catalog) ∧
      (c.Atomic .all patch s ↔ ¬c.Interrupted .all patch s) ∧ c.Atomic .all patch s := by
  intro handles c patch s
  have hc : c ∈ handles := List.mem_cons_self
  obtain ⟨hiff, halike⟩ := failed_update_iff reachable_renewed hc registered_renewed .all patch
  exact ⟨reachable_renewed, hc, registered_renewed, hiff, halike (by decide)⟩

/-- **An update is left half done** by the new handle: it fails at the nickname that is a number,
and by then Ann's age has changed. -/
theorem half_done :
    let handles := [Collection.people, nicknamed]
    let c := nicknamed
    let patch : Fields := .ofList [("age", some (.int 1))]
    let s := renewed.store c.catalog
    let left := c.update (fun _ => .epoch) .all patch s
    Reachable handles renewed ∧ c ∈ handles ∧
      (∀ other ∈ handles, ∃ schema config,
        Catalog.register schema config = .ok other.catalog) ∧
      left.fault = some (.fieldType "nick" .string .int) ∧
      left.store.get? Collection.ann.id ≠ s.get? Collection.ann.id ∧
      ¬c.Atomic .all patch s := by
  intro handles c patch s left
  have hresolve : Criteria.all.resolve c.catalog = .ok .all := rfl
  obtain ⟨page, hrun, hdata⟩ := Query.run_find hresolve s
  -- the two are found in the order of their ids, in which they are stored
  have hfound : page.data = [Collection.annStored, bobStored] := by
    have hstored : s.matching (Criteria.all.toPredicate c.catalog.idField) =
        [Collection.annStored, bobStored] := by decide +kernel
    rw [hdata, hstored]
    exact List.mergeSort_of_pairwise (by decide +kernel)
  have hleft : left = c.saveAll (fun _ => .epoch) patch 0 s page.data := Collection.update_ok hrun
  rw [hfound] at hleft
  have hfault : left.fault = some (.fieldType "nick" .string .int) := by
    rw [hleft]
    decide +kernel
  have hchanged : left.store.get? Collection.ann.id ≠ s.get? Collection.ann.id := by
    rw [hleft]
    decide +kernel
  have hfailed : left.fault ≠ none := by
    rw [hfault]
    exact Option.some_ne_none _
  exact ⟨reachable_renewed, List.mem_cons_of_mem _ List.mem_cons_self, registered_renewed, hfault,
    hchanged, fun hatomic => hchanged (hatomic _ hfailed _)⟩

end Engine
end Paging
