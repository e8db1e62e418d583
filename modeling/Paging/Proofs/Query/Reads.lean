/-
# What a query reads

A predicate and an order look at rows under some names and under no others, so rows that agree on
these names are alike to them. Take two stores whose documents of the same ids agree on the names
that a selection reads: they answer it with documents of the same ids, one by one
(`fetch_forall₂`). What a query compiles to reads the names of its criteria, the physical names of
its sort keys and the name of the freshness field (`ReadsOnly.selection`).
-/
import Paging.Proofs.Query
import Paging.Proofs.Query.Compiled

namespace Paging

variable {seen : String → Prop}

/-- Two rows show the same under the names that are seen. -/
def Row.AgreeOn (seen : String → Prop) (a b : Row) : Prop :=
  ∀ name, seen name → a name = b name

/-- A predicate does not look at names that are not seen. -/
def Predicate.ReadsOnly (seen : String → Prop) (p : Predicate) : Prop :=
  ∀ a b : Row, Row.AgreeOn seen a b → p.eval a = p.eval b

namespace Predicate

/-- Conditions on names that are seen look at no others, and no more do their joins. -/
theorem closed_readsOnly : Closed seen (ReadsOnly seen) where
  always _ _ _ := rfl
  never _ _ _ := rfl
  fieldIs h comparison v a b hab := by
    simp only [fieldIs, eval, outcome?, Expr.value, hab _ h]
  fieldIsNull h a b hab := by
    rw [eval_fieldIsNull, eval_fieldIsNull, hab _ h]
  fieldIsNotNull h a b hab := by
    rw [fieldIsNotNull, eval, eval, eval_fieldIsNull, eval_fieldIsNull, hab _ h]
  and hp hq a b hab := by
    rw [eval_and, eval_and, hp a b hab, hq a b hab]
  either hp hq a b hab := congrArg₂ or (hp a b hab) (hq a b hab)

end Predicate

namespace Query

/-- The parts of a query do not look at names that are not seen. -/
structure ReadsOnly (seen : String → Prop) (q : Query) : Prop where
  criteria : (q.criteria.toPredicate q.catalog.idField).ReadsOnly seen
  keys : ∀ k ∈ q.sort.withTieBreak q.catalog.idField, seen k.physical
  stamp : seen q.catalog.freshnessField

variable {q : Query}

/-- **The selection of a query reads what its parts read.** -/
theorem ReadsOnly.selection (hq : q.ReadsOnly seen) {selection : Selection}
    (h : q.selection = .ok selection) :
    selection.predicate.ReadsOnly seen ∧ ∀ item ∈ selection.orderBy, seen item.field := by
  refine ⟨Predicate.closed_readsOnly.selection hq.criteria hq.keys hq.stamp h,
    fun item hitem => ?_⟩
  obtain ⟨p, -, h⟩ := bind_eq_ok.1 h
  obtain rfl := Except.ok.inj h
  obtain ⟨k, hk, rfl⟩ := List.mem_map.1 hitem
  exact hq.keys k hk

end Query

/-- Rows that agree on the names of an order are compared alike. -/
theorem compareRows_congr {order : OrderBy} (h : ∀ item ∈ order, seen item.field) {a a' b b' : Row}
    (ha : Row.AgreeOn seen a a') (hb : Row.AgreeOn seen b b') :
    compareRows order a b = compareRows order a' b' := by
  induction order with
  | nil => rfl
  | cons item rest ih =>
    rw [List.forall_mem_cons] at h
    rw [compareRows, compareRows, ha _ h.1, hb _ h.1, ih h.2]

/-- Related documents have one id and agree on the names that are seen. -/
def Document.Agreeing (idField : String) (seen : String → Prop)
    (R : Document → Document → Prop) : Prop :=
  ∀ d e, R d e → d.id = e.id ∧ Row.AgreeOn seen (d.row idField) (e.row idField)

namespace Store

/-- The document that a store has under the id of another one. -/
def counterpart (t : Store) (d : Document) : Document :=
  (t.get? d.id).getD d

variable {c : Catalog} {s t : Store} {R : Document → Document → Prop}

/-- A document of one store has a counterpart under its id in the other one, to which it is related.
-/
theorem Consistent.counterpart_of_mem (hs : s.Consistent c)
    (hdocuments : ∀ id, Option.Rel R (s.get? id) (t.get? id)) {d : Document}
    (hd : d ∈ s.documents.values) :
    t.get? d.id = some (t.counterpart d) ∧ R d (t.counterpart d) := by
  have hrel := hdocuments d.id
  rw [hs.mem_values.1 hd] at hrel
  unfold counterpart
  generalize t.get? d.id = other at hrel ⊢
  cases hrel with
  | some hrel => exact ⟨rfl, hrel⟩

/-- Every document of a store is the counterpart of one. -/
theorem Consistent.exists_counterpart (hs : s.Consistent c) (ht : t.Consistent c)
    (hdocuments : ∀ id, Option.Rel R (s.get? id) (t.get? id)) {e : Document}
    (he : e ∈ t.documents.values) :
    ∃ d ∈ s.documents.values, R d e ∧ t.counterpart d = e := by
  have hrel := hdocuments e.id
  rw [ht.mem_values.1 he] at hrel
  cases hd : s.get? e.id with
  | none =>
    rw [hd] at hrel
    cases hrel
  | some d =>
    rw [hd] at hrel
    obtain ⟨hid, -⟩ := hs.filed e.id d hd
    cases hrel with
    | some hrel =>
      refine ⟨d, hs.mem_values.2 (hid.symm ▸ hd), hrel, ?_⟩
      rw [counterpart, hid, ht.mem_values.1 he]
      rfl

/-- **Stores with related documents answer with related documents**, one by one in the same order,
as long as the selection reads only what related documents agree on. -/
theorem Consistent.fetch_forall₂ (hs : s.Consistent c) (ht : t.Consistent c)
    (hR : Document.Agreeing c.idField seen R)
    (hproject : ∀ d e, R d e → ∀ names, R (d.project names) (e.project names))
    (hdocuments : ∀ id, Option.Rel R (s.get? id) (t.get? id)) {selection : Selection}
    (hpredicate : selection.predicate.ReadsOnly seen)
    (horder : ∀ item ∈ selection.orderBy, seen item.field)
    (hid : ∃ item ∈ selection.orderBy, item.field = c.idField) (memory : Memory) :
    SameOutcome (List.Forall₂ R) (s.fetch memory selection) (t.fetch memory selection) := by
  -- the memory decides alone whether there are answers
  by_cases hroom : ∀ k ∈ selection.limit, memory.Affords k
  swap
  · push Not at hroom
    obtain ⟨k, hlimit, hk⟩ := hroom
    rw [fetch_of_not_affords hk hlimit, fetch_of_not_affords hk hlimit]
    exact .error _
  obtain ⟨all, hall, hmem⟩ := hs.exists_ascending hid selection.predicate
  have hrelated : ∀ d ∈ all, R d (t.counterpart d) :=
    fun d hd => (hs.counterpart_of_mem hdocuments ((hmem d).1 hd).1).2
  -- the counterparts of an ascending arrangement are one, because the order cannot tell them apart
  have hall' : Ascending (compareDocuments c.idField selection.orderBy)
      (all.map t.counterpart) := by
    refine List.pairwise_map.2 (hall.imp_of_mem fun {d e} hd he hlt => ?_)
    exact (compareRows_congr horder (hR _ _ (hrelated d hd)).2
      (hR _ _ (hrelated e he)).2).symm.trans hlt
  have hmem' : ∀ e, e ∈ all.map t.counterpart ↔ e ∈ t.documents.values ∧
      selection.predicate.eval (e.row c.idField) := by
    intro e
    rw [List.mem_map]
    constructor
    · rintro ⟨d, hd, rfl⟩
      obtain ⟨hstored, heval⟩ := (hmem d).1 hd
      obtain ⟨hfound, hrel⟩ := hs.counterpart_of_mem hdocuments hstored
      obtain ⟨hsame, hrow⟩ := hR _ _ hrel
      exact ⟨ht.mem_values.2 (hsame ▸ hfound), (hpredicate _ _ hrow).symm.trans heval⟩
    · rintro ⟨he, heval⟩
      obtain ⟨d, hd, hrel, hcounterpart⟩ := hs.exists_counterpart ht hdocuments he
      exact ⟨d, (hmem d).2 ⟨hd, (hpredicate _ _ (hR _ _ hrel).2).trans heval⟩, hcounterpart⟩
  have hforall : List.Forall₂ R all (all.map t.counterpart) :=
    List.forall₂_map_right_iff.2 (List.forall₂_same.2 hrelated)
  rw [hs.fetch_eq hid hall hmem hroom, ht.fetch_eq hid hall' hmem' hroom]
  refine .ok (forall₂_projectRows hproject ?_ _)
  unfold limitRows
  cases selection.limit with
  | none => exact hforall
  | some k => exact List.forall₂_take k.toNat hforall

end Store
end Paging
