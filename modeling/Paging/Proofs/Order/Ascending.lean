/-
# Ascending lists

Where no two items compare equal, sorting has one possible outcome: the strictly ascending
arrangement of the items. It does not depend on the order in which they are given
(`mergeSort_eq_of_perm`), and its reverse is the arrangement by the opposite comparison
(`Ascending.reverse`), which is what sorting by the opposite comparison finds
(`Untied.mergeSort_opposite`). What comes after an item of an ascending list is what stands behind it
(`Ascending.mem_append`). Where items are tied, arrangements differ in the order of tied items only
(`forall₂_tied_of_perm`).
-/
import Mathlib.Data.List.Forall2
import Mathlib.Data.List.Sort
import Paging.Order.TopK

namespace Paging

/-- Each item of the list comes strictly before all later ones. -/
abbrev Ascending {α : Type} (cmp : α → α → Ordering) (items : List α) : Prop :=
  items.Pairwise fun a b => cmp a b = .lt

/-- No two items of the list compare equal. -/
abbrev Untied {α : Type} (cmp : α → α → Ordering) (items : List α) : Prop :=
  items.Pairwise fun a b => cmp a b ≠ .eq

/-- The test by which items are sorted. -/
abbrev notAfter {α : Type} (cmp : α → α → Ordering) (a b : α) : Bool := cmp a b != .gt

section

variable {α : Type} {cmp : α → α → Ordering} [Std.TransCmp cmp] {items : List α}

omit [Std.TransCmp cmp] in

/-- The test that sorting uses, as a proposition on the comparison. -/
theorem notAfter_iff {a b : α} : notAfter cmp a b ↔ (cmp a b).isLE := by
  unfold notAfter
  cases cmp a b <;> decide

/-- Sorting's test is transitive, which is the first of the two conditions of the library's lemmas
on merge sort. -/
theorem notAfter_trans (a b c : α) (hab : notAfter cmp a b) (hbc : notAfter cmp b c) :
    notAfter cmp a c :=
  notAfter_iff.2 (Std.TransCmp.isLE_trans (notAfter_iff.1 hab) (notAfter_iff.1 hbc))

/-- Sorting's test is total, which is the second of them. -/
theorem notAfter_total (a b : α) : notAfter cmp a b || notAfter cmp b a := by
  rw [notAfter, notAfter, @Std.OrientedCmp.eq_swap _ cmp _ b a]
  cases cmp a b <;> rfl

/-- Sorting leaves no item before one that comes before it. -/
theorem pairwise_mergeSort_notAfter (items : List α) :
    (items.mergeSort (notAfter cmp)).Pairwise fun a b => notAfter cmp a b :=
  List.pairwise_mergeSort notAfter_trans notAfter_total items

omit [Std.TransCmp cmp] in

/-- An item that is not after another and not tied with it is before it. -/
theorem lt_of_notAfter_of_ne {a b : α} (h : notAfter cmp a b) (hne : cmp a b ≠ .eq) :
    cmp a b = .lt := by
  unfold notAfter at h
  cases hc : cmp a b with
  | lt => rfl
  | eq => exact absurd hc hne
  | gt => simp [hc] at h

/-- Whether items are untied does not depend on their arrangement. -/
theorem Untied.perm {other : List α} (h : Untied cmp items) (hperm : items.Perm other) :
    Untied cmp other :=
  hperm.pairwise h fun hne heq => hne (Std.OrientedCmp.eq_symm heq)

omit [Std.TransCmp cmp] in

/-- Items in strictly ascending order are untied. -/
theorem Ascending.untied (h : Ascending cmp items) : Untied cmp items :=
  h.imp fun hlt heq => by rw [hlt] at heq; cases heq

/-- Items of which no two compare equal are strictly ascending once they are sorted. -/
theorem Untied.ascending_mergeSort (h : Untied cmp items) :
    Ascending cmp (items.mergeSort (notAfter cmp)) :=
  (pairwise_mergeSort_notAfter items).imp₂ (fun _ _ => lt_of_notAfter_of_ne)
    (h.perm (List.mergeSort_perm items _).symm)

/-- **There is one ascending arrangement.** -/
theorem Ascending.eq_of_perm {other : List α} (h : Ascending cmp items)
    (h' : Ascending cmp other) (hperm : items.Perm other) : items = other :=
  hperm.eq_of_pairwise
    (fun a b _ _ (hab : cmp a b = .lt) (hba : cmp b a = .lt) =>
      absurd hba (Std.OrientedCmp.not_lt_of_lt hab)) h h'

/-- Sorting finds the ascending arrangement, in whatever order the items are given. -/
theorem mergeSort_eq_of_perm {other : List α} (h : Ascending cmp other)
    (hperm : items.Perm other) : items.mergeSort (notAfter cmp) = other :=
  have huntied : Untied cmp items := h.untied.perm hperm.symm
  huntied.ascending_mergeSort.eq_of_perm h ((List.mergeSort_perm items _).trans hperm)

omit [Std.TransCmp cmp] in
/-- **The opposite comparison arranges the items in reverse.** -/
theorem Ascending.reverse {opposite : α → α → Ordering}
    (hopposite : ∀ a b, opposite a b = cmp b a) (h : Ascending cmp items) :
    Ascending opposite items.reverse :=
  List.pairwise_reverse.2 (h.imp fun hab => (hopposite _ _).trans hab)

/-- **Sorting by the opposite comparison gives the reverse**, in whatever order the items are
given. -/
theorem Untied.mergeSort_opposite {opposite : α → α → Ordering} [Std.TransCmp opposite]
    (hopposite : ∀ a b, opposite a b = cmp b a) (h : Untied cmp items) {other : List α}
    (hperm : other.Perm items) :
    other.mergeSort (notAfter opposite) = (items.mergeSort (notAfter cmp)).reverse := by
  have hreverse : Ascending opposite (items.mergeSort (notAfter cmp)).reverse :=
    h.ascending_mergeSort.reverse hopposite
  have hsorted : (items.mergeSort (notAfter cmp)).reverse.Perm items :=
    (List.reverse_perm _).trans (List.mergeSort_perm items _)
  exact mergeSort_eq_of_perm hreverse (hperm.trans hsorted.symm)

/-- No item is there twice. -/
theorem Untied.nodup (h : Untied cmp items) : items.Nodup := by
  refine List.Pairwise.imp ?_ h
  rintro a _ hne rfl
  exact hne Std.ReflCmp.compare_self

/-- What stands behind an item of an ascending list is what comes after it in the order. -/
theorem Ascending.mem_append {first rest : List α} (h : Ascending cmp (first ++ rest)) {a : α}
    (ha : first.getLast? = some a) (x : α) : x ∈ rest ↔ x ∈ first ++ rest ∧ cmp a x = .lt := by
  obtain ⟨before, rfl⟩ := List.getLast?_eq_some_iff.1 ha
  obtain ⟨hfirst, -, hcross⟩ := List.pairwise_append.1 h
  have hlast : a ∈ before ++ [a] := List.mem_append_right _ List.mem_cons_self
  constructor
  · exact fun hx => ⟨List.mem_append_right _ hx, hcross a hlast x hx⟩
  · rintro ⟨hx, hlt⟩
    rcases List.mem_append.1 hx with hx | hx
    · rcases List.mem_append.1 hx with hx | hx
      · have hgt := (List.pairwise_append.1 hfirst).2.2 x hx a List.mem_cons_self
        exact absurd hlt (Std.OrientedCmp.not_lt_of_lt hgt)
      · obtain rfl := List.mem_singleton.1 hx
        exact absurd hlt (Std.OrientedCmp.not_lt_of_lt hlt)
    · exact hx

/-- What stands before an item of an ascending list is what comes before it in the order. -/
theorem Ascending.mem_before {first rest : List α} {a : α} (h : Ascending cmp (first ++ a :: rest))
    (x : α) : x ∈ first ↔ x ∈ first ++ a :: rest ∧ cmp a x = .gt := by
  obtain ⟨-, hrest, hcross⟩ := List.pairwise_append.1 h
  constructor
  · intro hx
    exact ⟨List.mem_append_left _ hx,
      Std.OrientedCmp.gt_of_lt (hcross x hx a List.mem_cons_self)⟩
  · rintro ⟨hx, hgt⟩
    have hlt : cmp x a = .lt := Std.OrientedCmp.lt_of_gt hgt
    rcases List.mem_append.1 hx with hx | hx
    · exact hx
    rcases List.mem_cons.1 hx with rfl | hx
    · exact absurd hlt (Std.OrientedCmp.not_lt_of_lt hlt)
    · exact absurd hlt (Std.OrientedCmp.not_lt_of_lt (List.rel_of_pairwise_cons hrest hx))

/-- What comes after the last item of an ascending list comes after all of its items. -/
theorem Ascending.lt_of_getLast? (h : Ascending cmp items) {b : α}
    (hb : ∀ a ∈ items.getLast?, cmp a b = .lt) : ∀ a ∈ items, cmp a b = .lt := by
  intro a ha
  cases hlast : items.getLast? with
  | none =>
    rw [List.getLast?_eq_none_iff.1 hlast] at ha
    exact absurd ha List.not_mem_nil
  | some last =>
    have hlt := hb last hlast
    obtain ⟨before, rfl⟩ := List.getLast?_eq_some_iff.1 hlast
    rcases List.mem_append.1 ha with ha | ha
    · exact Std.TransCmp.lt_trans
        ((List.pairwise_append.1 h).2.2 a ha last List.mem_cons_self) hlt
    · rwa [List.mem_singleton.1 ha]

/-- Two items of which neither is after the other are tied. -/
theorem eq_of_notAfter {a b : α} (hab : notAfter cmp a b) (hba : notAfter cmp b a) :
    cmp a b = .eq :=
  Std.OrientedCmp.isLE_antisymm (notAfter_iff.1 hab) (notAfter_iff.1 hba)

/-- Items that compare equal belong to one class. -/
def ties (cmp : α → α → Ordering) [Std.TransCmp cmp] : Setoid α where
  r a b := cmp a b = .eq
  iseqv := ⟨fun _ => Std.ReflCmp.compare_self, Std.OrientedCmp.eq_symm, Std.TransCmp.eq_trans⟩

/-- A class does not come after another one if some item of it does not. -/
def ClassNotAfter (cmp : α → α → Ordering) [Std.TransCmp cmp] (p q : Quotient (ties cmp)) : Prop :=
  ∃ a b, Quotient.mk _ a = p ∧ Quotient.mk _ b = q ∧ notAfter cmp a b

/-- On the classes of tied items the order is antisymmetric, so that a sorted list of classes is
determined by its members. -/
theorem ClassNotAfter.antisymm {p q : Quotient (ties cmp)} (hpq : ClassNotAfter cmp p q)
    (hqp : ClassNotAfter cmp q p) : p = q := by
  obtain ⟨a, b, rfl, rfl, hab⟩ := hpq
  obtain ⟨b', a', hb, ha, hba⟩ := hqp
  have hb : cmp b b' = .eq := Std.OrientedCmp.eq_symm (Quotient.exact hb)
  have ha : cmp a' a = .eq := Quotient.exact ha
  refine Quotient.sound (eq_of_notAfter hab (notAfter_iff.2 ?_))
  have hle : (cmp b a').isLE := Std.TransCmp.isLE_trans (by rw [hb]; rfl) (notAfter_iff.1 hba)
  exact Std.TransCmp.isLE_trans hle (by rw [ha]; rfl)

/-- **Two arrangements agree up to ties**, position by position. -/
theorem forall₂_tied_of_perm {other : List α} (hperm : items.Perm other)
    (h : items.Pairwise fun a b => notAfter cmp a b)
    (h' : other.Pairwise fun a b => notAfter cmp a b) :
    List.Forall₂ (fun a b => cmp a b = .eq) items other := by
  -- the classes of the items have one arrangement, because no two classes are tied
  have hclasses : ∀ l : List α, l.Pairwise (fun a b => notAfter cmp a b) →
      (l.map (Quotient.mk (ties cmp))).Pairwise (ClassNotAfter cmp) := fun l hl =>
    List.pairwise_map.2 (hl.imp fun hab => ⟨_, _, rfl, rfl, hab⟩)
  have heq : items.map (Quotient.mk (ties cmp)) = other.map (Quotient.mk (ties cmp)) :=
    (hperm.map _).eq_of_pairwise (fun _ _ _ _ => ClassNotAfter.antisymm)
      (hclasses items h) (hclasses other h')
  have hsame : List.Forall₂ (fun a b => Quotient.mk (ties cmp) a = Quotient.mk (ties cmp) b)
      items other :=
    List.forall₂_map_left_iff.1 (List.forall₂_map_right_iff.1 (List.forall₂_eq_eq_eq ▸ heq))
  exact hsame.imp fun _ _ hab => Quotient.exact hab

end

end Paging
