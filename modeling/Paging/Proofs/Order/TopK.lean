/-
# The heap keeps the first rows

After each item the heap holds the first `k` of the items met so far: an item that is turned away
does not come before any item that is kept, because the one on top comes last among them, and an
item that is let in drives out the one on top. So the items kept at the end and the items turned
away make up an arrangement of all items (`Best.exists_among_append`). Where no two items compare
equal, the items kept are the beginning of the sorted items (`Best.among_eq_take`), and else they
are so up to ties (`Best.forall₂_among_take`).

All this is so if there is a heap. The search for the first items ends in one of two ways, and the
items have no part in which it is (`topK_of_affords`, `topK_of_not_affords`).
-/
import Paging.Proofs.Order.Ascending

namespace Paging

variable {α : Type} {cmp : α → α → Ordering}

/-- What is not before an item is after it or tied with it. -/
theorem notAfter_of_ne_lt [Std.OrientedCmp cmp] {a b : α} (h : cmp a b ≠ .lt) :
    notAfter cmp b a := by
  rw [notAfter, @Std.OrientedCmp.eq_swap _ cmp _ b a]
  cases hc : cmp a b with
  | lt => exact absurd hc h
  | eq => rfl
  | gt => rfl

/-- An item is not after one that it is before. -/
theorem notAfter_of_lt {a b : α} (h : cmp a b = .lt) : notAfter cmp a b := by
  rw [notAfter, h]
  rfl

/-- An item is not after itself. -/
theorem notAfter_refl [Std.ReflCmp cmp] (a : α) : notAfter cmp a a := by
  simp [notAfter, Std.ReflCmp.compare_self]

namespace Heap

/-- No item comes after the one above it. -/
def Ordered (cmp : α → α → Ordering) : Heap α → Prop
  | leaf => True
  | node a l r => (∀ x ∈ l.toList ++ r.toList, notAfter cmp x a) ∧ l.Ordered cmp ∧ r.Ordered cmp

/-- Only the empty heap has no top. -/
theorem eq_leaf_of_top? {h : Heap α} (htop : h.top? = none) : h = leaf := by
  cases h with
  | leaf => rfl
  | node a l r => cases htop

/-- The top of a heap is one of its items. -/
theorem mem_of_top? {h : Heap α} {a : α} (htop : h.top? = some a) : a ∈ h.toList := by
  cases h with
  | leaf => cases htop
  | node b l r =>
    obtain rfl : b = a := Option.some.inj htop
    exact List.mem_cons_self

/-- The item on top comes last. -/
theorem Ordered.notAfter_top [Std.TransCmp cmp] {h : Heap α} (ho : h.Ordered cmp) {a : α}
    (htop : h.top? = some a) : ∀ x ∈ h.toList, notAfter cmp x a := by
  cases h with
  | leaf => cases htop
  | node b l r =>
    obtain rfl : b = a := Option.some.inj htop
    intro x hx
    rcases List.mem_cons.1 hx with rfl | hx
    · exact notAfter_refl x
    · exact ho.1 x hx

/-- Pushing adds one item to those of the heap and loses none. -/
theorem push_perm (x : α) (h : Heap α) : (h.push cmp x).toList.Perm (x :: h.toList) := by
  induction h generalizing x with
  | leaf => exact List.Perm.refl _
  | node a l r _ ihr =>
    have hbranches (y : α) : ((r.push cmp y).toList ++ l.toList).Perm
        (y :: (l.toList ++ r.toList)) :=
      ((ihr y).append_right l.toList).trans (List.Perm.cons y List.perm_append_comm)
    unfold push
    split
    · exact List.Perm.cons x (hbranches a)
    · exact (List.Perm.cons a (hbranches x)).trans (List.Perm.swap x a _)

/-- An item of a node whose right child was pushed onto and swapped with the left one is the new
item or was there before. -/
theorem mem_push_append {x y : α} {l r : Heap α} (h : x ∈ (r.push cmp y).toList ++ l.toList) :
    x = y ∨ x ∈ l.toList ++ r.toList := by
  rcases List.mem_append.1 h with h | h
  · exact (List.mem_cons.1 ((push_perm y r).mem_iff.1 h)).imp_right (List.mem_append_right _)
  · exact .inr (List.mem_append_left _ h)

/-- **Pushing keeps the heap ordered.** The greater of the new item and the root stays at the root,
and the lesser one goes down. -/
theorem Ordered.push [Std.TransCmp cmp] {h : Heap α} (ho : h.Ordered cmp) (x : α) :
    (h.push cmp x).Ordered cmp := by
  induction h generalizing x with
  | leaf => exact ⟨fun _ hy => absurd hy List.not_mem_nil, trivial, trivial⟩
  | node a l r _ ihr =>
    obtain ⟨hbelow, hl, hr⟩ := ho
    unfold Heap.push
    split
    · next hlt =>
      refine ⟨fun y hy => ?_, ihr hr a, hl⟩
      rcases mem_push_append hy with rfl | hy
      · exact notAfter_of_lt hlt
      · exact notAfter_trans _ _ _ (hbelow y hy) (notAfter_of_lt hlt)
    · next hnlt =>
      refine ⟨fun y hy => ?_, ihr hr x, hl⟩
      rcases mem_push_append hy with rfl | hy
      · exact notAfter_of_ne_lt hnlt
      · exact hbelow y hy

/-- An item that replaces the top takes its place among the items. It stays at the root, or it goes
down one of the sides and the top of that side comes up. -/
theorem replaceTop_perm (x : α) {h : Heap α} {a : α} (htop : h.top? = some a) :
    (a :: (h.replaceTop cmp x).toList).Perm (x :: h.toList) := by
  induction h generalizing a with
  | leaf => cases htop
  | node b l r ihl ihr =>
    obtain rfl : b = a := Option.some.inj htop
    have hstay : (b :: x :: (l.toList ++ r.toList)).Perm (x :: b :: (l.toList ++ r.toList)) :=
      List.Perm.swap x b _
    have hleft {c : α} (hc : l.top? = some c) :
        (b :: c :: ((l.replaceTop cmp x).toList ++ r.toList)).Perm
          (x :: b :: (l.toList ++ r.toList)) :=
      (List.Perm.cons b ((ihl hc).append_right r.toList)).trans (List.Perm.swap x b _)
    have hright {c : α} (hc : r.top? = some c) :
        (b :: c :: (l.toList ++ (r.replaceTop cmp x).toList)).Perm
          (x :: b :: (l.toList ++ r.toList)) :=
      (List.Perm.cons b (List.perm_middle.symm.trans
        (((ihr hc).append_left l.toList).trans List.perm_middle))).trans (List.Perm.swap x b _)
    unfold replaceTop
    split
    · exact hstay
    · next c hc _ => split; exacts [hleft hc, hstay]
    · next c _ hc => split; exacts [hright hc, hstay]
    · next c d hc hd =>
      split
      · split; exacts [hright hd, hstay]
      · split; exacts [hleft hc, hstay]

/-- What is in the heap after its top is replaced is the new item or was there before. -/
theorem mem_replaceTop {x y : α} {h : Heap α} (hy : y ∈ (h.replaceTop cmp x).toList) :
    y = x ∨ y ∈ h.toList := by
  cases htop : h.top? with
  | none =>
    rw [eq_leaf_of_top? htop] at hy
    exact .inl (List.mem_singleton.1 hy)
  | some a =>
    exact List.mem_cons.1 ((replaceTop_perm x htop).mem_iff.1 (List.mem_cons_of_mem a hy))

/-- What is in a branch with a replaced top does not come after `a`, if the new item and the branch
do not. -/
theorem notAfter_replaceTop {x a : α} {h : Heap α} (hx : notAfter cmp x a)
    (hh : ∀ y ∈ h.toList, notAfter cmp y a) : ∀ y ∈ (h.replaceTop cmp x).toList, notAfter cmp y a :=
  fun y hy => (mem_replaceTop hy).elim (fun e => e ▸ hx) (hh y)

/-- **Replacing the top keeps the heap ordered.** The new item sinks below the greater child, and
the child comes up. The cases are those of the definition: which children are there, which of them
has the greater top, and whether the new item comes before it. -/
theorem Ordered.replaceTop [Std.TransCmp cmp] {h : Heap α} (ho : h.Ordered cmp) (x : α) :
    (h.replaceTop cmp x).Ordered cmp := by
  induction h with
  | leaf => exact ⟨fun _ hy => absurd hy List.not_mem_nil, trivial, trivial⟩
  | node b l r ihl ihr =>
    obtain ⟨-, hl, hr⟩ := ho
    -- what lies below a node lies in one of its children
    have hall {a : α} {l r : Heap α} (hl : ∀ y ∈ l.toList, notAfter cmp y a)
        (hr : ∀ y ∈ r.toList, notAfter cmp y a) : ∀ y ∈ l.toList ++ r.toList, notAfter cmp y a :=
      fun y hy => (List.mem_append.1 hy).elim (hl y) (hr y)
    -- an ordered child is bounded by its own top, so it is enough to bound that
    have hbelow {h : Heap α} (ho : h.Ordered cmp) {a c : α} (htop : h.top? = some c)
        (hc : notAfter cmp c a) : ∀ y ∈ h.toList, notAfter cmp y a :=
      fun y hy => notAfter_trans _ _ _ (ho.notAfter_top htop y hy) hc
    have hempty {h : Heap α} (htop : h.top? = none) {a : α} : ∀ y ∈ h.toList, notAfter cmp y a := by
      rw [eq_leaf_of_top? htop]
      exact fun _ hy => absurd hy List.not_mem_nil
    unfold Heap.replaceTop
    split
    · next hcl hcr => exact ⟨hall (hempty hcl) (hempty hcr), hl, hr⟩
    · next c hcl hcr =>
      split
      · next hlt =>
        exact ⟨hall (notAfter_replaceTop (notAfter_of_lt hlt) (hl.notAfter_top hcl)) (hempty hcr),
          ihl hl, hr⟩
      · next hnlt => exact ⟨hall (hbelow hl hcl (notAfter_of_ne_lt hnlt)) (hempty hcr), hl, hr⟩
    · next c hcl hcr =>
      split
      · next hlt =>
        exact ⟨hall (hempty hcl) (notAfter_replaceTop (notAfter_of_lt hlt) (hr.notAfter_top hcr)),
          hl, ihr hr⟩
      · next hnlt => exact ⟨hall (hempty hcl) (hbelow hr hcr (notAfter_of_ne_lt hnlt)), hl, hr⟩
    · -- of two children the one with the greater top may come up; it bounds the other one then
      next c d hcl hcr =>
      split
      · next hcd =>
        split
        · next hlt =>
          exact ⟨hall (hbelow hl hcl (notAfter_of_lt hcd))
            (notAfter_replaceTop (notAfter_of_lt hlt) (hr.notAfter_top hcr)), hl, ihr hr⟩
        · next hnlt =>
          have hdx := notAfter_of_ne_lt hnlt
          exact ⟨hall (hbelow hl hcl (notAfter_trans _ _ _ (notAfter_of_lt hcd) hdx))
            (hbelow hr hcr hdx), hl, hr⟩
      · next hncd =>
        have hdc := notAfter_of_ne_lt hncd
        split
        · next hlt =>
          exact ⟨hall (notAfter_replaceTop (notAfter_of_lt hlt) (hl.notAfter_top hcl))
            (hbelow hr hcr hdc), ihl hl, hr⟩
        · next hnlt =>
          have hcx := notAfter_of_ne_lt hnlt
          exact ⟨hall (hbelow hl hcl hcx) (hbelow hr hcr (notAfter_trans _ _ _ hdc hcx)), hl, hr⟩

end Heap

/-- What holds of the heap after some items: it is in order, it counts its items, and the items
turned away do not come before those kept. None is turned away as long as there is room. -/
structure Best.Keeps (cmp : α → α → Ordering) (k : Nat) (best : Best α) (met : List α) : Prop where
  ordered : best.heap.Ordered cmp
  count_eq : best.count = best.heap.toList.length
  count_le : best.count ≤ k
  split : ∃ away, (best.heap.toList ++ away).Perm met ∧ (best.count < k → away = []) ∧
    ∀ a ∈ best.heap.toList, ∀ b ∈ away, notAfter cmp a b

/-- Before the first item, no item is the best of those met. -/
theorem Best.Keeps.none (k : Nat) : (Best.none : Best α).Keeps cmp k [] where
  ordered := trivial
  count_eq := rfl
  count_le := Nat.zero_le k
  split := ⟨[], List.Perm.refl _, fun _ => rfl, fun _ ha => absurd ha List.not_mem_nil⟩

/-- An item that comes before none of those kept may be turned away once there is no room. -/
theorem Best.Keeps.turnAway {k : Nat} {best : Best α} {met : List α} (hk : best.Keeps cmp k met)
    (hfull : ¬best.count < k) {x : α} (hx : ∀ a ∈ best.heap.toList, notAfter cmp a x) :
    best.Keeps cmp k (met ++ [x]) := by
  obtain ⟨away, hperm, -, hcross⟩ := hk.split
  refine ⟨hk.ordered, hk.count_eq, hk.count_le, x :: away, ?_, fun h => absurd h hfull, ?_⟩
  · exact List.perm_middle.trans ((List.Perm.cons x hperm).trans
      (List.perm_append_singleton x met).symm)
  · intro a ha b hb
    rcases List.mem_cons.1 hb with rfl | hb
    · exact hx a ha
    · exact hcross a ha b hb

/-- **The invariant of the heap** is kept by every item. -/
theorem Best.Keeps.offer [Std.TransCmp cmp] {k : Nat} {best : Best α} {met : List α}
    (hk : best.Keeps cmp k met) (x : α) : (best.offer cmp k x).Keeps cmp k (met ++ [x]) := by
  obtain ⟨away, hperm, hroom, hcross⟩ := hk.split
  unfold Best.offer
  by_cases hcount : best.count < k
  · -- there is room: nothing has been turned away so far, and nothing is now
    rw [if_pos hcount]
    obtain rfl := hroom hcount
    have hpush := @Heap.push_perm _ cmp x best.heap
    refine ⟨hk.ordered.push x, ?_, hcount, [], ?_, fun _ => rfl, fun _ _ b hb => ?_⟩
    · rw [hpush.length_eq, List.length_cons, hk.count_eq]
    · rw [List.append_nil] at hperm ⊢
      exact hpush.trans ((List.Perm.cons x hperm).trans (List.perm_append_singleton x met).symm)
    · exact absurd hb List.not_mem_nil
  rw [if_neg hcount]
  cases htop : best.heap.top? with
  -- an empty heap with no room is one of size zero, which turns everything away
  | none =>
    refine hk.turnAway hcount fun a ha => ?_
    rw [Heap.eq_leaf_of_top? htop] at ha
    cases ha
  | some worst =>
    have hworst := hk.ordered.notAfter_top htop
    by_cases hlt : cmp x worst = .lt
    · -- the item on top gives way; it does not come before any that stays
      rw [if_pos (by simp [hlt])]
      have hreplace := @Heap.replaceTop_perm _ cmp x _ _ htop
      refine ⟨hk.ordered.replaceTop x, ?_, hk.count_le, worst :: away, ?_,
        fun h => absurd h hcount, fun a ha b hb => ?_⟩
      · have hlength := hreplace.length_eq
        simp only [List.length_cons, Nat.add_right_cancel_iff] at hlength
        exact hk.count_eq.trans hlength.symm
      · refine List.perm_middle.trans ((hreplace.append_right away).trans ?_)
        exact (List.Perm.cons x hperm).trans (List.perm_append_singleton x met).symm
      · have hworstb : notAfter cmp worst b := by
          rcases List.mem_cons.1 hb with rfl | hb
          · exact notAfter_refl b
          · exact hcross worst (Heap.mem_of_top? htop) b hb
        rcases Heap.mem_replaceTop ha with rfl | ha
        · exact notAfter_trans _ _ _ (notAfter_of_lt hlt) hworstb
        · exact notAfter_trans _ _ _ (hworst a ha) hworstb
    · rw [if_neg (by simp [hlt])]
      exact hk.turnAway hcount fun a ha =>
        notAfter_trans _ _ _ (hworst a ha) (notAfter_of_ne_lt hlt)

/-- **The invariant of the loop.** After any number of items the heap keeps the best of all that
were met, since each single offer does (`Best.Keeps.offer`). -/
theorem Best.Keeps.foldl [Std.TransCmp cmp] {k : Nat} {best : Best α} {met : List α}
    (hk : best.Keeps cmp k met) (items : List α) :
    (items.foldl (Best.offer cmp k) best).Keeps cmp k (met ++ items) := by
  induction items generalizing best met with
  | nil => rwa [List.append_nil]
  | cons x rest ih =>
    rw [List.foldl_cons, List.append_cons]
    exact ih (hk.offer x)

/-- **What the heap leaves out**: the items that it finds, followed by the others in some order, are
an arrangement of all items, and they are the beginning of it. -/
theorem Best.exists_among_append (cmp : α → α → Ordering) [Std.TransCmp cmp] (k : Nat)
    (items : List α) : ∃ rest, (among cmp k items ++ rest).Perm items ∧
      ((among cmp k items ++ rest).Pairwise fun a b => notAfter cmp a b) ∧
      among cmp k items = (among cmp k items ++ rest).take k := by
  have hk := (@Best.Keeps.none _ cmp k).foldl items
  have hamong : among cmp k items = (items.foldl (offer cmp k) none).heap.toList.mergeSort
      (notAfter cmp) := rfl
  rw [hamong]
  generalize items.foldl (offer cmp k) none = best at hk
  obtain ⟨away, hperm, hroom, hcross⟩ := hk.split
  rw [List.nil_append] at hperm
  have hlength : (best.heap.toList.mergeSort (notAfter cmp)).length = best.count := by
    rw [List.length_mergeSort, hk.count_eq]
  refine ⟨away.mergeSort (notAfter cmp), ?_, ?_, ?_⟩
  · exact ((List.mergeSort_perm _ _).append (List.mergeSort_perm _ _)).trans hperm
  · refine List.pairwise_append.2
      ⟨pairwise_mergeSort_notAfter _, pairwise_mergeSort_notAfter _, fun a ha b hb => ?_⟩
    exact hcross a (List.mem_mergeSort.1 ha) b (List.mem_mergeSort.1 hb)
  · -- either all items were kept, or exactly `k` of them
    have hle := hk.count_le
    rcases Nat.lt_or_ge best.count k with hlt | hge
    · rw [hroom hlt, List.mergeSort_nil, List.append_nil, List.take_of_length_le (by omega)]
    · exact (List.take_left' (by omega)).symm

/-- As many items as asked for, or all. -/
theorem Best.length_among [Std.TransCmp cmp] (k : Nat) (items : List α) :
    (among cmp k items).length = min k items.length := by
  obtain ⟨rest, hperm, -, htake⟩ := exists_among_append cmp k items
  rw [htake, List.length_take, hperm.length_eq]

/-- Where items are tied, the heap finds the beginning of the sorted items up to ties. -/
theorem Best.forall₂_among_take [Std.TransCmp cmp] (k : Nat) (items : List α) :
    List.Forall₂ (fun a b => cmp a b = .eq) (among cmp k items)
      ((items.mergeSort (notAfter cmp)).take k) := by
  obtain ⟨rest, hperm, hsorted, htake⟩ := exists_among_append cmp k items
  rw [htake]
  exact List.forall₂_take k (forall₂_tied_of_perm
    (hperm.trans (List.mergeSort_perm items _).symm) hsorted (pairwise_mergeSort_notAfter items))

/-- **The heap finds the beginning of the sorted items.** -/
theorem Best.among_eq_take [Std.TransCmp cmp] {items : List α} (h : Untied cmp items) (k : Nat) :
    among cmp k items = (items.mergeSort (notAfter cmp)).take k := by
  obtain ⟨rest, hperm, hsorted, htake⟩ := exists_among_append cmp k items
  have hascending : Ascending cmp (among cmp k items ++ rest) :=
    hsorted.imp₂ (fun _ _ => lt_of_notAfter_of_ne) (h.perm hperm.symm)
  rw [mergeSort_eq_of_perm hascending hperm.symm]
  exact htake

/-- The first `k` items can be searched for: none are wanted, or the heap of them gets its block. -/
def Memory.Affords (m : Memory) (k : UInt64) : Prop :=
  k = 0 ∨ m.grants k

instance (m : Memory) (k : UInt64) : Decidable (m.Affords k) :=
  inferInstanceAs (Decidable (_ ∨ _))

/-- Only a memory with room for the heap can afford the items. -/
theorem Memory.le_room_of_affords {m : Memory} {k : UInt64} (hk : k ≠ 0) (h : m.Affords k) :
    (k + 1).toNat ≤ m.room :=
  of_decide_eq_true (Bool.and_eq_true_iff.1 (h.resolve_left hk)).2

/-- **No memory affords items beyond all blocks.** -/
theorem Memory.not_affords (m : Memory) {k : UInt64} (hk : k ≠ 0)
    (hbeyond : 9223372036854775808 ≤ (k + 1).toNat) : ¬m.Affords k := fun h =>
  absurd (Nat.lt_of_le_of_lt (le_room_of_affords hk h) m.room_lt) (Nat.not_lt.2 hbeyond)

/-- In particular no memory affords as many items as a word can count but one. All that a word can
count is another matter where sums wrap: one item more is none at all. -/
theorem Memory.not_affords_greatest (m : Memory) : ¬m.Affords 18446744073709551614 :=
  m.not_affords (by decide) (by decide)

variable {memory : Memory} {k : UInt64}

/-- **With memory for them, the first items are found.** -/
theorem topK_of_affords [Std.TransCmp cmp] (h : memory.Affords k) (items : List α) :
    topK memory cmp k items = .ok (Best.among cmp k.toNat items) := by
  unfold topK
  split_ifs with hzero hgranted
  · have hnone : Best.among cmp (0 : UInt64).toNat items = [] :=
      List.eq_nil_of_length_eq_zero ((Best.length_among _ _).trans (Nat.zero_min _))
    rw [hzero, hnone]
  · rfl
  · exact absurd (h.resolve_left hzero) hgranted

/-- **Without memory for them, nothing is found**, however few items there are. -/
theorem topK_of_not_affords (h : ¬memory.Affords k) (items : List α) :
    topK memory cmp k items = .error ⟨k⟩ := by
  rw [Memory.Affords, not_or] at h
  unfold topK
  rw [if_neg h.1, if_neg h.2]

end Paging
