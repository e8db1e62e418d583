/-
# Items are met through their rows only

Filters, sorts and heaps compare items and pass them on; they do not look at them in any other way.
So where a map of items keeps what the comparisons and conditions say, what becomes of the images
is the image of what becomes of the items: of the rows that pass a filter (`filterRows_map`), of
the sorted ones (`sortRows_map`) and of those that a heap keeps (`topKRows_map`), the order of tied
ones included.
-/
import Mathlib.Tactic.SplitIfs
import Paging.Order.TopK

namespace Paging

variable {α β : Type} {f : α → β}

namespace Heap

/-- The heap of the images of all items. -/
def map (f : α → β) : Heap α → Heap β
  | leaf => leaf
  | node a l r => node (f a) (l.map f) (r.map f)

/-- The top of a heap of images is the image of the top. -/
theorem top?_map (h : Heap α) : (h.map f).top? = h.top?.map f := by
  cases h <;> rfl

/-- The items of a heap of images are the images of its items, in the same places. -/
theorem toList_map (h : Heap α) : (h.map f).toList = h.toList.map f := by
  induction h with
  | leaf => rfl
  | node a l r ihl ihr => rw [map, toList, toList, ihl, ihr, List.map_cons, List.map_append]

variable {cmp : α → α → Ordering} {cmp' : β → β → Ordering}

/-- A function that keeps the comparison commutes with pushing, since each step down the heap is
decided by the comparison alone. -/
theorem push_map (hcmp : ∀ a b, cmp' (f a) (f b) = cmp a b) (x : α) (h : Heap α) :
    (h.map f).push cmp' (f x) = (h.push cmp x).map f := by
  induction h generalizing x with
  | leaf => rfl
  | node a l r _ ihr =>
    rw [map, push, push, hcmp, ihr, ihr]
    split_ifs <;> rfl

/-- It commutes with replacing the top, for the same reason. -/
theorem replaceTop_map (hcmp : ∀ a b, cmp' (f a) (f b) = cmp a b) (x : α) (h : Heap α) :
    (h.map f).replaceTop cmp' (f x) = (h.replaceTop cmp x).map f := by
  induction h with
  | leaf => rfl
  | node b l r ihl ihr =>
    rw [map, replaceTop, replaceTop, top?_map, top?_map, ihl, ihr]
    cases l.top? with
    | none =>
      cases r.top? with
      | none => rfl
      | some d =>
        simp only [Option.map_none, Option.map_some, hcmp]
        split_ifs <;> rfl
    | some c =>
      cases r.top? with
      | none =>
        simp only [Option.map_none, Option.map_some, hcmp]
        split_ifs <;> rfl
      | some d =>
        simp only [Option.map_some, hcmp]
        split_ifs <;> rfl

end Heap

variable {cmp : α → α → Ordering} {cmp' : β → β → Ordering}

/-- The images of the best items so far. -/
def Best.map (f : α → β) (best : Best α) : Best β :=
  ⟨best.count, best.heap.map f⟩

/-- One item offered to the best of those met: the images are kept and refused as the items are. -/
theorem Best.offer_map (hcmp : ∀ a b, cmp' (f a) (f b) = cmp a b) (k : Nat) (best : Best α)
    (x : α) : (best.map f).offer cmp' k (f x) = (best.offer cmp k x).map f := by
  have hbeaten : ((best.map f).heap.top?.any fun worst => cmp' (f x) worst == .lt) =
      best.heap.top?.any fun worst => cmp x worst == .lt := by
    rw [map, Heap.top?_map, Option.any_map]
    simp only [hcmp]
  unfold offer
  rw [hbeaten]
  simp only [map, Heap.push_map hcmp, Heap.replaceTop_map hcmp]
  split_ifs <;> rfl

/-- All items offered, by induction on the list with the heap generalised. -/
theorem Best.foldl_offer_map (hcmp : ∀ a b, cmp' (f a) (f b) = cmp a b) (k : Nat)
    (items : List α) (best : Best α) : (items.map f).foldl (Best.offer cmp' k) (best.map f) =
      (items.foldl (Best.offer cmp k) best).map f := by
  induction items generalizing best with
  | nil => rfl
  | cons x rest ih => rw [List.map_cons, List.foldl_cons, List.foldl_cons, offer_map hcmp, ih]

/-- **A heap keeps the images of the items that it would keep.** -/
theorem Best.among_map (hcmp : ∀ a b, cmp' (f a) (f b) = cmp a b) (k : Nat) (items : List α) :
    among cmp' k (items.map f) = (among cmp k items).map f := by
  have hkept : (items.map f).foldl (offer cmp' k) none = (items.foldl (offer cmp k) none).map f :=
    foldl_offer_map hcmp k items none
  unfold among
  rw [hkept, map, Heap.toList_map]
  exact (List.map_mergeSort fun a _ b _ => by rw [hcmp]).symm

/-- The memory for the heap does not depend on the items. -/
theorem topK_map (memory : Memory) (hcmp : ∀ a b, cmp' (f a) (f b) = cmp a b) (k : UInt64)
    (items : List α) :
    topK memory cmp' k (items.map f) = (topK memory cmp k items).map (List.map f) := by
  unfold topK
  rw [Best.among_map hcmp]
  split_ifs <;> rfl

variable {read : α → Row} {read' : β → Row}

/-- So do the first items in the order of rows. -/
theorem topKRows_map (memory : Memory) (hread : ∀ a, read' (f a) = read a) (order : OrderBy)
    (k : UInt64) (items : List α) : topKRows memory read' order k (items.map f) =
      (topKRows memory read order k items).map (List.map f) :=
  topK_map memory (fun a b => by rw [hread, hread]) k items

/-- Rows whose fields read the same are sorted the same way. -/
theorem sortRows_map (hread : ∀ a, read' (f a) = read a) (order : OrderBy) (items : List α) :
    sortRows read' order (items.map f) = (sortRows read order items).map f :=
  (List.map_mergeSort fun a _ b _ => by rw [hread, hread]).symm

/-- Rows whose fields read the same pass the same predicates. -/
theorem filterRows_map (hread : ∀ a, read' (f a) = read a) (predicate : Predicate)
    (items : List α) :
    filterRows read' predicate (items.map f) = (filterRows read predicate items).map f := by
  unfold filterRows
  rw [List.filter_map]
  simp only [Function.comp_def, hread]

end Paging
