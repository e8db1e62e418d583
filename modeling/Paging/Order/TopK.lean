/-
# The first rows of an order

The first `k` of many items are found without sorting all of them: a heap holds the best `k` items
met so far, the worst of them on top. An item enters only when it comes strictly before that worst
one, which it then replaces. At the end the heap is emptied and its items are sorted.

A heap is a binary tree in which no item comes after the one above it. `push` puts items into the
left and the right branch in turn, so that the tree stays balanced, and `replaceTop` lets a new
item sink from the top.

The heap gets its block of memory before any item is met, as large as it may ever become, however
few items there are. A machine that has no such block ends the program. Other lists grow with the
items at hand, and memory for these is taken for granted.
-/
import Paging.Order.Rows

namespace Paging

/-- A binary tree of items; as a heap, no item comes after the one above it. -/
inductive Heap (α : Type) where
  | leaf
  | node (top : α) (left right : Heap α)
  deriving Repr

namespace Heap

variable {α : Type}

/-- The item on top. -/
def top? : Heap α → Option α
  | leaf => none
  | node a _ _ => some a

/-- All items, each above those of its branches. -/
def toList : Heap α → List α
  | leaf => []
  | node a l r => a :: (l.toList ++ r.toList)

/-- The heap with one more item. -/
def push (cmp : α → α → Ordering) (x : α) : Heap α → Heap α
  | leaf => node x leaf leaf
  | node a l r => if cmp a x = .lt then node x (push cmp a r) l else node a (push cmp x r) l

/-- The heap with its top replaced by an item, which sinks until none below comes after it. -/
def replaceTop (cmp : α → α → Ordering) (x : α) : Heap α → Heap α
  | leaf => node x leaf leaf
  | node _ l r =>
    match l.top?, r.top? with
    | none, none => node x l r
    | some a, none => if cmp x a = .lt then node a (replaceTop cmp x l) r else node x l r
    | none, some b => if cmp x b = .lt then node b l (replaceTop cmp x r) else node x l r
    | some a, some b =>
      if cmp a b = .lt then
        if cmp x b = .lt then node b l (replaceTop cmp x r) else node x l r
      else if cmp x a = .lt then node a (replaceTop cmp x l) r
      else node x l r

end Heap

/-- A heap of the best items so far and the number of items in it. -/
structure Best (α : Type) where
  count : Nat
  heap : Heap α

namespace Best

/-- No items yet. -/
def none {α : Type} : Best α := ⟨0, .leaf⟩

/-- One more item, when there is room for it or it comes strictly before the worst one kept. -/
def offer {α : Type} (cmp : α → α → Ordering) (k : Nat) (best : Best α) (x : α) : Best α :=
  if best.count < k then ⟨best.count + 1, best.heap.push cmp x⟩
  else if best.heap.top?.any (fun worst => cmp x worst == .lt) then
    ⟨best.count, best.heap.replaceTop cmp x⟩
  else best

/-- The best `k` of some items, sorted. -/
def among {α : Type} (cmp : α → α → Ordering) (k : Nat) (items : List α) : List α :=
  (items.foldl (offer cmp k) none).heap.toList.mergeSort fun a b => cmp a b != .gt

end Best

/-- The memory of a machine, as a program meets it that asks for a block of many items at once. -/
structure Memory where
  /-- The most items that a block can have. -/
  room : Nat
  /-- The bytes of a block are counted by a signed word of 64 bits, and an item takes at least
  one. -/
  room_lt : room < 9223372036854775808
  /-- Whether a sum that a word cannot hold starts again at zero. Otherwise it ends the program. -/
  wraps : Bool
  deriving DecidableEq, Repr

namespace Memory

/-- Whether a heap of the best `k` items gets its block, which has room for one item more. -/
def grants (m : Memory) (k : UInt64) : Bool :=
  (m.wraps || k + 1 != 0) && (k + 1).toNat ≤ m.room

/-- A memory with blocks as large as they can be. -/
def utmost : Memory := ⟨9223372036854775807, by decide, false⟩

end Memory

/-- What ends a program that wants more items at once than the memory has a block for. -/
structure NoRoom where
  /-- The number of items that were wanted. -/
  wanted : UInt64
  deriving DecidableEq, Repr

/-- The first `k` items in the order of `cmp`, sorted. -/
def topK {α : Type} (memory : Memory) (cmp : α → α → Ordering) (k : UInt64) (items : List α) :
    Except NoRoom (List α) :=
  if k = 0 then .ok []
  else if memory.grants k then .ok (Best.among cmp k.toNat items)
  else .error ⟨k⟩

/-- The first `k` items in the order of their rows, sorted. -/
def topKRows {α : Type} (memory : Memory) (read : α → Row) (order : OrderBy) (k : UInt64)
    (items : List α) : Except NoRoom (List α) :=
  topK memory (fun a b => compareRows order (read a) (read b)) k items

/-- The three least of some numbers; no number at all; more than there is room for. -/
example : Best.among (compare : Nat → Nat → Ordering) 3 [5, 2, 9, 1, 7, 2, 8] = [1, 2, 2] ∧
    topK .utmost (compare : Nat → Nat → Ordering) 0 [5, 2] = .ok [] ∧
    topK .utmost (compare : Nat → Nat → Ordering) 18446744073709551614 [] =
      .error ⟨18446744073709551614⟩ := by
  refine ⟨?_, rfl, rfl⟩
  cbv

end Paging
