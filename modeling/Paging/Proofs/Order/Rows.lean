/-
# Rows are ordered totally

The comparison of rows puts the orders of single names one after the other, so it is total and
transitive because they are. Turning every direction around exchanges the sides
(`compareRows_flipped`). With the id among the names no two documents are tied
(`id_eq_of_compareRows`), so the documents of a store have one arrangement.

`compareTuples` is the same order on lists of values that need not come from rows, such as those
that a cursor carries.
-/
import Paging.Proofs.Collation
import Paging.Proofs.Order.TopK

namespace Paging

/-- The lexicographic order of lists of values, each pair under its direction. -/
def compareTuples : List SortDirection → List (Option Value) → List (Option Value) → Ordering
  | d :: ds, a :: as, b :: bs => (Value.collateDirected d a b).then (compareTuples ds as bs)
  | _, _, _ => .eq

/-- Rows are compared by the lists of their values. -/
theorem compareRows_eq_compareTuples (order : OrderBy) (a b : Row) :
    compareRows order a b = compareTuples (order.map (·.direction))
      (order.map fun item => a item.field) (order.map fun item => b item.field) := by
  induction order with
  | nil => rfl
  | cons item rest ih => exact congrArg (Ordering.then _) ih

/-- Exchanging the tuples turns the outcome around. -/
theorem compareTuples_swap (ds : List SortDirection) (as bs : List (Option Value)) :
    compareTuples ds as bs = (compareTuples ds bs as).swap := by
  induction ds generalizing as bs with
  | nil => rfl
  | cons d ds ih =>
    cases as with
    | nil => cases bs <;> rfl
    | cons a as =>
      cases bs with
      | nil => rfl
      | cons b bs =>
        rw [compareTuples, compareTuples, Ordering.swap_then, ← ih]
        exact congrArg (Ordering.then · _) Std.OrientedCmp.eq_swap

/-- The order of items by one name of their rows. -/
theorem transCmp_collateDirected (d : SortDirection) (field : String) :
    Std.TransCmp fun a b : Row => Value.collateDirected d (a field) (b field) where
  eq_swap := Std.OrientedCmp.eq_swap
  isLE_trans := Std.TransCmp.isLE_trans

/-- **The order of rows is total and transitive.** -/
instance transCmp_compareRows (order : OrderBy) : Std.TransCmp (compareRows order) := by
  induction order with
  | nil =>
    exact {
      eq_swap := rfl
      isLE_trans := fun _ _ => rfl }
  | cons item rest ih =>
    have := transCmp_collateDirected item.direction item.field
    exact inferInstanceAs (Std.TransCmp (compareLex
      (fun a b : Row => Value.collateDirected item.direction (a item.field) (b item.field))
      (compareRows rest)))

/-- The order of items by their rows. -/
abbrev compareBy {α : Type} (read : α → Row) (order : OrderBy) (a b : α) : Ordering :=
  compareRows order (read a) (read b)

instance {α : Type} (read : α → Row) (order : OrderBy) : Std.TransCmp (compareBy read order) where
  eq_swap := (transCmp_compareRows order).eq_swap
  isLE_trans := (transCmp_compareRows order).isLE_trans

/-- **The first rows of an order**, where no two rows are tied: keeping the best ones in a heap gives
what sorting all of them gives. -/
theorem topKRows_eq_take {α : Type} {memory : Memory} {read : α → Row} {order : OrderBy}
    {items : List α} (h : Untied (compareBy read order) items) {k : UInt64}
    (hroom : memory.Affords k) :
    topKRows memory read order k items = .ok (limitRows (some k) (sortRows read order items)) :=
  (topK_of_affords hroom items).trans (congrArg _ (Best.among_eq_take h k.toNat))

/-- An order with every direction turned around. -/
def flipped (order : OrderBy) : OrderBy :=
  order.map fun item => ⟨item.field, item.direction.reversed⟩

/-- **Turning every direction around exchanges the sides.** -/
theorem compareRows_flipped (order : OrderBy) (a b : Row) :
    compareRows (flipped order) a b = compareRows order b a := by
  induction order with
  | nil => rfl
  | cons item rest ih =>
    rw [flipped, List.map_cons, compareRows, compareRows, Value.collateDirected_reversed]
    exact congrArg (Ordering.then _) ih

/-- Rows that compare equal are equal under every name of the order. -/
theorem collateDirected_of_compareRows {order : OrderBy} {a b : Row}
    (h : compareRows order a b = .eq) {item : OrderItem} (hitem : item ∈ order) :
    Value.collateDirected item.direction (a item.field) (b item.field) = .eq := by
  induction order with
  | nil => exact absurd hitem List.not_mem_nil
  | cons first rest ih =>
    rw [compareRows, Ordering.then_eq_eq] at h
    rcases List.mem_cons.1 hitem with rfl | hrest
    · exact h.1
    · exact ih h.2 hrest

/-- Two identifiers that tie in either direction are the same identifier. -/
theorem id_eq_of_collateDirected {d : SortDirection} {i j : EntityId}
    (h : Value.collateDirected d (some (.entityId i)) (some (.entityId j)) = .eq) : i = j := by
  have heq : compare i j = .eq := by
    cases d with
    | asc => exact h
    | desc =>
      rw [Value.collateDirected_desc] at h
      exact Std.OrientedCmp.eq_symm h
  exact Std.LawfulEqOrd.eq_of_compare heq

/-- **With the id among the names no two documents are tied.** -/
theorem id_eq_of_compareRows {order : OrderBy} {idField : String}
    (hid : ∃ item ∈ order, item.field = idField) {d e : Document}
    (h : compareRows order (d.row idField) (e.row idField) = .eq) : d.id = e.id := by
  obtain ⟨item, hitem, rfl⟩ := hid
  have heq := collateDirected_of_compareRows h hitem
  rw [Document.row_idField, Document.row_idField] at heq
  exact id_eq_of_collateDirected heq

/-- So no two documents of a list are tied if no two have one id. -/
theorem untied_of_pairwise_id {order : OrderBy} {idField : String}
    (hid : ∃ item ∈ order, item.field = idField) {docs : List Document}
    (h : docs.Pairwise fun d e => d.id ≠ e.id) :
    Untied (compareBy (Document.row · idField) order) docs :=
  h.imp fun hne heq => hne (id_eq_of_compareRows hid heq)

end Paging
