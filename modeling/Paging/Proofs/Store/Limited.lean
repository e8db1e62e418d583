/-
# A limited answer is the beginning of the unlimited one

With a limit, rows are kept in a heap instead of being sorted. As many come out as are asked for, in
order, and at each place stands a row that is tied with the one that sorting would put there. Where
no two rows are tied, it is that very row (`FirstRows`). The id ties no two documents of a store, so
a limit cuts the answer of a store and changes nothing else.

Sorting works with the rows at hand, while the heap wants memory for the limit, however few rows
there are. So the two agree exactly if there is that memory (`limited_begins_unlimited`), and there
are limits for which no machine has it (`no_memory_for_greatest`).
-/
import Paging.Proofs.Store

namespace Paging
namespace Store

variable {s : Store}

/-- **A limit cuts the answer of a store**, with memory for as many rows. -/
theorem Filed.fetch_limited (hs : s.Filed) {selection : Selection}
    (hid : ∃ item ∈ selection.orderBy, item.field = s.idField) {memory : Memory} {k : UInt64}
    (hroom : memory.Affords k) :
    s.fetch memory { selection with limit := some k } =
      (s.fetch memory { selection with limit := none }).map (limitRows (some k)) := by
  have huntied : Untied (compareBy s.read selection.orderBy) (s.matching selection.predicate) :=
    (hs.untied hid).sublist List.filter_sublist
  rw [fetch_of_limit rfl, topKRows_eq_take huntied hroom]
  unfold fetch limitRows projectRows
  cases selection.fields with
  | none => rfl
  | some names => exact congrArg Except.ok List.map_take

end Store

/-- What the first `k` items in the order of their rows are: as many as asked for, or all, of the
given items, in order, each at the place of an item that compares equal to it once all are sorted.
If no two of the given items compare equal, they are the beginning of the sorted items. -/
structure FirstRows {α : Type} (read : α → Row) (order : OrderBy) (k : UInt64)
    (items best : List α) : Prop where
  length : best.length = min k.toNat items.length
  subperm : best.Subperm items
  ascending : best.Pairwise fun a b => compareRows order (read a) (read b) ≠ .gt
  tied : List.Forall₂ (fun a b => compareRows order (read a) (read b) = .eq) best
    (limitRows (some k) (sortRows read order items))
  eq_of_untied : (items.Pairwise fun a b => compareRows order (read a) (read b) ≠ .eq) →
    best = limitRows (some k) (sortRows read order items)

/-- What a heap keeps are the first items. -/
theorem firstRows_among {α : Type} (read : α → Row) (order : OrderBy) (k : UInt64)
    (items : List α) :
    FirstRows read order k items (Best.among (compareBy read order) k.toNat items) := by
  obtain ⟨rest, hperm, hsorted, -⟩ :=
    Best.exists_among_append (compareBy read order) k.toNat items
  exact {
    length := Best.length_among k.toNat items
    subperm := (List.sublist_append_left _ rest).subperm.trans hperm.subperm
    ascending := (List.pairwise_append.1 hsorted).1.imp fun hab => bne_iff_ne.1 hab
    tied := Best.forall₂_among_take k.toNat items
    eq_of_untied := fun huntied => Best.among_eq_take huntied k.toNat }

/-- **Keeping the best rows agrees with sorting all of them, if there is memory for as many.** Take
any items, read as rows, any order and any number. If no items are asked for or the heap gets its
block, the first items are found; so the answer of a store to a selection with a limit is the
beginning of the answer without it, whenever the id is among the names of the order. If the heap
gets no block, neither is the case, although sorting and cutting would do. -/
theorem limited_begins_unlimited {α : Type} (memory : Memory) (read : α → Row) (order : OrderBy)
    (k : UInt64) (items : List α) :
    (memory.Affords k → ∃ best, topKRows memory read order k items = .ok best ∧
      FirstRows read order k items best) ∧
    (¬memory.Affords k → topKRows memory read order k items = .error ⟨k⟩) ∧
    ∀ (s : Store) (selection : Selection), s.Filed →
      (∃ item ∈ selection.orderBy, item.field = s.idField) →
        ∃ rows, s.fetch memory { selection with limit := none } = .ok rows ∧
          (memory.Affords k →
            s.fetch memory { selection with limit := some k } = .ok (limitRows (some k) rows)) ∧
          (¬memory.Affords k →
            s.fetch memory { selection with limit := some k } = .error ⟨k⟩) := by
  refine ⟨fun hroom => ?_, fun hroom => topK_of_not_affords hroom items,
    fun s selection hs hid => ?_⟩
  · exact ⟨_, topK_of_affords hroom items, firstRows_among read order k items⟩
  · exact ⟨_, rfl, fun hroom => hs.fetch_limited hid hroom,
      fun hroom => Store.fetch_of_not_affords hroom rfl⟩

/-- The oldest two of three people, of whom two are of one age, and the older ones in a store; one
person more than a small memory has a block for. -/
theorem limited_begins_unlimited_people :
    let person (id : Nat) (age : Int64) : Document :=
      ⟨.ofNat id, .ofList [("age", some (.int age))]⟩
    let items := [person 3 40, person 1 30, person 2 40]
    let read := (Document.row · "id")
    let s := (Store.empty "people" "id").setAll items
    let oldest : OrderBy := [⟨"age", .desc⟩]
    let order : OrderBy := oldest ++ [⟨"id", .asc⟩]
    let selection : Selection := ⟨.greaterThan "age" (.int 20), order, none, some ["age"]⟩
    let small : Memory := ⟨3, by decide, true⟩
    (∃ best, topKRows small read oldest 2 items = .ok best ∧ FirstRows read oldest 2 items best) ∧
    (∃ rows, s.fetch small { selection with limit := none } = .ok rows ∧
      s.fetch small { selection with limit := some 2 } = .ok (limitRows (some 2) rows)) ∧
    topKRows small read oldest 3 items = .error ⟨3⟩ ∧
    s.fetch small { selection with limit := some 3 } = .error ⟨3⟩ := by
  intro person items read s oldest order selection small
  have htwo : small.Affords 2 := by decide
  have hthree : ¬small.Affords 3 := by decide
  have hfiled : s.Filed := (Store.filed_empty "people" "id").setAll items
  have hid : ∃ item ∈ order, item.field = s.idField := ⟨⟨"id", .asc⟩, by decide, rfl⟩
  obtain ⟨hfound, -, hanswered⟩ := limited_begins_unlimited small read oldest 2 items
  obtain ⟨-, hmissed, hrefused⟩ := limited_begins_unlimited small read oldest 3 items
  obtain ⟨rows, hrows, hcut, -⟩ := hanswered s selection hfiled hid
  obtain ⟨-, -, -, hended⟩ := hrefused s selection hfiled hid
  exact ⟨hfound htwo, ⟨rows, hrows, hcut htwo⟩, hmissed hthree, hended hthree⟩

/-- **The first of no items cannot be searched for**, in any memory, if as many are asked for as a
word can count but one. Sorted and cut, no items are no items. -/
theorem no_memory_for_greatest :
    (∀ memory : Memory, topKRows memory (Document.row · "id") [] 18446744073709551614 [] =
      .error ⟨18446744073709551614⟩) ∧
    limitRows (some 18446744073709551614) (sortRows (Document.row · "id") [] []) = [] := by
  refine ⟨fun memory => topK_of_not_affords memory.not_affords_greatest [], ?_⟩
  rw [sortRows, List.mergeSort_nil]
  exact List.take_nil

end Paging
