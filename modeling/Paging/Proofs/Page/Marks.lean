/-
# The ends of a page

A page names the ends of its rows in two ways: by the cursors of the first and of the last row, and
by the greatest and the least freshness stamp. Both stamps are found in one pass that keeps a mark
and looks at one stamp after the other, and both are judged in the same way, the least one in the
order that is read backwards (`FirstGreatest`): everything before the mark is strictly below it, and
nothing after it is above. So the mark is the stamp of the first row among those that are tied for
it, and rows in another order have a mark that is tied with it. Stamps may be values of any types,
since the order of all values is total and transitive. Main statement: `ofRows_ends`.
-/
import Mathlib.Data.List.Induction
import Paging.Page
import Paging.Proofs.Collation

namespace Paging

section Greatest

variable {α : Type} {order : α → α → Ordering} {m v : α} {l : List α}

/-- The first of the greatest items of a list: the items before it are below it, and those after it
are not above it. -/
def FirstGreatest (order : α → α → Ordering) (l : List α) (m : α) : Prop :=
  ∃ before after, l = before ++ m :: after ∧ (∀ u ∈ before, order u m = .lt) ∧
    ∀ u ∈ after, order u m ≠ .gt

/-- The greater of a mark and one more item; the mark wins a tie. -/
def raise (order : α → α → Ordering) (mark : Option α) (v : α) : Option α :=
  match mark with
  | some m => if order m v = .lt then some v else some m
  | none => some v

namespace FirstGreatest

/-- The first of the greatest is one of the list. -/
theorem mem (h : FirstGreatest order l m) : m ∈ l := by
  obtain ⟨before, after, rfl, -, -⟩ := h
  exact List.mem_append_right _ List.mem_cons_self

variable [Std.TransCmp order]

/-- No item is above it. -/
theorem isLE_of_mem (h : FirstGreatest order l m) (hv : v ∈ l) : (order v m).isLE := by
  obtain ⟨before, after, rfl, hbefore, hafter⟩ := h
  rcases List.mem_append.1 hv with hv | hv
  · rw [hbefore v hv]
    rfl
  · rcases List.mem_cons.1 hv with rfl | hv
    · exact Std.ReflCmp.isLE_rfl
    · exact Ordering.isLE_iff_ne_gt.2 (hafter v hv)

/-- A greater item at the end takes its place. -/
theorem append_of_lt (h : FirstGreatest order l m) (hv : order m v = .lt) :
    FirstGreatest order (l ++ [v]) v :=
  ⟨l, [], rfl, fun _ hu => Std.TransCmp.lt_of_isLE_of_lt (h.isLE_of_mem hu) hv,
    fun _ hu => absurd hu List.not_mem_nil⟩

omit [Std.TransCmp order] in
/-- An item at the end that is not greater leaves it in place. -/
theorem append_of_not_lt [Std.OrientedCmp order] (h : FirstGreatest order l m)
    (hv : order m v ≠ .lt) : FirstGreatest order (l ++ [v]) m := by
  obtain ⟨before, after, rfl, hbefore, hafter⟩ := h
  refine ⟨before, after ++ [v], by rw [List.append_assoc, List.cons_append], hbefore, ?_⟩
  rw [List.forall_mem_append, List.forall_mem_singleton]
  exact ⟨hafter, fun hgt => hv (Std.OrientedCmp.gt_iff_lt.1 hgt)⟩

/-- Lists of the same items have first greatest items that are tied. -/
theorem tied_of_perm {l' : List α} {m' : α} (h : FirstGreatest order l m)
    (h' : FirstGreatest order l' m') (hperm : l.Perm l') : order m m' = .eq :=
  Std.OrientedCmp.isLE_antisymm (h'.isLE_of_mem (hperm.subset h.mem))
    (h.isLE_of_mem (hperm.symm.subset h'.mem))

end FirstGreatest

/-- **One pass finds the first greatest item**, if there is any item. -/
theorem foldl_raise (order : α → α → Ordering) [Std.TransCmp order] (l : List α) :
    (l.foldl (raise order) none = none ∧ l = []) ∨
      ∃ m, l.foldl (raise order) none = some m ∧ FirstGreatest order l m := by
  induction l using List.reverseRecOn with
  | nil => exact .inl ⟨rfl, rfl⟩
  | append_singleton l v ih =>
    right
    rw [List.foldl_append, List.foldl_cons, List.foldl_nil]
    rcases ih with ⟨hnone, rfl⟩ | ⟨m, hsome, hm⟩
    · rw [hnone]
      exact ⟨v, rfl, [], [], rfl, fun _ hu => absurd hu List.not_mem_nil,
        fun _ hu => absurd hu List.not_mem_nil⟩
    · rw [hsome]
      by_cases hlt : order m v = .lt
      · exact ⟨v, if_pos hlt, hm.append_of_lt hlt⟩
      · exact ⟨m, if_neg hlt, hm.append_of_not_lt hlt⟩

end Greatest

namespace Page

/-- The later of two freshness values is the one that the collation puts last, the first of the two
where they tie. -/
theorem laterMark_eq : laterMark = raise Value.collate := by
  funext mark stamp
  cases mark <;> rfl

/-- The least stamp is the greatest one in the order that is read backwards. -/
theorem earlierMark_eq : earlierMark = raise fun a b => b.collate a := by
  funext mark stamp
  cases mark with
  | none => rfl
  | some m =>
    have hside : m.collate stamp = .gt ↔ stamp.collate m = .lt := Std.OrientedCmp.gt_iff_lt
    simp only [earlierMark, raise, hside]

/-- A mark of some rows in an order of stamps. There is none only if no row has a stamp. No stamp is
above it, and it is the stamp of a row before which no stamp is tied with it. -/
structure IsMark (order : Value → Value → Ordering) (field : String) (rows : List Document)
    (mark : Option Value) : Prop where
  absent : mark = none ↔ ∀ d ∈ rows, d.value field = none
  bound : ∀ m, mark = some m → ∀ d ∈ rows, ∀ v, d.value field = some v → order v m ≠ .gt
  first : ∀ m, mark = some m → ∃ before d after, rows = before ++ d :: after ∧
    d.value field = some m ∧ ∀ e ∈ before, ∀ v, e.value field = some v → order v m ≠ .eq

/-- The first greatest stamp is the mark of the rows. -/
theorem isMark_foldl (order : Value → Value → Ordering) [Std.TransCmp order] (field : String)
    (rows : List Document) :
    IsMark order field rows ((rows.filterMap (·.value field)).foldl (raise order) none) := by
  rcases foldl_raise order (rows.filterMap (·.value field)) with ⟨hnone, hempty⟩ | ⟨m, hsome, hm⟩
  · rw [hnone]
    exact ⟨⟨fun _ => List.filterMap_eq_nil_iff.1 hempty, fun _ => rfl⟩, fun _ h => (by cases h),
      fun _ h => (by cases h)⟩
  · rw [hsome]
    have hbound : ∀ d ∈ rows, ∀ v, d.value field = some v → order v m ≠ .gt := fun d hd v hv =>
      Ordering.isLE_iff_ne_gt.1 (hm.isLE_of_mem (List.mem_filterMap.2 ⟨d, hd, hv⟩))
    obtain ⟨before, after, hstamps, hbefore, -⟩ := hm
    obtain ⟨early, late, rfl, rfl, hlate⟩ := List.filterMap_eq_append_iff.1 hstamps
    obtain ⟨blank, d, rest, rfl, hblank, hd, -⟩ := List.filterMap_eq_cons_iff.1 hlate
    refine ⟨⟨nofun, fun hall => ?_⟩, fun _ h => Option.some.inj h ▸ hbound, ?_⟩
    · have hmissing := hall d (List.mem_append_right _ (List.mem_append_right _ List.mem_cons_self))
      rw [hd] at hmissing
      cases hmissing
    · rintro _ ⟨⟩
      -- rows without a stamp between two stamps belong to the rows before
      refine ⟨early ++ blank, d, rest, (List.append_assoc _ _ _).symm, hd, ?_⟩
      rw [List.forall_mem_append]
      constructor
      · intro e he v hv heq
        rw [hbefore v (List.mem_filterMap.2 ⟨e, he, hv⟩)] at heq
        cases heq
      · intro e he v hv
        rw [hblank e he] at hv
        cases hv

/-- The marks of the same stamps in another order are tied, if items that are tied in the order are
tied as values. -/
theorem foldl_raise_tied {order : Value → Value → Ordering} [Std.TransCmp order]
    (htied : ∀ m m', order m m' = .eq → m.collate m' = .eq) {stamps stamps' : List Value}
    (h : stamps.Perm stamps') :
    Value.collateNullable (stamps.foldl (raise order) none) (stamps'.foldl (raise order) none) =
      .eq := by
  rcases foldl_raise order stamps with ⟨-, rfl⟩ | ⟨m, hsome, hm⟩
  · obtain rfl := h.nil_eq
    rfl
  · rcases foldl_raise order stamps' with ⟨-, rfl⟩ | ⟨m', hsome', hm'⟩
    · obtain rfl := h.eq_nil
      exact absurd hm.mem List.not_mem_nil
    · rw [hsome, hsome']
      exact htied m m' (hm.tied_of_perm hm' h)

/-- **A page is its rows and their ends.** The rows are kept as they are. The cursors are those of
the first and of the last row, and there are none only if there are no rows. The freshest mark is
the stamp of the first row whose stamp no other is above, the stalest one that of the first row
whose stamp no other is below, and there are none only if no row has a stamp. The same rows in
another order have marks that are tied with them. -/
theorem ofRows_ends (c : Catalog) (rows : List Document) :
    (ofRows rows c).data = rows ∧
    ((∀ d rest, rows = d :: rest → (ofRows rows c).firstCursor = some (Cursor.capture d c)) ∧
      (∀ init d, rows = init ++ [d] → (ofRows rows c).lastCursor = some (Cursor.capture d c)) ∧
      ((ofRows rows c).firstCursor = none ↔ rows = []) ∧
      ((ofRows rows c).lastCursor = none ↔ rows = [])) ∧
    (IsMark Value.collate c.freshnessField rows (ofRows rows c).freshest ∧
      IsMark (fun a b => b.collate a) c.freshnessField rows (ofRows rows c).stalest) ∧
    ∀ rows', rows.Perm rows' →
      Value.collateNullable (ofRows rows c).freshest (ofRows rows' c).freshest = .eq ∧
      Value.collateNullable (ofRows rows c).stalest (ofRows rows' c).stalest = .eq := by
  refine ⟨rfl, ⟨?_, ?_, ?_, ?_⟩, ⟨?_, ?_⟩, fun rows' h => ?_⟩
  · rintro d rest rfl
    rfl
  · rintro init d rfl
    show (init ++ [d]).getLast?.map _ = _
    rw [List.getLast?_concat, Option.map_some]
  · exact Option.map_eq_none_iff.trans List.head?_eq_none_iff
  · exact Option.map_eq_none_iff.trans List.getLast?_eq_none_iff
  · -- both marks are folds that raise, along the collation and against it
    show IsMark _ _ _ (List.foldl laterMark _ _)
    rw [laterMark_eq]
    exact isMark_foldl Value.collate c.freshnessField rows
  · show IsMark _ _ _ (List.foldl earlierMark _ _)
    rw [earlierMark_eq]
    exact isMark_foldl (fun a b => b.collate a) c.freshnessField rows
  · have hstamps := h.filterMap (·.value c.freshnessField)
    simp only [ofRows, laterMark_eq, earlierMark_eq]
    exact ⟨foldl_raise_tied (fun _ _ heq => heq) hstamps,
      foldl_raise_tied (fun _ _ heq => Std.OrientedCmp.eq_symm heq) hstamps⟩

/-- An integer and the equal floating-point number are tied, so the first of them is the mark, and
the rows read backwards have the other one. -/
theorem ofRows_ends_events :
    let row (id : Nat) (stamp : Option Value) : Document := ⟨.ofNat id, .ofList [("at", stamp)]⟩
    let c : Catalog := ⟨"events", { Config.standard with updatedField := "at" }, [], []⟩
    let rows := [row 1 none, row 2 (some (.int 3)), row 3 (some (.float ⟨0x4008000000000000⟩))]
    (ofRows rows c).freshest = some (.int 3) ∧
      (ofRows rows.reverse c).freshest = some (.float ⟨0x4008000000000000⟩) ∧
      (ofRows rows c).firstCursor = some (Cursor.capture (row 1 none) c) ∧
      rows.Perm rows.reverse ∧
      Value.collateNullable (ofRows rows c).freshest (ofRows rows.reverse c).freshest = .eq := by
  intro row c rows
  obtain ⟨-, ⟨hfirst, -⟩, -, hperm⟩ := ofRows_ends c rows
  exact ⟨by decide +kernel, by decide +kernel, hfirst _ _ rfl, (List.reverse_perm rows).symm,
    (hperm _ (List.reverse_perm rows).symm).1⟩

end Page
end Paging
