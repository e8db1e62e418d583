/-
# Keyset predicates are exact

A keyset predicate is built from comparisons of single names, one alternative for each key. Where
the values of a row and of a cursor can be compared at all, each comparison reads the order of the
sort at its key (`eval_beyond`, `eval_level`), so the alternatives together read the order of the
tuples (`alternatives_exact`): the first key on which they differ decides, a missing value being
the lowest. A sort that was checked against a catalog asks little for that: the cursor carries its
keys, and the values at each key are of one family of types (`fits_of_checked`).
-/
import Paging.Proofs.Sort

namespace Paging

namespace Value

/-- Two values, either of which may be missing, are of one family of types if both are there. -/
def Comparable : Option Value → Option Value → Prop
  | some v, some w => v.type.accepts w.type
  | _, _ => True

instance : (a b : Option Value) → Decidable (Comparable a b)
  | some v, some w => inferInstanceAs (Decidable (v.type.accepts w.type = true))
  | none, _ => .isTrue trivial
  | some _, none => .isTrue trivial

/-- Values of one family stand in one order, for filters and for sorting. -/
theorem Comparable.compareTyped {v w : Value} (h : Comparable (some v) (some w)) :
    w.compareTyped v = some (v.collate w).swap := by
  have hrank : w.rank = v.rank := ((accepts_iff_rank v w).1 h).symm
  have hswap : w.collate v = (v.collate w).swap := Std.OrientedCmp.eq_swap
  rw [compareTyped_of_rank hrank, hswap]

end Value

/-- How the tuple of a cursor compares with the tuple of a row on the side. -/
def Side.wanted : Side → Ordering
  | after => .lt
  | before => .gt

/-- A row is strictly on a side of a cursor: the tuple of the cursor comes before that of the row,
or the other way around. -/
def SortSpec.OnSide (s : SortSpec) (idField : String) (side : Side) (cursor : Cursor) (row : Row) :
    Prop :=
  match side with
  | .after => compareTuples (s.directions idField) (s.cursorTuple idField cursor)
      (s.rowTuple idField row) = .lt
  | .before => compareTuples (s.directions idField) (s.rowTuple idField row)
      (s.cursorTuple idField cursor) = .lt

/-- A row is on a side of a cursor by the order of their tuples. -/
theorem SortSpec.onSide_iff (s : SortSpec) (idField : String) (side : Side) (cursor : Cursor)
    (row : Row) : s.OnSide idField side cursor row ↔ compareTuples (s.directions idField)
      (s.cursorTuple idField cursor) (s.rowTuple idField row) = side.wanted := by
  cases side with
  | after => exact Iff.rfl
  | before =>
    rw [Side.wanted, compareTuples_swap, Ordering.swap_eq_gt]
    exact Iff.rfl

namespace Predicate

variable {row : Row} {field : String} {v : Value}

/-- A comparison of a name with a value reads the order of values. -/
theorem eval_fieldIs (h : Value.Comparable (some v) (row field)) (comparison : Comparison) :
    (fieldIs comparison field v).eval row =
      (row field).any fun w => comparison.holds (v.collate w).swap := by
  simp only [fieldIs, eval, outcome?, Expr.value]
  cases hrow : row field with
  | none => rfl
  | some w =>
    rw [hrow] at h
    simp only [h.compareTyped, Option.any_some]

/-- Being above a value. -/
theorem eval_greaterThan (h : Value.Comparable (some v) (row field)) :
    (greaterThan field v).eval row = (Value.collateNullable (some v) (row field) == .lt) := by
  rw [greaterThan, eval_fieldIs h]
  cases row field with
  | none => rfl
  | some w => cases hc : v.collate w <;> simp [Value.collateNullable, hc, Comparison.holds]

/-- Being below a value; what is missing is below every value, and no comparison says so. -/
theorem eval_lessThan (h : Value.Comparable (some v) (row field)) :
    ((lessThan field v).eval row || (row field).isNone) =
      (Value.collateNullable (some v) (row field) == .gt) := by
  rw [lessThan, eval_fieldIs h]
  cases row field with
  | none => rfl
  | some w => cases hc : v.collate w <;> simp [Value.collateNullable, hc, Comparison.holds]

/-- Being level with a value. -/
theorem eval_equals (h : Value.Comparable (some v) (row field)) :
    (equals field v).eval row = (Value.collateNullable (some v) (row field) == .eq) := by
  rw [equals, eval_fieldIs h]
  cases row field with
  | none => rfl
  | some w => cases hc : v.collate w <;> simp [Value.collateNullable, hc, Comparison.holds]

/-- The test for a missing value looks at the value of the field. -/
theorem eval_fieldIsNull (row : Row) (field : String) :
    (fieldIsNull field).eval row = (row field).isNone := rfl

/-- Alternatives hold when one of them does. -/
theorem eval_foldl_either (row : Row) (p : Predicate) (ps : List Predicate) :
    (ps.foldl either p).eval row = (p.eval row || ps.any (·.eval row)) := by
  induction ps generalizing p with
  | nil => exact (Bool.or_false _).symm
  | cons q rest ih =>
    rw [List.foldl_cons, ih, List.any_cons, ← Bool.or_assoc]
    rfl

/-- A disjunction holds if one of its parts does; that of no parts never does. -/
theorem eval_disjunction (row : Row) (ps : List Predicate) :
    ((disjunction? ps).getD .never).eval row = ps.any (·.eval row) := by
  cases ps with
  | nil => rfl
  | cons p rest => exact eval_foldl_either row p rest

end Predicate

namespace Keyset

/-- What a key needs for its comparisons to read the order of the sort: the cursor carries its
value, it is of one family with that of the row, and no row is without an id. -/
structure Fits (cursor : Cursor) (idField : String) (row : Row) (k : SortKey) : Prop where
  carried : cursorValue cursor idField k = .ok (cursor.sortValue idField k)
  comparable : Value.Comparable (cursor.sortValue idField k) (row k.physical)
  present : k.field = idField → (row k.physical).isSome

/-- The wanted rows have the greater values of a key or the lesser ones. -/
theorem wanted_eq (k : SortKey) (side : Side) (a b : Option Value) :
    (Value.collateDirected k.direction a b == side.wanted) =
      (Value.collateNullable a b == if isForward k side then .lt else .gt) := by
  unfold Value.collateDirected isForward
  generalize Value.collateNullable a b = outcome
  cases k.direction <;> cases side <;> cases outcome <;> rfl

/-- **The comparison at a key reads the order there.** Where no comparison is left, no row is
wanted; a name that cannot be missing needs no test for that. Forward, everything that is there lies
beyond a missing value; backward, a missing value lies beyond everything that is there. -/
theorem eval_beyond {k : SortKey} {side : Side} {row : Row} {value : Option Value}
    {nullable : Bool} (h : Value.Comparable value (row k.physical))
    (hpresent : nullable = false → (row k.physical).isSome) :
    (beyond k value side nullable).any (·.eval row) =
      (Value.collateDirected k.direction value (row k.physical) == side.wanted) := by
  rw [wanted_eq]
  unfold beyond
  cases isForward k side with
  | true =>
    cases value with
    | none => cases hrow : row k.physical <;> simp [Predicate.fieldIsNotNull, Predicate.eval,
        Predicate.eval_fieldIsNull, hrow, Value.collateNullable]
    | some v => exact Predicate.eval_greaterThan h
  | false =>
    cases value with
    | none => cases row k.physical <;> rfl
    | some v =>
      refine Eq.trans ?_ (Predicate.eval_lessThan h)
      cases nullable with
      | true => rfl
      | false =>
        have hnone : (row k.physical).isNone = false := by simpa using hpresent rfl
        rw [hnone, Bool.or_false]
        rfl

/-- **The equality at a key reads the tie there.** -/
theorem eval_level {k : SortKey} {row : Row} {value : Option Value}
    (h : Value.Comparable value (row k.physical)) :
    (level k value).eval row =
      (Value.collateDirected k.direction value (row k.physical) == .eq) := by
  have htie : (Value.collateDirected k.direction value (row k.physical) == .eq) =
      (Value.collateNullable value (row k.physical) == .eq) := by
    unfold Value.collateDirected
    cases k.direction <;> cases Value.collateNullable value (row k.physical) <;> rfl
  rw [htie]
  cases value with
  | none => cases hrow : row k.physical <;> simp [level, Predicate.eval_fieldIsNull, hrow,
      Value.collateNullable]
  | some v => exact Predicate.eval_equals h

/-- The first key on which two tuples differ decides between them. -/
theorem wanted_compareTuples (side : Side) (d : SortDirection) (ds : List SortDirection)
    (a b : Option Value) (as bs : List (Option Value)) :
    (compareTuples (d :: ds) (a :: as) (b :: bs) == side.wanted) =
      ((Value.collateDirected d a b == side.wanted) ||
        ((Value.collateDirected d a b == .eq) && (compareTuples ds as bs == side.wanted))) := by
  rw [compareTuples]
  cases Value.collateDirected d a b <;> cases side <;> rfl

/-- **The alternatives read the order of the tuples.** The induction is on the keys; what the keys
before them ask for is any condition. -/
theorem alternatives_exact {cursor : Cursor} {idField : String} {row : Row} (side : Side)
    {keys : List SortKey} (h : ∀ k ∈ keys, Fits cursor idField row k) (before : Predicate) :
    ∃ ps, alternatives cursor side idField before keys = .ok ps ∧
      ps.any (·.eval row) = (before.eval row &&
        (compareTuples (keys.map (·.direction)) (keys.map (cursor.sortValue idField))
          (keys.map fun k => row k.physical) == side.wanted)) := by
  induction keys generalizing before with
  | nil =>
    refine ⟨[], rfl, ?_⟩
    cases side <;> exact (Bool.and_false _).symm
  | cons k rest ih =>
    rw [List.forall_mem_cons] at h
    obtain ⟨hk, hrest⟩ := h
    obtain ⟨later, hlater, heval⟩ :=
      ih hrest (before.and (level k (cursor.sortValue idField k)))
    refine ⟨((beyond k (cursor.sortValue idField k) side (k.field != idField)).map
      before.and).toList ++ later, ?_, ?_⟩
    · rw [alternatives]
      exact bind_eq_ok.2 ⟨_, hk.carried, bind_eq_ok.2 ⟨_, hlater, rfl⟩⟩
    · have hpresent : (k.field != idField) = false → (row k.physical).isSome :=
        fun hid => hk.present (by simpa using hid)
      -- the first key decides, or it ties and the later ones do; either part stands under the
      -- condition of the keys before
      rw [List.map_cons, List.map_cons, List.map_cons, wanted_compareTuples, List.any_append,
        heval, Predicate.eval_and, eval_level hk.comparable, Bool.and_or_distrib_left,
        ← eval_beyond hk.comparable hpresent, Bool.and_assoc]
      congr 1
      cases beyond k (cursor.sortValue idField k) side (k.field != idField) with
      | none => exact (Bool.and_false _).symm
      | some p => simp

/-- The predicate of a cursor selects the rows on its side. -/
theorem compile_eval {s : SortSpec} {cursor : Cursor} {idField : String} {row : Row} (side : Side)
    (h : ∀ k ∈ s.withTieBreak idField, Fits cursor idField row k) :
    ∃ p, compile s cursor side idField = .ok p ∧
      (p.eval row ↔ s.OnSide idField side cursor row) := by
  obtain ⟨ps, hps, heval⟩ := alternatives_exact side h .always
  refine ⟨_, map_eq_ok.2 ⟨ps, hps, rfl⟩, ?_⟩
  rw [Predicate.eval_disjunction, heval, s.onSide_iff]
  exact beq_iff_eq

/-- What a checked sort needs of a cursor and a document to fit. -/
theorem fits_of_checked {c : Catalog} {s : SortSpec} (hc : c.WellFormed) (hs : s.Checked c)
    {cursor : Cursor} {d : Document}
    (hcarried : ∀ k ∈ s.keys, k.field ≠ c.idField → (cursor.get? k.field).isSome)
    (hfamily : ∀ k ∈ s.keys, k.field ≠ c.idField →
      Value.Comparable (cursor.sortValue c.idField k) (d.row c.idField k.physical)) :
    ∀ k ∈ s.withTieBreak c.idField, Fits cursor c.idField (d.row c.idField) k := by
  intro k hk
  by_cases hid : k.field = c.idField
  · have hrow : d.row c.idField k.physical = some (.entityId d.id) := by
      rw [hs.physical_idField hc hk hid]
      exact d.row_idField c.idField
    refine ⟨cursorValue_eq fun hne => absurd hid hne, ?_, fun _ => ?_⟩
    · rw [hrow, Cursor.sortValue, if_pos hid]
      exact rfl
    · rw [hrow]
      rfl
  · have hmem : k ∈ s.keys := SortSpec.mem_keys hk hid
    exact ⟨cursorValue_eq (hcarried k hmem), hfamily k hmem hid, fun h => absurd h hid⟩

end Keyset
end Paging
