/-
# The order of values is total

Values of all types have places on one line: first by type, then by a number, which is the exact
value where the value is a number, then by nanoseconds, then by text. Sorting compares places
(`collate_eq_place`), so it inherits from them that it is total and transitive across integers and
floating-point numbers and across types. Missing values stand below the line, and a descending
order reads the line from the other end. Filters compare only within one family of types, where
they agree with sorting (`compareTyped_eq`).
-/
import Paging.Collation
import Paging.Proofs.Number.Exact

namespace Paging

/-- Where a value stands in the order of all values. -/
structure Place where
  rank : Nat
  number : Int
  nanos : Nat
  text : String

namespace Place

instance : Ord Place where
  compare := compareLex (compareOn rank) (compareLex (compareOn number)
    (compareLex (compareOn nanos) (compareOn text)))

instance : Std.TransOrd Place := inferInstanceAs (Std.TransCmp (compareLex _ _))

/-- Places are compared by their parts, the rank first. -/
theorem compare_def (p q : Place) :
    compare p q = (compare p.rank q.rank).then ((compare p.number q.number).then
      ((compare p.nanos q.nanos).then (compare p.text q.text))) := rfl

/-- Places of one rank that differ in the number only. -/
theorem compare_number (rank : Nat) (x y : Int) :
    compare (Place.mk rank x 0 "") (Place.mk rank y 0 "") = compare x y := by
  simp only [compare_def, Std.ReflOrd.compare_self, Ordering.then_eq, Ordering.eq_then]

end Place

namespace Value

/-- The place of a value. -/
def place : Value → Place
  | int n => ⟨0, Binary64.exactInt n, 0, ""⟩
  | float x => ⟨0, x.exact, 0, ""⟩
  | string text => ⟨1, 0, 0, text⟩
  | entityId id => ⟨2, id.number, 0, ""⟩
  | bool b => ⟨3, b.toNat, 0, ""⟩
  | timestamp t => ⟨4, t.seconds, t.nanos, ""⟩

/-- A value stands at the rank of its type. -/
@[simp] theorem place_rank (a : Value) : a.place.rank = a.rank := by
  cases a <;> rfl

/-- Natural numbers are ordered as integers. -/
theorem compare_natCast (m n : Nat) : compare m n = compare (m : Int) n := by
  show compareOfLessAndEq m n = compareOfLessAndEq (m : Int) n
  simp only [compareOfLessAndEq, Int.ofNat_lt, Int.ofNat_inj]

/-- Integers are ordered as the exact numbers that they are. -/
theorem compare_exactInt (a b : Int64) :
    compare a b = compare (Binary64.exactInt a) (Binary64.exactInt b) := by
  have hpos : (0 : Int) < Binary64.stepsPerOne := Int.natCast_pos.2 Binary64.stepsPerOne_pos
  have h : compare (a.toInt * Binary64.stepsPerOne) (b.toInt * Binary64.stepsPerOne + 0) = _ :=
    Binary64.compare_mul_add (by simpa using hpos)
  rw [Int.add_zero, Std.ReflOrd.compare_self, Ordering.then_eq] at h
  rw [Binary64.compare_int64]
  exact h.symm

/-- **Filters compare within one family of types, and there they compare places.** Values of two
families are not compared, so what is left are the pairs within one. -/
theorem compareTyped_eq (a b : Value) :
    a.compareTyped b = if a.rank = b.rank then some (compare a.place b.place) else none := by
  cases a <;> cases b <;> try rfl
  case int.int a b =>
    exact congrArg some ((compare_exactInt a b).trans (Place.compare_number 0 _ _).symm)
  case int.float n x =>
    exact congrArg some
      ((Binary64.compareInt_eq_exact n x).trans (Place.compare_number 0 _ _).symm)
  case float.int x n =>
    refine congrArg some (Eq.trans ?_ (Place.compare_number 0 _ _).symm)
    rw [Binary64.compareInt_eq_exact]
    exact Std.OrientedOrd.eq_swap.symm
  case float.float x y =>
    exact congrArg some ((Binary64.compare_eq_exact x y).trans (Place.compare_number 0 _ _).symm)
  case bool.bool a b => cases a <;> cases b <;> rfl
  case timestamp.timestamp s t =>
    refine congrArg some ?_
    rw [Place.compare_def]
    exact congrArg ((compare s.seconds t.seconds).then ·) Ordering.then_eq.symm
  case entityId.entityId a b =>
    refine congrArg some (Eq.trans ?_ (Place.compare_number 2 _ _).symm)
    exact compare_natCast a.number b.number

/-- **Sorting compares places.** -/
theorem collate_eq_place (a b : Value) : a.collate b = compare a.place b.place := by
  unfold collate
  rw [compareTyped_eq]
  by_cases h : a.rank = b.rank
  · rw [if_pos h]
    rfl
  · rw [if_neg h, Place.compare_def, place_rank, place_rank]
    cases hc : compare a.rank b.rank with
    | eq => exact absurd (Nat.compare_eq_eq.1 hc) h
    | lt => rfl
    | gt => rfl

/-- Two values of one family compare in filters as in sorting. -/
theorem compareTyped_of_rank {a b : Value} (h : a.rank = b.rank) :
    a.compareTyped b = some (a.collate b) := by
  rw [compareTyped_eq, if_pos h, collate_eq_place]

/-- Two types are of one family when a field of the one may hold values of the other. -/
theorem accepts_iff_rank (a b : Value) : a.type.accepts b.type ↔ a.rank = b.rank := by
  cases a <;> cases b <;> simp [type, rank, ValueType.accepts, ValueType.isNumeric]

/-- The order of all values is total and transitive. -/
instance : Std.TransCmp collate where
  eq_swap := by
    intro a b
    rw [collate_eq_place, collate_eq_place]
    exact Std.OrientedOrd.eq_swap
  isLE_trans := by
    intro a b c
    rw [collate_eq_place, collate_eq_place, collate_eq_place]
    exact Std.TransOrd.isLE_trans

/-- So it is with a missing value below all others. -/
instance : Std.TransCmp collateNullable where
  eq_swap := by
    intro a b
    cases a with
    | none => cases b <;> rfl
    | some a =>
      cases b with
      | none => rfl
      | some b => exact (Std.OrientedCmp.eq_swap : a.collate b = (b.collate a).swap)
  isLE_trans := by
    intro a b c hab hbc
    cases a with
    | none => cases c <;> rfl
    | some a =>
      cases b with
      | none => exact absurd hab Bool.false_ne_true
      | some b =>
        cases c with
        | none => exact absurd hbc Bool.false_ne_true
        | some c =>
          have hle : (a.collate b).isLE → (b.collate c).isLE → (a.collate c).isLE :=
            Std.TransCmp.isLE_trans
          exact hle hab hbc

/-- The descending order is the ascending one with the sides exchanged. -/
theorem collateDirected_desc (a b : Option Value) :
    collateDirected .desc a b = collateNullable b a :=
  Std.OrientedCmp.eq_swap.symm

/-- Turning the direction around exchanges the sides. -/
theorem collateDirected_reversed (d : SortDirection) (a b : Option Value) :
    collateDirected d.reversed a b = collateDirected d b a := by
  cases d with
  | asc => exact collateDirected_desc a b
  | desc => exact (collateDirected_desc b a).symm

/-- So it is in both directions. -/
instance (d : SortDirection) : Std.TransCmp (collateDirected d) :=
  match d with
  | .asc => inferInstanceAs (Std.TransCmp collateNullable)
  | .desc => by
    have h : collateDirected .desc = fun a b => collateNullable b a := by
      funext a b
      exact collateDirected_desc a b
    rw [h]
    infer_instance

/-- The laws of a comparison under which all values stand in one order, some of them tied. -/
structure TotalPreorder {α : Type} (cmp : α → α → Ordering) : Prop where
  swapped : ∀ a b, cmp b a = (cmp a b).swap
  chained : ∀ a b c, cmp a b ≠ .gt → cmp b c ≠ .gt → cmp a c ≠ .gt
  tied : ∀ a b, cmp a b = .eq → ∀ c, cmp a c = cmp b c ∧ cmp c a = cmp c b

/-- An oriented and transitive comparison obeys the laws. -/
theorem TotalPreorder.of_transCmp {α : Type} (cmp : α → α → Ordering) [Std.TransCmp cmp] :
    TotalPreorder cmp := by
  refine ⟨fun _ _ => Std.OrientedCmp.eq_swap, fun a b c hab hbc => ?_, fun a b h c => ?_⟩
  · have hle : (cmp a c).isLE := Std.TransCmp.isLE_trans (Ordering.isLE_iff_ne_gt.2 hab)
      (Ordering.isLE_iff_ne_gt.2 hbc)
    exact Ordering.isLE_iff_ne_gt.1 hle
  · exact ⟨Std.TransCmp.congr_left h, Std.TransCmp.congr_right h⟩

/-- **The order of values is a total preorder**, also with a missing value, which stands below all
others, and in both directions. Filters compare exactly the values of one family of types, and
they compare them as sorting does. -/
theorem collate_totalPreorder :
    TotalPreorder collate ∧
      (TotalPreorder collateNullable ∧ ∀ a : Value, collateNullable none (some a) = .lt) ∧
      (∀ d : SortDirection, TotalPreorder (collateDirected d)) ∧
      ∀ a b : Value,
        a.compareTyped b = if a.type.accepts b.type then some (a.collate b) else none := by
  refine ⟨.of_transCmp _, ⟨.of_transCmp _, fun _ => rfl⟩, fun d => .of_transCmp _, fun a b => ?_⟩
  by_cases hfamily : a.type.accepts b.type
  · rw [if_pos hfamily, compareTyped_of_rank ((accepts_iff_rank a b).1 hfamily)]
  · rw [if_neg hfamily, compareTyped_eq, if_neg (mt (accepts_iff_rank a b).2 hfamily)]

end Value
end Paging
