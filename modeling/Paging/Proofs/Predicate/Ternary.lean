/-
# Conditions in SQL's logic

SQL knows a third truth value beside true and false: a comparison with a missing operand, or of
operands of different families of types, is unknown, and `AND`, `OR` and `NOT` carry that on
(`Predicate.truth`). A store selects the rows of which a condition is true, and knows two truth
values only (`Predicate.eval`). The two part ways where an unknown condition is negated. They agree
on conditions that negate nothing but null tests (`Positive.eval_iff_truth`), and a query compiles to
no other ones (`Query.selection_truth`).
-/
import Paging.Proofs.Collection.Reachable
import Paging.Proofs.Query.Compiled

namespace Paging

/-- The truth values of SQL. -/
inductive Truth
  | true
  | false
  | unknown
  deriving DecidableEq, Repr

namespace Truth

/-- What is known to hold or not to. -/
def known (b : Bool) : Truth :=
  if b then true else false

/-- False if one of the two is, and true if both are. -/
def and : Truth → Truth → Truth
  | false, _ | _, false => false
  | true, true => true
  | _, _ => unknown

/-- True if one of the two is, and false if both are. -/
def or : Truth → Truth → Truth
  | true, _ | _, true => true
  | false, false => false
  | _, _ => unknown

/-- The unknown stays unknown. -/
def not : Truth → Truth
  | true => false
  | false => true
  | unknown => unknown

/-- What is known is true when it holds. -/
theorem known_eq_true {b : Bool} : known b = true ↔ b := by
  cases b <;> simp [known]

/-- The negation of what is known is known. -/
theorem not_known (b : Bool) : (known b).not = known !b := by
  cases b <;> rfl

/-- A conjunction is true when both sides are, whatever the unknown does to the other cases. -/
theorem and_eq_true {a b : Truth} : a.and b = true ↔ a = true ∧ b = true := by
  cases a <;> cases b <;> decide

/-- A disjunction is true when one of its sides is. -/
theorem or_eq_true {a b : Truth} : a.or b = true ↔ a = true ∨ b = true := by
  cases a <;> cases b <;> decide

end Truth

namespace Predicate

/-- The truth of a condition about a row, as SQL has it. -/
def truth (row : Row) : Predicate → Truth
  | compare left comparison right =>
    match left.value row, right.value row with
    | some a, some b =>
      if a.type.accepts b.type then .known (comparison.holds (a.collate b)) else .unknown
    | _, _ => .unknown
  | isNull operand => .known (operand.value row).isNone
  | both p q => (p.truth row).and (q.truth row)
  | either p q => (p.truth row).or (q.truth row)
  | negation p => (p.truth row).not
  | always => .true
  | never => .false

/-- Nothing is negated but null tests. -/
def Positive : Predicate → Prop
  | negation (isNull _) => True
  | negation _ => False
  | both p q | either p q => p.Positive ∧ q.Positive
  | compare _ _ _ | isNull _ | always | never => True

/-- Comparisons hold exactly if they are true. -/
theorem eval_compare_iff (row : Row) (left right : Expr) (comparison : Comparison) :
    (compare left comparison right).eval row ↔
      (compare left comparison right).truth row = .true := by
  rw [eval, truth, outcome?]
  cases left.value row with
  | none => simp
  | some a =>
    cases right.value row with
    | none => simp
    | some b =>
      simp only
      by_cases h : a.type.accepts b.type
      · rw [if_pos h, Value.compareTyped_of_rank ((Value.accepts_iff_rank a b).1 h),
          Truth.known_eq_true, Option.any_some]
      · rw [if_neg h, Value.compareTyped_eq, if_neg (mt (Value.accepts_iff_rank a b).2 h)]
        simp

/-- **A positive condition holds of a row exactly if SQL has it true.** -/
theorem Positive.eval_iff_truth {p : Predicate} (h : p.Positive) (row : Row) :
    p.eval row ↔ p.truth row = .true := by
  induction p with
  | compare left comparison right => exact eval_compare_iff row left right comparison
  | isNull e => rw [eval, truth, Truth.known_eq_true]
  | both p q ihp ihq =>
    rw [eval, truth, Truth.and_eq_true, Bool.and_eq_true, ihp h.1, ihq h.2]
  | either p q ihp ihq =>
    rw [eval, truth, Truth.or_eq_true, Bool.or_eq_true, ihp h.1, ihq h.2]
  | negation p _ =>
    cases p with
    | isNull e => rw [eval, eval, truth, truth, Truth.not_known, Truth.known_eq_true]
    | _ => exact h.elim
  | always => simp [eval, truth]
  | never => simp [eval, truth]

/-- A negated comparison with a missing value holds, but it is unknown. -/
example : (negation (equals "age" (.int 1))).eval (fun _ => none) ∧
    (negation (equals "age" (.int 1))).truth (fun _ => none) = .unknown := by
  decide

/-- Joining conditions negates nothing, even where one that always holds is left out. -/
theorem Positive.and {p q : Predicate} (hp : p.Positive) (hq : q.Positive) :
    (p.and q).Positive := by
  unfold Predicate.and
  split_ifs
  · exact hq
  · exact hp
  · exact ⟨hp, hq⟩

/-- Whatever names are compared, positive conditions are joined to positive ones. -/
theorem closed_positive : Closed (fun _ => True) Positive where
  always := trivial
  never := trivial
  fieldIs _ _ _ := trivial
  fieldIsNull _ := trivial
  fieldIsNotNull _ := trivial
  and := Positive.and
  either hp hq := ⟨hp, hq⟩

end Predicate

namespace Query

/-- **A query compiles to conditions that negate nothing but null tests**: the criteria, the bounds
of the cursors and the conditions on stamps are all built from such ones. -/
theorem positive_selection {q : Query} {selection : Selection} (h : q.selection = .ok selection) :
    selection.predicate.Positive :=
  Predicate.closed_positive.selection
    (Predicate.closed_positive.toPredicate trivial fun _ _ _ _ => trivial)
    (fun _ _ => trivial) trivial h

/-- **What a query asks of a row holds exactly if SQL has it true.** -/
theorem selection_truth {q : Query} {selection : Selection} (h : q.selection = .ok selection)
    (row : Row) : selection.predicate.eval row ↔ selection.predicate.truth row = .true :=
  (positive_selection h).eval_iff_truth row

/-- The selection of a query before a cursor without a name, with a criterion of the wrong type. -/
theorem selection_truth_people :
    let c := Collection.people
    let nameless : Cursor := ⟨.ofNat 2, none, .ofList [("name", none), ("age", some (.int 30))]⟩
    let q : Query := ⟨c, .matching (.ofList [("age", some (.bool true))]),
      ⟨[⟨"name", "_name", .desc, true⟩, ⟨"age", "age", .asc, false⟩]⟩, none, none,
      [(.before, nameless)], some .epoch, none⟩
    ∃ selection, q.selection = .ok selection ∧ ∀ row,
      (selection.predicate.eval row ↔ selection.predicate.truth row = .true) := by
  intro c nameless q
  have hok : q.selection.isOk := by decide +kernel
  cases h : q.selection with
  | ok selection => exact ⟨selection, rfl, fun row => selection_truth h row⟩
  | error e =>
    rw [h] at hok
    cases hok

end Query
end Paging
