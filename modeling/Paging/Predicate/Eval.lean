/-
# The meaning of predicates

A predicate holds of a row or does not. A comparison holds when both operands are there, belong to
one family of types and stand in the order it names; so a missing operand, or operands of
different families, make every comparison fail, `<>` included. The connectives are the ones of
two-valued logic.
-/
import Paging.Collation
import Paging.Document
import Paging.Predicate

namespace Paging

/-- The value of an operand in a row. -/
def Expr.value (row : Row) : Expr → Option Value
  | literal value => some value
  | field name => row name

/-- Whether an order of two values is the one that a comparison names. -/
def Comparison.holds (outcome : Ordering) : Comparison → Bool
  | equal => outcome == .eq
  | notEqual => outcome != .eq
  | greater => outcome == .gt
  | greaterOrEqual => outcome != .lt
  | less => outcome == .lt
  | lessOrEqual => outcome != .gt

namespace Predicate

/-- The outcome of comparing two operands; `none` when one is missing or their types do not
compare. -/
def outcome? (row : Row) (left right : Expr) : Option Ordering :=
  match left.value row, right.value row with
  | some a, some b => a.compareTyped b
  | _, _ => none

/-- Whether a predicate holds of a row. -/
def eval (row : Row) : Predicate → Bool
  | compare left comparison right => (outcome? row left right).any (comparison.holds ·)
  | isNull operand => (operand.value row).isNone
  | both p q => p.eval row && q.eval row
  | either p q => p.eval row || q.eval row
  | negation p => !p.eval row
  | always => true
  | never => false

/-- Leaving out what always holds does not change the meaning. -/
@[simp] theorem eval_and (row : Row) (p q : Predicate) :
    (p.and q).eval row = (p.eval row && q.eval row) := by
  unfold Predicate.and
  split
  · next h => simp [h, eval]
  · split
    · next h => simp [h, eval]
    · rfl

end Predicate
end Paging
