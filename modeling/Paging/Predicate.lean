/-
# Predicates

A predicate is a condition on a row: comparisons of fields and literal values and tests for
missing values, joined by `and`, `or` and `not`. It is data, so that one predicate can be
evaluated, rendered as SQL, sent as JSON and inspected. The constructors build exactly the tree
they name; `and` and `conjunction` leave out parts that are always true.
-/
import Paging.Value

namespace Paging

/-- An operand: a value, or the field of a name. -/
inductive Expr
  | literal (value : Value)
  | field (name : String)
  deriving DecidableEq, Repr

/-- A comparison of two values. -/
inductive Comparison
  | equal
  | notEqual
  | greater
  | greaterOrEqual
  | less
  | lessOrEqual
  deriving DecidableEq, Repr

/-- A condition on a row. -/
inductive Predicate
  | compare (left : Expr) (comparison : Comparison) (right : Expr)
  | isNull (operand : Expr)
  | both (left right : Predicate)
  | either (left right : Predicate)
  | negation (inner : Predicate)
  | always
  | never
  deriving DecidableEq, Repr

namespace Predicate

/-- A field compared with a value. -/
def fieldIs (comparison : Comparison) (field : String) (value : Value) : Predicate :=
  compare (.field field) comparison (.literal value)

/-- A field equal to a value. -/
def equals (field : String) (value : Value) : Predicate :=
  fieldIs .equal field value

/-- A field above a value. -/
def greaterThan (field : String) (value : Value) : Predicate :=
  fieldIs .greater field value

/-- A field below a value. -/
def lessThan (field : String) (value : Value) : Predicate :=
  fieldIs .less field value

/-- A field that is missing. -/
def fieldIsNull (field : String) : Predicate :=
  isNull (.field field)

/-- A field that is not missing. -/
def fieldIsNotNull (field : String) : Predicate :=
  negation (fieldIsNull field)

/-- Both conditions; one that always holds is left out. -/
def and (p q : Predicate) : Predicate :=
  if p = always then q else if q = always then p else both p q

/-- All conditions, nested to the left; `always` when there are none. -/
def conjunction (ps : List Predicate) : Predicate :=
  ps.foldl and always

/-- Some condition, nested to the left; `none` when there are none to choose from. -/
def disjunction? : List Predicate → Option Predicate
  | [] => none
  | p :: ps => some (ps.foldl either p)

end Predicate
end Paging
