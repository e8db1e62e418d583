/-
# Predicates as SQL

A predicate is rendered as the condition of a `WHERE` clause, and a selection as all that follows
the table in a `SELECT`. Names stand between double quotes and texts between single quotes, and a
quote inside is written twice; the null character is left out of texts. `OR` is always in
parentheses and `AND` never, which is how SQL binds them. A floating-point number that is not
finite has no literal, so a predicate that holds one has no rendering.
-/
import Paging.Predicate

namespace Paging
namespace Sql

/-- Why a predicate has no rendering. -/
inductive RenderError
  /-- A literal that is a floating-point number but not a finite one. -/
  | nonFiniteFloat
  deriving DecidableEq, Repr

/-- The wording of a rendering error. -/
def RenderError.message : RenderError → String
  | nonFiniteFloat => "Unsupported literal: non-finite float"

/-- A text between quotes, with each quote inside it twice. -/
def quoted (quote : Char) (text : List Char) : List Char :=
  quote :: text.flatMap (fun c => if c = quote then [quote, quote] else [c]) ++ [quote]

/-- The literal of a value. -/
def literal : Value → Except RenderError (List Char)
  | .int number => .ok (Text.signed number.toInt)
  | .float number =>
    if number.isFinite then .ok (number.text Binary64.plain) else .error .nonFiniteFloat
  | .bool truth => .ok (if truth then "true".toList else "false".toList)
  | .string text => .ok (quoted '\'' (text.toList.filter (· ≠ Char.ofNat 0)))
  | .timestamp time => .ok (quoted '\'' (Rfc3339.numeric time))
  | .entityId id => .ok (quoted '\'' id.display.toList)

/-- A name between double quotes. -/
def identifier (name : String) : List Char :=
  quoted '"' name.toList

/-- The rendering of an operand. -/
def operand : Expr → Except RenderError (List Char)
  | .literal value => literal value
  | .field name => .ok (identifier name)

/-- The operator of a comparison. -/
def operator : Comparison → List Char
  | .equal => ['=']
  | .notEqual => ['<', '>']
  | .greater => ['>']
  | .greaterOrEqual => ['>', '=']
  | .less => ['<']
  | .lessOrEqual => ['<', '=']

/-- The rendering of a predicate. -/
def condition : Predicate → Except RenderError (List Char)
  | .compare left comparison right => do
    let l ← operand left
    let r ← operand right
    pure (l ++ ' ' :: operator comparison ++ ' ' :: r)
  | .both p q => do
    let l ← condition p
    let r ← condition q
    pure (l ++ " AND ".toList ++ r)
  | .either p q => do
    let l ← condition p
    let r ← condition q
    pure ('(' :: l ++ " OR ".toList ++ r ++ [')'])
  | .negation (.isNull e) => do
    let o ← operand e
    pure (o ++ " IS NOT NULL".toList)
  | .negation p => do
    let i ← condition p
    pure ("NOT (".toList ++ i ++ [')'])
  | .isNull e => do
    let o ← operand e
    pure (o ++ " IS NULL".toList)
  | .always => .ok "TRUE".toList
  | .never => .ok "FALSE".toList

/-- A rendering as it is displayed: the text, or the wording of the error between angle brackets. -/
def display (rendering : Except RenderError (List Char)) : String :=
  match rendering with
  | .ok text => String.ofList text
  | .error e => "<" ++ e.message ++ ">"

end Sql

namespace Predicate

/-- The predicate as the condition of a `WHERE` clause. -/
def sql (p : Predicate) : Except Sql.RenderError String :=
  (Sql.condition p).map String.ofList

/-- The predicate as it is displayed. -/
def display (p : Predicate) : String :=
  Sql.display (Sql.condition p)

end Predicate
end Paging
