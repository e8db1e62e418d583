/-
# The JSON form of predicates

Operands, comparisons and predicates are variants. A binary predicate holds an array of its two
sides, a comparison a record of its operands and its operator.
-/
import Paging.Predicate
import Paging.Value.Json

namespace Paging

namespace Expr

/-- The form of a field name as an operand. -/
def property (name : String) : Json :=
  .variant "Property" (.text name)

/-- A field name as an operand. -/
def ofProperty : Reader String
  | 0, _ => none
  | depth + 1, j =>
    match j.variant? with
    | some ("Property", name) => Reader.text depth name
    | _ => none

/-- The form of an operand. -/
def toJson : Expr → Json
  | literal v => .variant "Literal" v.toJson
  | field name => .variant "Identifier" (property name)

/-- An operand. -/
def ofJson : Reader Expr
  | 0, _ => none
  | depth + 1, j =>
    match j.variant? with
    | some ("Literal", v) => (Value.ofJson depth v).map literal
    | some ("Identifier", name) => (ofProperty depth name).map field
    | _ => none

end Expr

namespace Comparison

/-- The names of the comparisons in JSON. -/
def words : List (String × Comparison) :=
  [("Equal", equal), ("NotEqual", notEqual), ("GreaterThan", greater),
    ("GreaterThanOrEqual", greaterOrEqual), ("LessThan", less), ("LessThanOrEqual", lessOrEqual)]

/-- The form of a comparison. -/
def toJson : Comparison → Json
  | equal => .text "Equal"
  | notEqual => .text "NotEqual"
  | greater => .text "GreaterThan"
  | greaterOrEqual => .text "GreaterThanOrEqual"
  | less => .text "LessThan"
  | lessOrEqual => .text "LessThanOrEqual"

/-- A comparison. -/
def ofJson : Reader Comparison := .word words

end Comparison

namespace Predicate

/-- The form of a predicate. -/
def toJson : Predicate → Json
  | compare left c right => .variant "Comparison"
      (.record [("left", left.toJson), ("operator", c.toJson), ("right", right.toJson)])
  | isNull e => .variant "IsNull" e.toJson
  | both p q => .variant "And" (.array [p.toJson, q.toJson])
  | either p q => .variant "Or" (.array [p.toJson, q.toJson])
  | negation p => .variant "Not" p.toJson
  | always => .text "True"
  | never => .text "False"

/-- The operands and the operator of a comparison. -/
def ofComparison : Reader Predicate := fun depth j => do
  let m ← Members.read? ["left", "operator", "right"] 3 depth j
  pure (compare (← m.required "left" Expr.ofJson) (← m.required "operator" Comparison.ofJson)
    (← m.required "right" Expr.ofJson))

/-- The predicates without parts. -/
def ofWord : Reader Predicate := .word [("True", always), ("False", never)]

/-- A predicate. -/
def ofJson : Reader Predicate
  | 0, j => ofWord 0 j
  | depth + 1, j =>
    match j.variant? with
    | some ("Comparison", content) => ofComparison depth content
    | some ("IsNull", e) => (Expr.ofJson depth e).map isNull
    | some ("Not", p) => (ofJson depth p).map negation
    | some ("And", sides) =>
      match depth, sides with
      | inner + 1, .array [p, q] => do pure (both (← ofJson inner p) (← ofJson inner q))
      | _, _ => none
    | some ("Or", sides) =>
      match depth, sides with
      | inner + 1, .array [p, q] => do pure (either (← ofJson inner p) (← ofJson inner q))
      | _, _ => none
    | _ => ofWord (depth + 1) j

end Predicate
end Paging
