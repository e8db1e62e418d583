/-
# The JSON form of values

A value is a variant named for its type. Floating-point numbers that are not finite have no form.
-/
import Paging.Json.Form
import Paging.Value

namespace Paging

namespace ValueType

/-- The name of a type in JSON. -/
def word : ValueType → String
  | string => "String"
  | int => "I64"
  | float => "F64"
  | bool => "Bool"
  | timestamp => "Timestamp"
  | entityId => "EntityId"

/-- The types by their names in JSON. -/
def words : List (String × ValueType) :=
  [string, int, float, bool, timestamp, entityId].map fun t => (t.word, t)

/-- The form of a type. -/
def toJson (t : ValueType) : Json := .text t.word

/-- A type. -/
def ofJson : Reader ValueType := .word words

end ValueType

namespace Value

/-- The form of what a value holds. -/
def contentJson : Value → Json
  | string s => .text s
  | int n => .ofInt n.toInt
  | float x => .ofFloat x
  | bool b => .bool b
  | timestamp t => .ofTimestamp t
  | entityId id => .ofEntityId id

/-- The form of a value. -/
def toJson (v : Value) : Json :=
  .variant v.type.word v.contentJson

/-- What a value of the given type holds. -/
def ofContentJson (type : ValueType) : Reader Value := fun depth j =>
  match type with
  | .string => (Reader.text depth j).map string
  | .int => (Reader.int64 depth j).map int
  | .float => (Reader.float depth j).map float
  | .bool => (Reader.bool depth j).map bool
  | .timestamp => (Reader.timestamp depth j).map timestamp
  | .entityId => (Reader.entityId depth j).map entityId

/-- A value. -/
def ofJson : Reader Value
  | 0, _ => none
  | depth + 1, j => do
    let (name, content) ← j.variant?
    let type ← ValueType.words.lookup name
    ofContentJson type depth content

end Value
end Paging
