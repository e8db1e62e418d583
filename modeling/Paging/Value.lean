/-
# Values

A field of a document holds a text, an integer of 64 bits, a floating-point number, a truth value,
a point in time or the id of a document. Types of values matter in three places: a declared field
accepts values of its type only, except that integers and floating-point numbers stand for each
other; values of different types are never equal in a filter; and only texts have a small-letter
form.
-/
import Paging.EntityId
import Paging.Number.Shortest
import Paging.Text.LetterCase
import Paging.Time.Rfc3339

namespace Paging

/-- A defined value of a field. -/
inductive Value
  | string (text : String)
  | int (number : Int64)
  | float (number : Binary64)
  | bool (truth : Bool)
  | timestamp (time : Timestamp)
  | entityId (id : EntityId)
  deriving DecidableEq, Repr

/-- The types of values. -/
inductive ValueType
  | string
  | int
  | float
  | bool
  | timestamp
  | entityId
  deriving DecidableEq, Repr

namespace ValueType

/-- The name of a type. -/
def name : ValueType → String
  | string => "string"
  | int => "i64"
  | float => "f64"
  | bool => "bool"
  | timestamp => "timestamp"
  | entityId => "entity id"

/-- Whether values of the type are numbers. -/
def isNumeric : ValueType → Bool
  | int | float => true
  | _ => false

/-- Whether a field declared with the first type may hold a value of the second. -/
def accepts (declared found : ValueType) : Bool :=
  declared == found || (declared.isNumeric && found.isNumeric)

end ValueType

namespace Value

/-- The type of a value. -/
def type : Value → ValueType
  | string _ => .string
  | int _ => .int
  | float _ => .float
  | bool _ => .bool
  | timestamp _ => .timestamp
  | entityId _ => .entityId

/-- The value with its text in small letters; `none` for a value that is no text. -/
def lowercase? : Value → Option Value
  | string text => some (string (LetterCase.lowercase text))
  | _ => none

/-- A value as it is displayed, without quotes. -/
def display : Value → String
  | string text => text
  | int number => String.ofList (Text.signed number.toInt)
  | float number => String.ofList (number.text Binary64.plain)
  | bool truth => if truth then "true" else "false"
  | timestamp time => String.ofList (Rfc3339.numeric time)
  | entityId id => id.display

/-- The text of a value that is one. -/
def text? : Value → Option String
  | string text => some text
  | _ => none

/-- The time of a value that is one. -/
def time? : Value → Option Timestamp
  | timestamp time => some time
  | _ => none

end Value
end Paging
