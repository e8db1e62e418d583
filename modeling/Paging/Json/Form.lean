/-
# JSON forms

Values of this library have a form in JSON: a tree that stands for them. Writing a value gives its
one form. Reading is more generous: a record may also be an array of its fields in order, members
that a record does not know are skipped, and a bare variant may carry a null.

A reader takes the number of containers that may still be opened, and refuses a tree that nests
deeper. Only the containers that it looks into count; what it skips may nest as it likes.
-/
import Paging.EntityId
import Paging.Json.Tree
import Paging.Number.Shortest
import Paging.SortedMap
import Paging.Time.Rfc3339

namespace Paging
namespace Json

/-- Numbers have the fewest digits that read back, a half goes to the even neighbour, whole
numbers keep a point, and the exponent starts below `10 ^ -5` and at `10 ^ 16`, always with a
sign. -/
def floatStyle : Style := ⟨.even, fun k => -5 ≤ k && k < 16, true, true⟩

/-- The form of an integer. -/
def ofInt (n : Int) : Json := number (.ofInt n)

/-- The form of a floating-point number. One that is not finite has none and is written as null. -/
def ofFloat (x : Binary64) : Json :=
  if x.isFinite then number (x.numeral floatStyle) else null

/-- The form of a point in time. -/
def ofTimestamp (t : Timestamp) : Json := text (String.ofList (Rfc3339.zulu t))

/-- The form of an id. -/
def ofEntityId (id : EntityId) : Json := text id.base32

/-- The form of something that may be missing. -/
def ofOption {α : Type} (write : α → Json) : Option α → Json
  | some a => write a
  | none => null

/-- The form of a list. -/
def ofList {α : Type} (write : α → Json) (items : List α) : Json :=
  array (items.map write)

/-- The form of a map, in key order. -/
def ofMap {α : Type} (write : α → Json) (m : SortedMap String α) : Json :=
  record (m.entries.map fun e => (e.1, write e.2))

/-- The form of a variant that holds something. -/
def variant (name : String) (content : Json) : Json :=
  record [(name, content)]

/-- The variant of an object with one member: its name and what it holds. -/
def variant? : Json → Option (String × Json)
  | object [(some name, content)] => some (name, content)
  | _ => none

end Json

/-- A way to read a tree, given the number of containers that may still be opened. -/
abbrev Reader (α : Type) := Nat → Json → Option α

namespace Reader

/-- The number of containers in each other that a text may open. -/
def depthLimit : Nat := 127

/-- A text. -/
def text : Reader String
  | _, .string s => s
  | _, _ => none

/-- A truth value. -/
def bool : Reader Bool
  | _, .bool b => some b
  | _, _ => none

/-- An integer of 64 bits. -/
def int64 : Reader Int64
  | _, .number n => n.toInt64?
  | _, _ => none

/-- A natural number of 64 bits. -/
def uint64 : Reader UInt64
  | _, .number n => n.toUInt64?
  | _, _ => none

/-- A floating-point number, in any notation. -/
def float : Reader Binary64
  | _, .number n => n.toBinary64?
  | _, _ => none

/-- A point in time. -/
def timestamp : Reader Timestamp := fun depth j =>
  (text depth j).bind fun s => Rfc3339.read? s.toList

/-- An id. -/
def entityId : Reader EntityId := fun depth j =>
  (text depth j).bind EntityId.ofBase32?

/-- Something that may be missing. -/
def optional {α : Type} (read : Reader α) : Reader (Option α)
  | _, .null => some none
  | depth, j => (read depth j).map some

/-- A list. -/
def list {α : Type} (read : Reader α) : Reader (List α)
  | depth + 1, .array items => items.mapM (read depth)
  | _, _ => none

/-- A member of a map. -/
def member {α : Type} (read : Reader α) (depth : Nat) (m : Option String × Json) :
    Option (String × α) :=
  m.1.bind fun key => (read depth m.2).map (key, ·)

/-- A map. Of several members with one key the last counts. -/
def map {α : Type} (read : Reader α) : Reader (SortedMap String α)
  | depth + 1, .object members =>
    (members.mapM (member read depth)).map .ofList
  | _, _ => none

/-- One of several bare variants. -/
def word {α : Type} (words : List (String × α)) : Reader α
  | _, .string (some name) => words.lookup name
  | _ + 1, .object [(some name, .null)] => words.lookup name
  | _, _ => none

end Reader

/-- The fields of a record that a tree gives, with the number of containers that they may open. -/
structure Members where
  depth : Nat
  entries : List (String × Json)

namespace Members

/-- The members of an object with known names. A known name may not come twice, and every name
must be text. -/
def known (names : List String) : List (Option String × Json) → Option (List (String × Json))
  | [] => some []
  | (none, _) :: _ => none
  | (some name, value) :: rest =>
    (known names rest).bind fun others =>
      if name ∉ names then some others
      else if others.any (·.1 = name) then none
      else some ((name, value) :: others)

/-- A record with the given fields, as an object or as an array of at least `least` of its fields
in order. -/
def read? (names : List String) (least : Nat) : Reader Members
  | depth + 1, .object members => (known names members).map (.mk depth)
  | depth + 1, .array items =>
    if least ≤ items.length ∧ items.length ≤ names.length then some ⟨depth, names.zip items⟩
    else none
  | _, _ => none

/-- A field that must be there. -/
def required {α : Type} (m : Members) (name : String) (read : Reader α) : Option α :=
  (m.entries.lookup name).bind (read m.depth)

/-- A field that has a standard value when it is not there. -/
def standing {α : Type} (m : Members) (name : String) (standard : α) (read : Reader α) : Option α :=
  match m.entries.lookup name with
  | some j => read m.depth j
  | none => some standard

/-- A field that is missing when it is not there, and also when it is null. -/
def optional {α : Type} (m : Members) (name : String) (read : Reader α) : Option (Option α) :=
  m.standing name none read.optional

end Members

/-- The value that a whole JSON text stands for. The text is given by its bytes. -/
def Reader.ofBytes? {α : Type} (read : Reader α) (text : List UInt8) : Option α :=
  (Json.parse? text).bind (read depthLimit)

/-- A record in both notations; a skipped member, a repeated one, and a record that nests too
deep. -/
example :
    let names := ["a", "b"]
    let one : Json := .number (.ofInt 1)
    let get (depth : Nat) (j : Json) : Option Int64 :=
      (Members.read? names 2 depth j).bind (·.required "b" Reader.int64)
    get 1 (.array [.null, one]) = some 1 ∧ get 1 (.array [.null]) = none ∧
    get 1 (.record [("x", .array []), ("b", one)]) = some 1 ∧
    get 1 (.record [("b", one), ("b", one)]) = none ∧ get 0 (.record [("b", one)]) = none := by
  decide

end Paging
