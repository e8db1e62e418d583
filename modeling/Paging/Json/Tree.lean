/-
# The tree of a JSON text

A tree is put together token by token. The state between two tokens is what the next token may be,
together with the containers that are still open, the innermost first, each with the part of it
that is complete. A text is a tree when its tokens lead from the expectation of a value to one
complete value and no open container. No depth is too deep.
-/
import Paging.Json.Token

namespace Paging
namespace Json

/-- A container that is still open, with its complete part, the last first. -/
inductive Frame
  | array (items : List Json)
  /-- An object that waits for the value of a key. -/
  | object (members : List (Option String × Json)) (key : Option String)

/-- What is complete between two tokens and what comes next. -/
inductive State
  /-- A value must begin. -/
  | value (frames : List Frame)
  /-- An array has just been opened. -/
  | arrayStart (frames : List Frame)
  /-- An object has just been opened. -/
  | objectStart (frames : List Frame)
  /-- A key must follow the comma in an object. -/
  | key (members : List (Option String × Json)) (frames : List Frame)
  /-- A colon must follow a key. -/
  | colon (members : List (Option String × Json)) (key : Option String) (frames : List Frame)
  /-- A value is complete; the container around it goes on or closes. -/
  | complete (value : Json) (frames : List Frame)

namespace State

/-- The state after a token with which a value must begin. -/
def start (frames : List Frame) : Token → Option State
  | .null => some (complete .null frames)
  | .bool truth => some (complete (.bool truth) frames)
  | .number n => some (complete (.number n) frames)
  | .string s => some (complete (.string s) frames)
  | .openArray => some (arrayStart frames)
  | .openObject => some (objectStart frames)
  | _ => none

/-- The state after one more token; `none` when it may not come here. -/
def step : State → Token → Option State
  | value frames, t => start frames t
  | arrayStart frames, .closeArray => some (complete (.array []) frames)
  | arrayStart frames, t => start (.array [] :: frames) t
  | objectStart frames, .closeObject => some (complete (.object []) frames)
  | objectStart frames, .string k => some (colon [] k frames)
  | key members frames, .string k => some (colon members k frames)
  | colon members k frames, .colon => some (value (.object members k :: frames))
  | complete v (.array items :: frames), .comma => some (value (.array (v :: items) :: frames))
  | complete v (.array items :: frames), .closeArray =>
    some (complete (.array (v :: items).reverse) frames)
  | complete v (.object members k :: frames), .comma => some (key ((k, v) :: members) frames)
  | complete v (.object members k :: frames), .closeObject =>
    some (complete (.object ((k, v) :: members).reverse) frames)
  | _, _ => none

/-- The value of a state in which all is complete. -/
def result? : State → Option Json
  | complete v [] => some v
  | _ => none

end State

/-- The tree of some tokens, if they are those of one value. -/
def ofTokens? (tokens : List Token) : Option Json :=
  (tokens.foldlM State.step (.value [])).bind State.result?

/-- The tree of a JSON text, given by its bytes. -/
def parse? (text : List UInt8) : Option Json :=
  (tokens? text).bind ofTokens?

/-- A comma is followed by an item. -/
example : ofTokens? [.openArray, .null, .comma, .openObject, .closeObject, .closeArray] =
      some (.array [.null, .object []]) ∧
    ofTokens? [.openArray, .null, .comma, .closeArray] = none ∧ ofTokens? [] = none ∧
    ofTokens? [.null, .null] = none := ⟨rfl, rfl, rfl, rfl⟩

end Json
end Paging
