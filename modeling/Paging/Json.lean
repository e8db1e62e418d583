/-
# JSON

A JSON text is a tree of arrays and objects with names, numbers and texts at its leaves. Objects
keep their members in order, repeated ones included, since what a repetition means is for the
reader of the tree to say. A string literal may spell out something that is no text, such as half
a surrogate pair; the tree keeps such a string as `none`, which is harmless as long as nobody asks
for its text.

`render` writes a tree without blanks. Quotes, backslashes and control characters are escaped and
nothing else is.
-/
import Paging.Number.Numeral

namespace Paging

/-- A JSON text as a tree. -/
inductive Json
  | null
  | bool (truth : Bool)
  | number (numeral : Numeral)
  /-- A string; `none` when it spells no text. -/
  | string (text : Option String)
  | array (items : List Json)
  | object (members : List (Option String × Json))
  deriving Inhabited

namespace Json

/-- The JSON of a text. -/
def text (s : String) : Json := string (some s)

/-- An object with the given members. -/
def record (members : List (String × Json)) : Json :=
  object (members.map fun m => (some m.1, m.2))

/-- A hexadecimal digit, in small letters. -/
def hexDigit (n : Nat) : Char :=
  Char.ofNat (if n < 10 then n + 48 else n + 87)

/-- A character inside a string literal. -/
def escape (c : Char) : List Char :=
  if c = '"' then ['\\', '"']
  else if c = '\\' then ['\\', '\\']
  else if c = '\x08' then ['\\', 'b']
  else if c = '\x0c' then ['\\', 'f']
  else if c = '\n' then ['\\', 'n']
  else if c = '\r' then ['\\', 'r']
  else if c = '\t' then ['\\', 't']
  else if c.toNat < 32 then ['\\', 'u', '0', '0', hexDigit (c.toNat / 16), hexDigit (c.toNat % 16)]
  else [c]

/-- A string literal. One that spells no text is written as half a surrogate pair. -/
def quote : Option String → List Char
  | some s => '"' :: s.toList.flatMap escape ++ ['"']
  | none => "\"\\ud800\"".toList

mutual

/-- The text of a tree. -/
def render : Json → List Char
  | null => "null".toList
  | bool true => "true".toList
  | bool false => "false".toList
  | number n => n.text
  | string s => quote s
  | array items => '[' :: renderItems items ++ [']']
  | object members => '\x7b' :: renderMembers members ++ ['\x7d']

/-- Items separated by commas. -/
def renderItems : List Json → List Char
  | [] => []
  | item :: rest => render item ++ renderMoreItems rest

/-- Further items, each after a comma. -/
def renderMoreItems : List Json → List Char
  | [] => []
  | item :: rest => ',' :: render item ++ renderMoreItems rest

/-- Members separated by commas. -/
def renderMembers : List (Option String × Json) → List Char
  | [] => []
  | (key, value) :: rest => quote key ++ ':' :: render value ++ renderMoreMembers rest

/-- Further members, each after a comma. -/
def renderMoreMembers : List (Option String × Json) → List Char
  | [] => []
  | (key, value) :: rest => ',' :: quote key ++ ':' :: render value ++ renderMoreMembers rest

end

/-- Nested containers and escapes. -/
example :
    render (record [("a", array [null, bool true, number (.ofInt (-5))]), ("\n\x01", text "\"é")]) =
    "\x7b\"a\":[null,true,-5],\"\\n\\u0001\":\"\\\"é\"\x7d".toList := by decide +kernel

end Json
end Paging
