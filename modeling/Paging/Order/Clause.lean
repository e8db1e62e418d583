/-
# Orders as text

A compact text such as `fn,-ln, +ph` names the fields to sort by: clauses separated by commas,
each a name with `-` in front for descending order and `+` or nothing for ascending. Blanks may
stand around commas, between a sign and its name, and at both ends. A name begins with a letter or
`_` and goes on with letters, digits, `_` and `.`, all of them ASCII.

Every other text is at fault at one place: where a clause must begin and none does, where a sign
has no name after it, or where a clause is followed by something that is neither a comma nor the
end.
-/
import Paging.Selection
import Paging.Text.Position

namespace Paging
namespace OrderText

/-- What a text would have to go on with. -/
inductive Expected
  | clause
  | name
  | endOfText
  deriving DecidableEq, Repr

/-- What was expected, in the words of a message. -/
def Expected.message : Expected → String
  | clause => "expected Clause"
  | name => "expected Identifier"
  | endOfText => "expected EOI"

/-- The place at which a text stops being an order. -/
structure Fault where
  before : List Char
  after : List Char
  expected : Expected
  deriving DecidableEq, Repr

/-- The wording of a fault. -/
def Fault.message (f : Fault) : String :=
  "Syntax error: " ++ String.ofList (Text.excerpt f.before f.after f.expected.message.toList)

/-- Blanks: the space, the tab and the two line ends. -/
def isBlank (c : Char) : Bool :=
  c == ' ' || c == '\t' || c == '\r' || c == '\n'

/-- The text after its leading blanks. -/
def skipBlanks (text : List Char) : List Char :=
  text.dropWhile isBlank

/-- The characters that begin a name. -/
def beginsName (c : Char) : Bool :=
  c.isAlpha || c == '_'

/-- The characters that a name goes on with. -/
def continuesName (c : Char) : Bool :=
  c.isAlphanum || c == '_' || c == '.'

/-- The longest name at the beginning of a text, and what follows it. -/
def name? : List Char → Option (List Char × List Char)
  | [] => none
  | c :: rest =>
    if beginsName c then some (c :: rest.takeWhile continuesName, rest.dropWhile continuesName)
    else none

/-- What a text fails to begin with, and the text. -/
abbrev Failure := Expected × List Char

/-- A name at the beginning of a text as a clause of the given direction. -/
def namedClause (expected : Expected) (direction : SortDirection) (text : List Char) :
    Except Failure (OrderItem × List Char) :=
  match name? text with
  | some (name, rest) => .ok (⟨String.ofList name, direction⟩, rest)
  | none => .error (expected, text)

/-- The clause at the beginning of a text, and what follows it. -/
def clause (text : List Char) : Except Failure (OrderItem × List Char) :=
  match text with
  | '+' :: rest => namedClause .name .asc (skipBlanks rest)
  | '-' :: rest => namedClause .name .desc (skipBlanks rest)
  | text => namedClause .clause .asc text

/-- Skipping blanks makes no text longer. -/
theorem length_skipBlanks_le (text : List Char) : (skipBlanks text).length ≤ text.length :=
  (List.dropWhile_sublist _).length_le

/-- A clause takes its name away, which has a character at least, so the reader gets to an end. -/
theorem length_lt_of_namedClause {expected : Expected} {direction : SortDirection}
    {text rest : List Char} {item : OrderItem}
    (h : namedClause expected direction text = .ok (item, rest)) :
    rest.length < text.length := by
  cases text with
  | nil => simp [namedClause, name?] at h
  | cons c cs =>
    by_cases hc : beginsName c
    · simp only [namedClause, name?, hc, if_true, Except.ok.injEq, Prod.mk.injEq] at h
      have := (List.dropWhile_sublist (l := cs) continuesName).length_le
      rw [← h.2, List.length_cons]
      omega
    · simp [namedClause, name?, hc] at h

/-- A clause takes at least one character. -/
theorem length_lt_of_clause {text rest : List Char} {item : OrderItem}
    (h : clause text = .ok (item, rest)) :
    rest.length < text.length := by
  unfold clause at h
  split at h
  · next cs =>
    have := length_lt_of_namedClause h
    have := length_skipBlanks_le cs
    simp only [List.length_cons]
    omega
  · next cs =>
    have := length_lt_of_namedClause h
    have := length_skipBlanks_le cs
    simp only [List.length_cons]
    omega
  · exact length_lt_of_namedClause h

/-- The clauses of a text that begins with one, up to its end. -/
def clauses (text : List Char) : Except Failure OrderBy :=
  match h : clause text with
  | .error failure => .error failure
  | .ok (item, rest) =>
    match h' : skipBlanks rest with
    | [] => .ok [item]
    | ',' :: more =>
      have := length_lt_of_clause h
      have := length_skipBlanks_le rest
      have := length_skipBlanks_le more
      have : more.length < (skipBlanks rest).length := by simp [h']
      (clauses (skipBlanks more)).map (item :: ·)
    | after => .error (.endOfText, after)
termination_by text.length

/-- The order that a text names. -/
def parse (text : String) : Except Fault OrderBy :=
  match clauses (skipBlanks text.toList) with
  | .ok order => .ok order
  | .error (expected, after) =>
    .error ⟨text.toList.take (text.toList.length - after.length), after, expected⟩

end OrderText
end Paging
