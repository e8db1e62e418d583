/-
# Dates and times as text

A timestamp is written as `YYYY-MM-DDThh:mm:ss`, a fraction of the second, and the offset from
universal time, which is always zero. The fraction has three, six or nine digits, as few as are
exact, and is left out when it is zero. Years outside `0` to `9999` carry a sign and at least four
digits, and a leap second is written as second `60`.

Reading is more liberal: any offset of less than a day, a fraction of any length (digits after the
ninth are dropped), one digit where two are written, blanks between the parts, a blank instead of
the `T`, and `Z`, `UTC` or digits for the offset. The result is the same point in universal time.
-/
import Paging.Time.Timestamp
import Paging.Text.Digits

namespace Paging
namespace Rfc3339

/-- The digits of a year, with a sign outside `0` to `9999`. -/
def yearText (year : Int) : List Char :=
  let digits := Text.padded 4 year.natAbs
  if year < 0 then '-' :: digits
  else if 9999 < year then '+' :: digits
  else digits

/-- The fraction of a second with its point, as short as is exact. -/
def fractionText (nanos : Nat) : List Char :=
  if nanos = 0 then []
  else if nanos % 1000000 = 0 then '.' :: Text.padded 3 (nanos / 1000000)
  else if nanos % 1000 = 0 then '.' :: Text.padded 6 (nanos / 1000)
  else '.' :: Text.padded 9 nanos

/-- The date, the time of day and the fraction of a timestamp, without an offset. -/
def localText (t : Timestamp) : List Char :=
  let date := Date.ofDays (t.seconds / 86400)
  let secondOfDay := (t.seconds % 86400).toNat
  let leap := t.nanos / 1000000000
  yearText date.year ++ '-' :: Text.padded 2 date.month ++ '-' :: Text.padded 2 date.day
    ++ 'T' :: Text.padded 2 (secondOfDay / 3600) ++ ':' :: Text.padded 2 (secondOfDay / 60 % 60)
    ++ ':' :: Text.padded 2 (secondOfDay % 60 + leap) ++ fractionText (t.nanos % 1000000000)

/-- A timestamp with `Z` for its offset. -/
def zulu (t : Timestamp) : List Char :=
  localText t ++ ['Z']

/-- A timestamp with `+00:00` for its offset. -/
def numeric (t : Timestamp) : List Char :=
  localText t ++ "+00:00".toList

/-- The characters that separate words, in every script. -/
def isBlank (c : Char) : Bool :=
  let n := c.toNat
  (decide (9 ≤ n) && decide (n ≤ 13)) || n == 32 || n == 0x85 || n == 0xa0 || n == 0x1680
    || (decide (0x2000 ≤ n) && decide (n ≤ 0x200a)) || n == 0x2028 || n == 0x2029 || n == 0x202f
    || n == 0x205f || n == 0x3000

/-- The text after its leading blanks. -/
def skipBlanks (text : List Char) : List Char :=
  text.dropWhile isBlank

/-- A run of one to `most` digits, its value and what follows it. -/
def digits? (most : Nat) (text : List Char) : Option (Nat × List Char) :=
  let run := (text.take most).takeWhile Char.isDigit
  if run.isEmpty then none else some (Text.value run, text.drop run.length)

/-- One expected character after blanks, and what follows it. -/
def expect? (c : Char) (text : List Char) : Option (List Char) :=
  match skipBlanks text with
  | d :: rest => if d = c then some rest else none
  | [] => none

/-- A year: four digits at most, or a sign and any number of digits. -/
def year? (text : List Char) : Option (Int × List Char) :=
  match skipBlanks text with
  | '-' :: rest => (digits? rest.length rest).map fun (n, rest) => (-(n : Int), rest)
  | '+' :: rest => (digits? rest.length rest).map fun (n, rest) => ((n : Int), rest)
  | rest => (digits? 4 rest).map fun (n, rest) => ((n : Int), rest)

/-- A number of at most two digits after blanks. -/
def pair? (text : List Char) : Option (Nat × List Char) :=
  digits? 2 (skipBlanks text)

/-- A fraction of a second in nanoseconds; no point means no fraction. -/
def fraction? (text : List Char) : Option (Nat × List Char) :=
  match text with
  | '.' :: rest => do
    let (n, after) ← digits? 9 rest
    let used := rest.length - after.length
    pure (n * Nat.pow 10 (9 - used), after.dropWhile Char.isDigit)
  | rest => some (0, rest)

/-- The digits of an offset, in seconds: two for the hours, then colons or blanks, and two for the
minutes. -/
def clockOffset? (text : List Char) : Option (Int × List Char) :=
  match text with
  | h₁ :: h₂ :: rest =>
    if h₁.isDigit ∧ h₂.isDigit then
      match rest.dropWhile (fun c => c = ':' || isBlank c) with
      | m₁ :: m₂ :: rest =>
        if m₁.isDigit ∧ m₂.isDigit ∧ m₁.toNat < '6'.toNat then
          some (Text.value [h₁, h₂] * 3600 + Text.value [m₁, m₂] * 60, rest)
        else none
      | _ => none
    else none
  | _ => none

/-- An offset in seconds east of universal time. -/
def offset? (text : List Char) : Option (Int × List Char) :=
  match text with
  | 'Z' :: rest | 'z' :: rest => some (0, rest)
  | '+' :: rest => clockOffset? rest
  | '-' :: rest | '−' :: rest => (clockOffset? rest).map fun (s, rest) => (-s, rest)
  | u :: t :: c :: rest =>
    if u.toUpper = 'U' ∧ t.toUpper = 'T' ∧ c.toUpper = 'C' then some (0, rest) else none
  | _ => none

/-- The timestamp of a date and a time of day, some seconds east of universal time. -/
def assemble? (date : Date) (hour minute second nanos : Nat) (offset : Int) : Option Timestamp :=
  if date.isValid ∧ -262143 ≤ date.year ∧ date.year ≤ 262142 ∧ hour < 24 ∧ minute < 60 ∧ second ≤ 60
      ∧ -86400 < offset ∧ offset < 86400 then
    let leap := second / 60
    let ofDay : Int := hour * 3600 + minute * 60 + second - leap
    Timestamp.ofUnix? (date.toDays * 86400 + ofDay - offset) (nanos + leap * 1000000000)
  else none

/-- The timestamp that a text denotes. -/
def read? (text : List Char) : Option Timestamp := do
  let (year, rest) ← year? text
  let (month, rest) ← (expect? '-' rest).bind pair?
  let (day, rest) ← (expect? '-' rest).bind pair?
  let rest ←
    match rest with
    | c :: rest => if c = 'T' ∨ c = 't' ∨ c = ' ' then some rest else none
    | [] => none
  let (hour, rest) ← pair? rest
  let (minute, rest) ← (expect? ':' rest).bind pair?
  let (second, rest) ← (expect? ':' rest).bind pair?
  let (nanos, rest) ← fraction? rest
  let (offset, rest) ← offset? (skipBlanks rest)
  if (skipBlanks rest).isEmpty then
    assemble? ⟨year, month, day⟩ hour minute second nanos offset
  else none

/-- The spellings of one point in time, and a leap second. -/
example : (read? "2023-11-14T22:13:20Z".toList).map (·.seconds) = some 1700000000 ∧
    (read? " 2023 - 11-14 22:13:20.0 +02:30".toList).map (·.seconds) = some 1699991000 ∧
    (read? "2016-12-31T23:59:60.5z".toList).map (fun t => (t.seconds, t.nanos)) =
      some (1483228799, 1500000000) ∧
    read? "2023-02-29T00:00:00Z".toList = none := by decide +kernel

end Rfc3339
end Paging
