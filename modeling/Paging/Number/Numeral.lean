/-
# Numbers as written

A numeral is a number in decimal notation, kept as it is written: a sign, the digits before the
point, those behind it, and an exponent. Two numerals for the same number are different, since a
text must come back as it was; what a numeral is worth is asked of it as an integer or as a
floating-point number.
-/
import Paging.Number.Binary64
import Paging.Text.Digits

namespace Paging

/-- The sign in front of an exponent. -/
inductive ExponentSign
  | absent
  | plus
  | minus
  deriving DecidableEq, Repr

/-- A number in decimal notation. -/
structure Numeral where
  negative : Bool
  /-- The digits before the point. -/
  whole : List Char
  /-- The digits behind the point; without any there is no point. -/
  fraction : List Char
  exponent : Option (ExponentSign × List Char)
  deriving DecidableEq, Repr

namespace Numeral

/-- The text of an exponent sign. -/
def signText : ExponentSign → List Char
  | .absent => []
  | .plus => ['+']
  | .minus => ['-']

/-- The text of a numeral. -/
def text (n : Numeral) : List Char :=
  let sign := if n.negative then ['-'] else []
  let point := if n.fraction.isEmpty then [] else '.' :: n.fraction
  let exponent :=
    match n.exponent with
    | some (sign, digits) => 'e' :: signText sign ++ digits
    | none => []
  sign ++ n.whole ++ point ++ exponent

/-- The numeral of an integer. -/
def ofInt : Int → Numeral
  | .ofNat n => ⟨false, Text.natural n, [], none⟩
  | .negSucc n => ⟨true, Text.natural (n + 1), [], none⟩

/-- The integer that a numeral denotes. A point or an exponent makes a numeral no integer, and so
does a sign before zero. -/
def toInt? (n : Numeral) : Option Int :=
  if n.fraction.isEmpty ∧ n.exponent.isNone then
    let v := Text.value n.whole
    if n.negative then (if v = 0 then none else some (-(v : Int))) else some v
  else none

/-- The integer of 64 bits that a numeral denotes. -/
def toInt64? (n : Numeral) : Option Int64 :=
  n.toInt?.bind fun i =>
    if -9223372036854775808 ≤ i ∧ i < 9223372036854775808 then some (Int64.ofInt i) else none

/-- The natural number of 64 bits that a numeral denotes. -/
def toUInt64? (n : Numeral) : Option UInt64 :=
  n.toInt?.bind fun i =>
    if 0 ≤ i ∧ i < 18446744073709551616 then some (UInt64.ofNat i.toNat) else none

/-- The power of ten that the exponent of a numeral stands for. -/
def tens (n : Numeral) : Int :=
  match n.exponent with
  | some (.minus, digits) => -(Text.value digits : Int)
  | some (_, digits) => Text.value digits
  | none => 0

/-- The floating-point number nearest to a numeral; `none` beyond the finite numbers. -/
def toBinary64? (n : Numeral) : Option Binary64 :=
  Binary64.ofDecimal? n.negative (Text.value (n.whole ++ n.fraction)) (n.tens - n.fraction.length)

end Numeral
end Paging
