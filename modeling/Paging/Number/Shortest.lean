/-
# The shortest decimal of a floating-point number

A finite number is written with the fewest significant digits that read back as the same number,
and among those with the decimal nearest to it. `shortest` looks for them grid by grid: with one
digit, with two, and so on, it tries the two neighbours of the number on the grid of that many
digits. The number lies on the finest of these grids, so the search ends.

A `Style` fixes what different formats decide differently: where positional notation ends, whether
a whole number keeps a point, how an exponent is written, and which of two equally near decimals
is taken.
-/
import Paging.Number.Numeral

namespace Paging

/-- A decimal in scientific form: the first digit counts `10 ^ lead`, each further one a tenth of
the one before. -/
structure Scientific where
  digits : List Char
  lead : Int
  deriving DecidableEq, Repr

/-- Which of two equally near decimals stands for the number between them. -/
inductive Tie
  /-- The one with an even last digit. -/
  | even
  /-- The one with the larger absolute value. -/
  | away
  deriving DecidableEq, Repr

/-- How a format writes floating-point numbers. -/
structure Style where
  tie : Tie
  /-- The leading powers of ten that are written without an exponent. -/
  positional : Int → Bool
  /-- Whether a whole number in positional notation ends in `.0`. -/
  pointZero : Bool
  /-- Whether a positive exponent carries a sign. -/
  exponentPlus : Bool

namespace Binary64

/-- The absolute value of a finite number as a quotient of natural numbers. -/
def quotient (x : Binary64) : Nat × Nat :=
  match x.exponent with
  | .ofNat e => (x.significand * Nat.pow 2 e, 1)
  | .negSucc e => (x.significand, Nat.pow 2 (e + 1))

/-- The largest `k` with `10 ^ k ≤ num / den`, for positive `num` and `den`. -/
def log10Ratio (num den : Nat) : Int :=
  if den ≤ num then (Nat.toDigits 10 (num / den)).length - 1
  else -((Nat.toDigits 10 ((den - 1) / num)).length : Int)

/-- The integer part of `num / den · 10 ^ places` and twice what is left of it, over `den`. -/
def scaled (num den : Nat) : Int → Nat × Nat × Nat
  | .ofNat p => (num * Nat.pow 10 p / den, 2 * (num * Nat.pow 10 p % den), den)
  | .negSucc p =>
    let unit := den * Nat.pow 10 (p + 1)
    (num / unit, 2 * (num % unit), unit)

/-- The magnitude that `count / 10 ^ places` is read as. -/
def readsAs (count : Nat) : Int → Nat
  | .ofNat p => nearest count (Nat.pow 10 p)
  | .negSucc p => nearest (count * Nat.pow 10 (p + 1)) 1

/-- Of the grid points `below` and `below + 1`, the one nearer to the number; `rest` is twice its
distance from the lower one, in units of `1 / unit`. -/
def nearer (tie : Tie) (below rest unit : Nat) : Nat :=
  if rest < unit then below
  else if unit < rest then below + 1
  else
    match tie with
    | .even => below + below % 2
    | .away => below + 1

/-- The coarsest grid from `places` on with a point that reads back as `target`: the point, counted
in grid steps, and the number of places. After `steps` finer grids the lower neighbour is taken. -/
def searchGrid (tie : Tie) (target num den : Nat) : Nat → Int → Nat × Int
  | 0, places => ((scaled num den places).1, places)
  | steps + 1, places =>
    let (below, rest, unit) := scaled num den places
    match decide (readsAs below places = target), decide (readsAs (below + 1) places = target) with
    | true, true => (nearer tie below rest unit, places)
    | true, false => (below, places)
    | false, true => (below + 1, places)
    | false, false => searchGrid tie target num den steps (places + 1)

/-- The digits of the shortest decimal of the absolute value of a finite number. -/
def shortest (tie : Tie) (x : Binary64) : Scientific :=
  if x.magnitude = 0 then ⟨['0'], 0⟩
  else
    let (num, den) := x.quotient
    let coarsest := -log10Ratio num den
    let (count, places) := searchGrid tie x.magnitude num den (1074 - coarsest).toNat coarsest
    let digits := Text.natural count
    ⟨(digits.reverse.dropWhile (· = '0')).reverse, digits.length - 1 - places⟩

end Binary64

namespace Scientific

/-- The numeral without an exponent, padded with zeros up to the point. -/
def positional (pointZero negative : Bool) (s : Scientific) : Numeral :=
  match s.lead with
  | .negSucc k => ⟨negative, ['0'], List.replicate k '0' ++ s.digits, none⟩
  | .ofNat k =>
    if s.digits.length ≤ k + 1 then
      ⟨negative, s.digits ++ List.replicate (k + 1 - s.digits.length) '0',
        if pointZero then ['0'] else [], none⟩
    else ⟨negative, s.digits.take (k + 1), s.digits.drop (k + 1), none⟩

/-- The numeral with one digit before the point and an exponent. -/
def exponential (exponentPlus negative : Bool) (s : Scientific) : Numeral :=
  let sign := if s.lead < 0 then .minus else if exponentPlus then .plus else .absent
  ⟨negative, s.digits.take 1, s.digits.drop 1, some (sign, Text.natural s.lead.natAbs)⟩

/-- The numeral of a decimal in a style. -/
def numeral (style : Style) (negative : Bool) (s : Scientific) : Numeral :=
  if style.positional s.lead then s.positional style.pointZero negative
  else s.exponential style.exponentPlus negative

end Scientific

namespace Binary64

/-- The numeral of a finite number in a style. Negative zero has a sign. -/
def numeral (style : Style) (x : Binary64) : Numeral :=
  (x.shortest style.tie).numeral style x.isNegative

/-- The text of a number in a style. -/
def text (style : Style) (x : Binary64) : List Char :=
  if x.isNaN then "NaN".toList
  else if x.isFinite then (x.numeral style).text
  else if x.isNegative then "-inf".toList
  else "inf".toList

/-- Positional notation throughout, without a point in whole numbers. -/
def plain : Style := ⟨.away, fun _ => true, false, false⟩

/-- A tenth, the least positive number, and a number halfway between two decimals of 17 digits,
which the two ties settle differently. -/
example : (⟨0x3fb999999999999a⟩ : Binary64).shortest .even = ⟨['1'], -1⟩ ∧
    (⟨1⟩ : Binary64).shortest .even = ⟨['5'], -324⟩ ∧
    (⟨0x4310000000000001⟩ : Binary64).text plain = "1125899906842624.3".toList ∧
    (⟨0x4310000000000001⟩ : Binary64).shortest .even = ⟨"11258999068426242".toList, 15⟩ := by
  decide +kernel

end Binary64
end Paging
