/-
# Points in time

A timestamp is a second counted from the start of 1970 in universal time and the nanoseconds since
that second began. A leap second is counted as a second billion of nanoseconds in the last second
of a minute. The seconds run over the years from `-262143` to `262142`; the type holds nothing
else.
-/
import Paging.Time.Calendar

namespace Paging

/-- A point in time, to the nanosecond. -/
structure Timestamp where
  seconds : Int
  nanos : Nat
  inRange : (-8334601228800 ≤ seconds ∧ seconds ≤ 8210266876799) ∧
    nanos < 2000000000 ∧ (1000000000 ≤ nanos → seconds % 60 = 59)
  deriving DecidableEq, Repr

namespace Timestamp

/-- The timestamp with the given seconds and nanoseconds, if they are in range. -/
def ofUnix? (seconds : Int) (nanos : Nat) : Option Timestamp :=
  if h : (-8334601228800 ≤ seconds ∧ seconds ≤ 8210266876799) ∧
      nanos < 2000000000 ∧ (1000000000 ≤ nanos → seconds % 60 = 59) then
    some ⟨seconds, nanos, h⟩
  else none

/-- The start of 1970. -/
def epoch : Timestamp := ⟨0, 0, by decide⟩

instance : Inhabited Timestamp := ⟨epoch⟩

/-- The order in time: by seconds, then by nanoseconds. -/
def compare (a b : Timestamp) : Ordering :=
  (Ord.compare a.seconds b.seconds).then (Ord.compare a.nanos b.nanos)

/-- The timestamp `step` nanoseconds later, or the same one where that would leave the range. A
step may end in the leap second in which it begins; one that leads beyond it goes on from the
ordinary second before. -/
def later (t : Timestamp) (step : Int) : Timestamp :=
  let nanos : Int := t.nanos + step
  let inLeapSecond : Bool := decide (1000000000 ≤ t.nanos)
  if inLeapSecond ∧ 1000000000 ≤ nanos ∧ nanos < 2000000000 then
    (ofUnix? t.seconds nanos.toNat).getD t
  else
    let uncounted : Int := if inLeapSecond ∧ 0 ≤ step then 1 else 0
    (ofUnix? (t.seconds - uncounted + nanos / 1000000000) (nanos % 1000000000).toNat).getD t

/-- A timestamp is made again from its own seconds and nanoseconds. -/
@[simp] theorem ofUnix?_self (t : Timestamp) : ofUnix? t.seconds t.nanos = some t := by
  simp only [ofUnix?, dif_pos t.inRange]

/-- The range is that of the years `-262143` to `262142`. -/
example : Date.toDays ⟨-262143, 1, 1⟩ * 86400 = -8334601228800 ∧
    Date.toDays ⟨262142, 12, 31⟩ * 86400 + 86399 = 8210266876799 := by decide

/-- A second after the middle of a leap second, and half of that second. -/
example : later ⟨59, 1500000000, by decide⟩ 1000000000 = ⟨60, 500000000, by decide⟩ ∧
    later ⟨59, 1500000000, by decide⟩ 400000000 = ⟨59, 1900000000, by decide⟩ ∧
    later ⟨59, 999999999, by decide⟩ 1 = ⟨60, 0, by decide⟩ := by decide

end Timestamp
end Paging
