/-
# Clocks

A clock is read once for every document that is written. What it shows is a function of the number
of readings before, so a run of writes is a function of its clock. The clock here starts at a
given time and goes on by the same step after every reading.
-/
import Paging.Time.Timestamp

namespace Paging

/-- A clock that goes on by `step` nanoseconds after every reading. -/
structure Clock where
  now : Timestamp
  step : Int
  deriving DecidableEq, Repr

namespace Clock

/-- What the clock shows after some readings. -/
def reading (c : Clock) : Nat → Timestamp
  | 0 => c.now
  | n + 1 => (c.reading n).later c.step

/-- The clock after some readings. -/
def advance (c : Clock) (n : Nat) : Clock :=
  ⟨c.reading n, c.step⟩

end Clock
end Paging
