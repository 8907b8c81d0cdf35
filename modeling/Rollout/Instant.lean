import Rollout.Datum.Number

/-!
# Instants

An **instant** is a number of microseconds since the start of 1970, within the years 1 to 9999. It
is written as a date and a time of day in universal time, with six decimal places when it is not a
whole second.

Time that has passed is measured with a clock of limited precision: the **reading** of an instant
and the time between two readings have 53 significant bits each. Both are counted in **ticks**,
of which a second has 2 ^ 64, so that every reading is a whole number (`isLess_seconds`).
-/

namespace Rollout

/-- A point in time. -/
structure Instant where
  microseconds : Int
  deriving DecidableEq, Repr

namespace Instant

/-- The microseconds of one second. -/
def microsecondsPerSecond : Nat := 1000000

/-- The first second of the year 1. -/
def firstSecond : Int := -62135596800

/-- The last second of the year 9999. -/
def lastSecond : Int := 253402300799

/-- The instant this many microseconds later, if it is within the years. -/
def later? (t : Instant) (microseconds : Int) : Option Instant :=
  let sum := t.microseconds + microseconds
  let second := sum / microsecondsPerSecond
  if firstSecond ≤ second && second ≤ lastSecond then some ⟨sum⟩ else none

/-- The ticks of one second. -/
def ticksPerSecond : Nat := 1 <<< 64

/-- What a clock shows at the instant, in ticks since the start of 1970. -/
def reading (t : Instant) : Int :=
  nearestSigned53 (t.microseconds * ticksPerSecond) microsecondsPerSecond

/-- The ticks from an earlier instant to this one, by the clock. -/
def since (t earlier : Instant) : Int :=
  nearestSigned53 (t.reading - earlier.reading) 1

/-- The seconds of a number of ticks. -/
def seconds (ticks : Int) : Binary where
  negative := ticks < 0
  significand := ticks.natAbs
  exponent := -64

/-- Seconds are compared with a number of seconds in ticks. -/
theorem isLess_seconds (n ticks : Int) :
    (Number.whole n).isLess (.real (seconds ticks)) = decide (n * ticksPerSecond < ticks) := by
  have hsign : (seconds ticks).signed = ticks := by
    show (if decide (ticks < 0) = true then -(ticks.natAbs : Int) else ticks.natAbs) = ticks
    by_cases h : ticks < 0
    · rw [if_pos (decide_eq_true h)]
      omega
    · rw [if_neg (by simpa using h)]
      omega
  have hwhole : Dyadic.ofInt n = .ofIntWithPrec (n * ticksPerSecond) 64 := by
    have h := Dyadic.ofIntWithPrec_shiftLeft_add (x := n) (i := 0) (n := 64)
    rw [Int.shiftLeft_eq] at h
    exact h.symm
  show (Dyadic.ofInt n).blt (seconds ticks).toDyadic = _
  rw [hwhole, Binary.toDyadic, hsign]
  exact Number.blt_ofIntWithPrec ..

/-- The whole seconds of a number of ticks; what is left over is dropped, also before zero. -/
def wholeSeconds (ticks : Int) : Int :=
  ticks.tdiv ticksPerSecond

/-- The year, month and day that lie this many days after the start of 1970. Years are counted
from March in eras of 400, so that the leap day comes last. -/
def civilDate (days : Int) : Int × Int × Int :=
  let shifted := days + 719468
  let era := shifted / 146097
  let dayOfEra := shifted - era * 146097
  let yearOfEra :=
    (dayOfEra - dayOfEra / 1460 + dayOfEra / 36524 - dayOfEra / 146096) / 365
  let dayOfYear := dayOfEra - (365 * yearOfEra + yearOfEra / 4 - yearOfEra / 100)
  let monthFromMarch := (5 * dayOfYear + 2) / 153
  let day := dayOfYear - (153 * monthFromMarch + 2) / 5 + 1
  let month := if monthFromMarch < 10 then monthFromMarch + 3 else monthFromMarch - 9
  let year := yearOfEra + era * 400
  (if month ≤ 2 then year + 1 else year, month, day)

/-- A number with zeros before it up to the width. -/
def padded (width : Nat) (n : Int) : String :=
  let digits := toString n.toNat
  String.ofList (List.replicate (width - digits.length) '0') ++ digits

/-- The instant as it is written. -/
def isoText (t : Instant) : String :=
  let seconds := t.microseconds / microsecondsPerSecond
  let rest := t.microseconds % microsecondsPerSecond
  let (year, month, day) := civilDate (seconds / 86400)
  let time := seconds % 86400
  let date := ["-".intercalate [padded 4 year, padded 2 month, padded 2 day]]
  let clock := ":".intercalate
    [padded 2 (time / 3600), padded 2 (time / 60 % 60), padded 2 (time % 60)]
  let fraction := if rest = 0 then "" else "." ++ padded 6 rest
  "T".intercalate (date ++ [clock ++ fraction]) ++ "+00:00"

end Instant

end Rollout
