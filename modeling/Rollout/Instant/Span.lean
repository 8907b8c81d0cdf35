import Rollout.Datum.Access
import Rollout.Instant

/-!
# Spans of time from outside

A **span** of time is given in milliseconds and counted in microseconds. The fraction of a
millisecond is turned into microseconds as a binary number, and what is left of a microsecond is
rounded, a half to the even one. A span has at most 999,999,999 whole days, and it leads from one
instant to another only within the years of instants.
-/

namespace Rollout

/-- A span of time. -/
structure Span where
  microseconds : Int
  deriving DecidableEq, Repr

namespace Span

/-- The microseconds of one millisecond. -/
def microsecondsPerMillisecond : Int := 1000

/-- The microseconds of one day. -/
def microsecondsPerDay : Int := 86400000000

/-- The most whole days of a span. -/
def mostDays : Int := 999999999

/-- The greatest number of days that is counted. -/
def countedDays : Int := 2147483647

/-- The microseconds of a number of milliseconds with a fraction. -/
def roundMilliseconds (b : Binary) : Int :=
  let fraction := Binary.ofDyadic? (b.fractionPart.mul (.ofInt microsecondsPerMillisecond))
  nearestInteger ((Dyadic.ofInt (b.integerPart * microsecondsPerMillisecond)).add
    ((fraction.map Binary.toDyadic).getD .zero))

/-- The microseconds of a number of milliseconds. -/
def readMilliseconds : Datum → Except Fault Int
  | .int n => .ok (n * microsecondsPerMillisecond)
  | .bool b => .ok (if b then microsecondsPerMillisecond else 0)
  | .real b => .ok (roundMilliseconds b)
  | .infinite _ => .error .infiniteNumber
  | .notANumber => .error .notANumber
  | value => .error (.span (.noTime value.kind))

/-- The span of a number of milliseconds. -/
def ofMilliseconds (value : Datum) : Except Fault Span := do
  let microseconds ← readMilliseconds value
  let days := microseconds / microsecondsPerDay
  if days < -countedDays - 1 || countedDays < days then throw (.span .uncounted)
  if days < -mostDays || mostDays < days then throw (.span (.tooLong days))
  return ⟨microseconds⟩

end Span

/-- The instant at the end of a span that starts at this one. -/
def Instant.after (t : Instant) (span : Span) : Except Fault Instant :=
  match t.later? span.microseconds with
  | some later => .ok later
  | none => .error (.span .outOfYears)

end Rollout
