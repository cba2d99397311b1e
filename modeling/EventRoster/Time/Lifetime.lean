import EventRoster.Time.Duration

/-!
# Lifetimes in seconds

A row of the wide-column store lives for a whole number of seconds.  A requested duration is rounded
up to the next second and brought into range; it is never refused.
-/

namespace EventRoster.Lifetime

/-- The shortest lifetime in seconds. -/
def least : Int := 1

/-- The longest lifetime in seconds, 365 days. -/
def greatest : Int := 365 * Time.secondsPerDay

/-- The seconds of a duration, rounded up.  The quotient is taken as a binary64 number first. -/
def ceilSeconds (d : Duration) : Int :=
  d.seconds.ceil?.getD 0

/-- A number brought into a range. -/
def bounded (minimum maximum n : Int) : Int :=
  max minimum (min n maximum)

/-- The seconds of a duration, rounded up and brought into a range, which must not be empty. -/
def toSeconds (d : Duration) (minimum maximum : Int) : Except Failure Int :=
  if maximum < minimum then
    .error (.ofRaised (.ofStandard .valueError
      s!"minimum ({Number.intText minimum}) must not exceed maximum ({Number.intText maximum})"))
  else .ok (bounded minimum maximum (ceilSeconds d))

/-- The lifetime in seconds that a duration asks for. -/
def clampSeconds (d : Duration) : Int :=
  bounded least greatest (ceilSeconds d)

/-- A lifetime is in range. -/
theorem clampSeconds_mem (d : Duration) : least ≤ clampSeconds d ∧ clampSeconds d ≤ greatest := by
  simp only [clampSeconds, bounded, least, greatest, Time.secondsPerDay]
  omega

/-- The lifetime that a duration asks for, as a duration. -/
def clamp (d : Duration) : Duration :=
  ⟨clampSeconds d * Time.microsPerSecond, by
    have h := clampSeconds_mem d
    simp only [least, greatest, Time.secondsPerDay] at h
    simp only [Time.leastMicros, Time.greatestMicros, Time.microsPerSecond, Time.secondsPerDay,
      Time.dayLimit]
    omega⟩

/-- The lifetime of a duration is a case of the general conversion. -/
theorem toSeconds_least_greatest (d : Duration) :
    toSeconds d least greatest = .ok (clampSeconds d) := by
  simp [toSeconds, clampSeconds, least, greatest, Time.secondsPerDay]

end EventRoster.Lifetime
