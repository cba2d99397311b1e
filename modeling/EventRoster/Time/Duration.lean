import EventRoster.Failure.Basic

/-!
# Durations

A duration is a whole number of microseconds, of either sign, up to a billion days.
-/

namespace EventRoster

namespace Time

/-- Microseconds in a second. -/
def microsPerSecond : Int := 1000000

/-- Seconds in a day. -/
def secondsPerDay : Int := 86400

/-- The greatest number of days, in size, that a duration starts with. -/
def dayLimit : Int := 999999999

/-- The shortest duration in microseconds: all its days are taken back. -/
def leastMicros : Int := -dayLimit * secondsPerDay * microsPerSecond

/-- The longest duration in microseconds: one microsecond less than a day more than the limit. -/
def greatestMicros : Int := (dayLimit + 1) * secondsPerDay * microsPerSecond - 1

end Time

open Time

/-- A duration. -/
structure Duration where
  micros : Int
  inRange : leastMicros ≤ micros ∧ micros ≤ greatestMicros
deriving DecidableEq, Repr

namespace Duration

/-- The duration of some microseconds, if there is one. -/
def ofMicros? (micros : Int) : Option Duration :=
  if h : leastMicros ≤ micros ∧ micros ≤ greatestMicros then some ⟨micros, h⟩ else none

/-- The duration of some microseconds. -/
def ofMicros (micros : Int) : Except Failure Duration :=
  match ofMicros? micros with
  | some d => .ok d
  | none => .error (.ofRaised (.ofStandard .overflowError "duration out of range"))

/-- The first number that is no 32-bit word. -/
def dayWordBound : Int := 2147483648

/-- Why a number of seconds is no duration.  Days that do not fit a 32-bit word are not named. -/
def rangeMessage (seconds : Int) : String :=
  let days := seconds.fdiv secondsPerDay
  if -dayWordBound ≤ days ∧ days < dayWordBound then
    s!"days={Number.intText days}; must have magnitude <= {Number.intText dayLimit}"
  else "Python int too large to convert to C int"

/-- The duration of some seconds, or why there is none. -/
def ofSeconds (seconds : Int) : Except String Duration :=
  match ofMicros? (seconds * microsPerSecond) with
  | some d => .ok d
  | none => .error (rangeMessage seconds)

/-- The whole milliseconds of a duration, rounded down. -/
def wholeMillis (d : Duration) : Int :=
  d.micros.fdiv 1000

/-- The seconds of a duration as a binary64 number. -/
def seconds (d : Duration) : Number.Binary64 :=
  Number.Binary64.ofIntRatio d.micros 1000000

/-- The whole seconds of a duration, the rest dropped, by way of a binary64 number. -/
def truncatedSeconds (d : Duration) : Int :=
  d.seconds.truncate?.getD 0

@[simp] theorem ofMicros?_micros (d : Duration) : ofMicros? d.micros = some d := by
  simp [ofMicros?, d.inRange]

theorem ofMicros?_eq_some_iff {micros : Int} {d : Duration} :
    ofMicros? micros = some d ↔ d.micros = micros := by
  constructor
  · intro h
    rw [ofMicros?] at h
    split at h
    · cases h
      rfl
    · cases h
  · rintro rfl
    exact ofMicros?_micros d

end Duration

end EventRoster
