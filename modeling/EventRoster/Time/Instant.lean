import EventRoster.Time.Date
import EventRoster.Time.Duration

/-!
# Instants

An instant is a number of microseconds since the beginning of 1970.  Expiry hints are counted in
milliseconds; they become instants by way of the nearest binary64 number of seconds, and only those
of the years 1 to 9999 have a date.
-/

namespace EventRoster

/-- A date and the time on it, in universal time. -/
structure Moment where
  date : Date
  secondOfDay : Int
  micro : Int
deriving DecidableEq, Repr

/-- An instant, in microseconds since the beginning of 1970. -/
structure Instant where
  micros : Int
deriving DecidableEq, Repr

namespace Instant

/-- A natural number in decimal, with zeros in front up to a width. -/
def padded (width : Nat) (n : Int) : String :=
  let digits := Number.natChars n.natAbs
  String.ofList (List.replicate (width - digits.length) '0' ++ digits)

/-- The date and time of an instant. -/
def moment (t : Instant) : Moment :=
  let seconds := t.micros.fdiv Time.microsPerSecond
  let days := seconds.fdiv Time.secondsPerDay
  { date := Date.ofDays days
    secondOfDay := seconds - days * Time.secondsPerDay
    micro := t.micros - seconds * Time.microsPerSecond }

/-- The instant of a date and time. -/
def ofMoment (m : Moment) : Instant :=
  ⟨(m.date.toDays * Time.secondsPerDay + m.secondOfDay) * Time.microsPerSecond + m.micro⟩

end Instant

/-- A date and time in writing, to the microsecond. -/
def Moment.text (m : Moment) : String :=
  let hour := m.secondOfDay / 3600
  let minute := m.secondOfDay % 3600 / 60
  let second := m.secondOfDay % 60
  s!"{Instant.padded 4 m.date.year}-{Instant.padded 2 m.date.month}-{Instant.padded 2 m.date.day}" ++
    s!"T{Instant.padded 2 hour}:{Instant.padded 2 minute}:{Instant.padded 2 second}" ++
    s!".{Instant.padded 6 m.micro}+00:00"

namespace Instant

/-- Why a number of milliseconds has no date. -/
inductive Fault
  /-- The year has a number, but no dates. -/
  | yearOutOfRange (year : Int)
  /-- The year is too far off to be counted. -/
  | yearUncounted
  /-- The seconds are too many to be counted. -/
  | secondsUncounted
deriving DecidableEq, Repr

/-- The microseconds nearest to a number of seconds, a half going to the even neighbour. -/
def roundedMicros (negative : Bool) (seconds : Number.Magnitude) : Int :=
  Number.signed negative (Number.roundHalfEven (seconds.num * 1000000) seconds.den)

/-- The least year that is counted: years are 32-bit words from 1900 on. -/
def leastYear : Int := 1900 - 2147483648

/-- The greatest year that is counted. -/
def greatestYear : Int := 1900 + 2147483647

/-- A year the way it is told: as a 32-bit word, of which the years after 2147483647 wrap around. -/
def toldYear (year : Int) : Int :=
  Int.bmod year 4294967296

/-- The most seconds that are counted before 1970, and as many after: 2 to the power 63. -/
def secondBound : Int := 9223372036854775808

/-- The instant some milliseconds after the beginning of 1970.  The seconds have to be counted, and so
has their year, and the year has to have four digits. -/
def ofMillis (millis : Int) : Except Fault Instant :=
  match Number.Binary64.ofIntRatio millis 1000 with
  | .finite negative size =>
    let micros := roundedMicros negative size
    let seconds := micros.fdiv Time.microsPerSecond
    let year := (moment ⟨micros⟩).date.year
    if seconds < -secondBound ∨ secondBound < seconds then .error .secondsUncounted
    else if year < leastYear ∨ greatestYear < year then .error .yearUncounted
    else if year < 1 ∨ 9999 < year then .error (.yearOutOfRange (toldYear year))
    else .ok ⟨micros⟩
  | _ => .error .secondsUncounted

/-- A fault as a failure.  Years are counted by the operating system, which has a number for those
that it cannot. -/
def Fault.failure : Fault → Failure
  | yearOutOfRange year =>
    .ofRaised (.ofStandard .valueError s!"year {Number.intText year} is out of range")
  | yearUncounted =>
    .ofRaised (.ofErrno Failure.Errno.tooLarge "Value too large for defined data type")
  | secondsUncounted => .ofRaised (.ofStandard .overflowError "timestamp out of range")

end Instant

end EventRoster
