import EventRoster.Proofs.Number.Nearest
import EventRoster.Proofs.Time.Date
import EventRoster.Subscription
import Mathlib.Data.Nat.Prime.Basic

/-!
# Expiry hints as dates

A hint counts milliseconds.  On the way to a date its seconds are rounded to the nearest binary64 number, and
that number to the nearest microsecond.  In the years 1 to 9999 the numbers are close enough together to keep
all milliseconds apart.  They are too far apart for the second rounding always to undo the first.

* `Instant.moment_eq_iff`, `Instant.hasDate_iff`: dates and times as instants, and which of them have one.
* `Instant.Strays`: the hints that do not come back, and `Strays.far`: how far from 1970 they are.
* `Instant.micros_of_units`: what is left of the first rounding after the second.
* `Instant.exists_ofMillis`: every hint whose instant has a date is converted, and to which instant.
* `Subscription.expiry_eq_iff_not_strays`: what follows for the hint of a subscription.
-/

namespace EventRoster

open EventRoster.Number Magnitude

/-! ## Dates and times -/

/-- The date is on the calendar and the time on the clock. -/
structure Moment.IsProper (m : Moment) : Prop where
  date : m.date.IsProper
  second : 0 ≤ m.secondOfDay ∧ m.secondOfDay < Time.secondsPerDay
  micro : 0 ≤ m.micro ∧ m.micro < Time.microsPerSecond

namespace Instant

/-- **The date and time of an instant are the one date and time, on the calendar and on the clock, of that
instant.** -/
theorem moment_eq_iff {t : Instant} {m : Moment} : t.moment = m ↔ m.IsProper ∧ ofMoment m = t := by
  constructor
  · rintro rfl
    obtain ⟨micros⟩ := t
    obtain ⟨proper, sameDay⟩ := Date.ofDays_eq_iff.mp
      (rfl : _ = Date.ofDays ((micros.fdiv Time.microsPerSecond).fdiv Time.secondsPerDay))
    simp (disch := decide) only [moment, ofMoment, Int.fdiv_eq_ediv_of_nonneg] at *
    refine ⟨⟨proper, ?_, ?_⟩, ?_⟩
    · simp only [Time.microsPerSecond, Time.secondsPerDay]
      omega
    · simp only [Time.microsPerSecond]
      omega
    · rw [sameDay]
      congr 1
      simp only [Time.microsPerSecond, Time.secondsPerDay]
      omega
  · rintro ⟨⟨proper, second, micro⟩, rfl⟩
    obtain ⟨date, seconds, micros⟩ := m
    simp only [Time.microsPerSecond, Time.secondsPerDay] at proper second micro
    have whole : ((date.toDays * 86400 + seconds) * 1000000 + micros) / 1000000 =
        date.toDays * 86400 + seconds := by omega
    have day : (date.toDays * 86400 + seconds) / 86400 = date.toDays := by omega
    simp (disch := decide) only [moment, ofMoment, Int.fdiv_eq_ediv_of_nonneg, Time.microsPerSecond,
      Time.secondsPerDay, whole, day, Date.ofDays_eq_iff.mpr ⟨proper, rfl⟩, Moment.mk.injEq, true_and]
    omega

/-- The instant has a date that is written with a year of four digits. -/
def HasDate (t : Instant) : Prop :=
  1 ≤ t.moment.date.year ∧ t.moment.date.year ≤ 9999

/-- The years 1 to 9999 are one interval of instants. -/
theorem hasDate_iff {t : Instant} :
    t.HasDate ↔ -62135596800000000 ≤ t.micros ∧ t.micros < 253402300800000000 := by
  have first : Date.toDays ⟨1, 1, 1⟩ = -719162 := by decide
  have past : Date.toDays ⟨10000, 1, 1⟩ = 2932897 := by decide
  have last (year : Int) : year ≤ 9999 ↔ ¬10000 ≤ year := by omega
  simp (disch := decide) only [HasDate, last, moment, Date.le_year_ofDays_iff, first, past,
    Int.fdiv_eq_ediv_of_nonneg, Time.microsPerSecond, Time.secondsPerDay]
  omega

/-! ## Seconds in microseconds -/

section Micros

variable {negative : Bool} {seconds : Magnitude}

theorem signedRatio_natCast (negative : Bool) (n : Nat) :
    signedRatio negative n = (signed negative n : Int) := by
  cases negative <;> simp [signedRatio, signed]

/-- The seconds in microseconds, as the ratio of integers that is rounded. -/
theorem signedValue_mul (negative : Bool) (seconds : Magnitude) :
    Binary64.signedValue negative seconds * 1000000 =
      signedRatio negative ((seconds.num * 1000000 : Nat) / seconds.den) := by
  cases negative <;> simp [Binary64.signedValue, signedRatio, Magnitude.value] <;> ring

/-- The distance of the microseconds from the seconds is that of an integer from the ratio that it is the
nearest to. -/
theorem abs_roundedMicros_sub (negative : Bool) (seconds : Magnitude) :
    |(roundedMicros negative seconds : ℚ) - Binary64.signedValue negative seconds * 1000000| =
      |(roundHalfEven (seconds.num * 1000000) seconds.den : ℚ) -
        (seconds.num * 1000000 : Nat) / seconds.den| := by
  rw [roundedMicros, ← signedRatio_natCast, signedValue_mul, abs_signedRatio_sub]

theorem abs_roundedMicros_sub_le (negative : Bool) (seconds : Magnitude) :
    |(roundedMicros negative seconds : ℚ) - Binary64.signedValue negative seconds * 1000000| ≤
      1 / 2 := by
  rw [abs_roundedMicros_sub]
  exact abs_roundHalfEven_sub_le _ seconds.den_pos

/-- Half a microsecond goes to the even neighbour. -/
theorem even_roundedMicros
    (tie : |(roundedMicros negative seconds : ℚ) -
      Binary64.signedValue negative seconds * 1000000| = 1 / 2) :
    Even (roundedMicros negative seconds) := by
  rw [abs_roundedMicros_sub] at tie
  have even := even_roundHalfEven seconds.den_pos tie
  cases negative <;> simpa [roundedMicros, signed] using even

end Micros

/-! ## Hints that are not exact -/

/-- The instant that is exactly some milliseconds after the beginning of 1970. -/
def exactly (millis : Int) : Instant :=
  ⟨millis * 1000⟩

/-- How far a number is from the nearest multiple of a thousand. -/
def offset (n : Int) : Int :=
  min (n % 1000) (1000 - n % 1000)

/-- The seconds of a hint are too far from the nearest binary64 number for its milliseconds to come back.
The numbers there are `2 ^ -t` apart, where the whole seconds, without their sign, have `53 - t` bits; what
is rounded off is the offset from a multiple of a thousand, in thousandths of that; and half a microsecond
is too far. -/
def Strays (millis : Int) : Prop :=
  let t := 52 - Nat.log2 (millis.natAbs / 1000)
  2 ^ t < 2000 * offset (millis * 2 ^ t)

instance (millis : Int) : Decidable (Strays millis) :=
  inferInstanceAs (Decidable (_ < _))

theorem offset_le (n : Int) : offset n ≤ 500 := by
  simp only [offset]
  omega

/-- The nearest multiple of a thousand is that far away. -/
theorem abs_sub_eq_offset {j n : Int} (near : |1000 * j - n| ≤ 500) : |1000 * j - n| = offset n := by
  obtain ⟨above, under⟩ := abs_le.mp near
  rw [offset]
  rcases abs_cases (1000 * j - n) with ⟨size, sign⟩ | ⟨size, sign⟩ <;> rw [size] <;> omega

/-- Only hints of more than 272 years before or after 1970 stray. -/
theorem Strays.far {millis : Int} (strays : Strays millis) : 2 ^ 33 * 1000 ≤ millis.natAbs := by
  have most := offset_le (millis * 2 ^ (52 - Nat.log2 (millis.natAbs / 1000)))
  have coarse : (2 : Int) ^ (52 - Nat.log2 (millis.natAbs / 1000)) < 2 ^ 20 := by
    rw [Strays] at strays
    omega
  have bits : 33 ≤ Nat.log2 (millis.natAbs / 1000) := by
    have := (pow_lt_pow_iff_right₀ (show (1 : Int) < 2 by decide)).mp coarse
    omega
  have whole : millis.natAbs / 1000 ≠ 0 := by
    intro none
    rw [none] at bits
    exact absurd bits (by decide)
  have least : 2 ^ 33 ≤ millis.natAbs / 1000 :=
    calc 2 ^ 33 ≤ 2 ^ Nat.log2 (millis.natAbs / 1000) := Nat.pow_le_pow_right (by decide) bits
      _ ≤ millis.natAbs / 1000 := Nat.log2_self_le whole
  omega

/-- **The numbers of seconds around a hint with a date** are less than `2 ^ -14` seconds apart, and by how
much decides whether it strays. -/
theorem exists_unit {millis : Int} (dated : (exactly millis).HasDate) :
    ∃ t : Nat, 15 ≤ t ∧ startExponent |(millis : ℚ) / (1000 : Nat)| = -t ∧
      (Strays millis ↔ 2 ^ t < 2000 * offset (millis * 2 ^ t)) := by
  have range := hasDate_iff.mp dated
  simp only [exactly] at range
  rcases eq_or_ne (millis.natAbs / 1000) 0 with none | whole
  · have fine := @startExponent_intCast_div_le millis 1000 (by omega)
    obtain ⟨t, ht⟩ : ∃ t : Nat, startExponent |(millis : ℚ) / (1000 : Nat)| = -t :=
      ⟨(-startExponent |(millis : ℚ) / (1000 : Nat)|).toNat, by omega⟩
    refine ⟨t, by omega, ht, fun strays => ?_, fun strays => ?_⟩
    · have := strays.far
      omega
    · have := offset_le (millis * 2 ^ t)
      have : (2 : Int) ^ 20 ≤ 2 ^ t := pow_le_pow_right₀ (by decide) (by omega)
      omega
  · have bits : Nat.log2 (millis.natAbs / 1000) < 38 := (Nat.log2_lt whole).mpr (by omega)
    refine ⟨52 - Nat.log2 (millis.natAbs / 1000), by omega, ?_, Iff.rfl⟩
    rw [startExponent_intCast_div whole]
    omega

/-- **Two roundings in a row.**  Seconds are rounded to a whole number `j` of units of which `size` make a
second, and those to microseconds.  What the first rounding takes off, half a unit at most, shows in the
microseconds if it is more than the second one puts right. -/
theorem micros_of_units {millis j micros size : Int} (fine : 2 ^ 15 ≤ size)
    (near : |1000 * j - millis * size| ≤ 500) (half : |2 * (micros * size - 1000000 * j)| ≤ size) :
    |micros - millis * 1000| ≤ 15 ∧
      (2000 * offset (millis * size) < size → micros = millis * 1000) ∧
      (micros = millis * 1000 → 2000 * offset (millis * size) ≤ size) := by
  rw [← abs_sub_eq_offset near]
  -- By `e` thousandths of a unit the first rounding is off, by `d` microseconds both together.
  obtain ⟨d, hd⟩ : ∃ d, d = micros - millis * 1000 := ⟨_, rfl⟩
  obtain ⟨e, he⟩ : ∃ e, e = 1000 * j - millis * size := ⟨_, rfl⟩
  have total : 2 * (micros * size - 1000000 * j) = 2 * (d * size) - 2000 * e := by
    rw [hd, he]
    ring
  have same : micros = millis * 1000 ↔ d = 0 := by omega
  rw [← he] at near ⊢
  rw [total] at half
  rw [same, ← hd]
  obtain ⟨under, above⟩ := abs_le.mp half
  obtain ⟨low, high⟩ := abs_le.mp near
  refine ⟨?_, fun little => ?_, ?_⟩
  · rw [abs_le]
    constructor <;> nlinarith
  · have low := neg_abs_le e
    have high := le_abs_self e
    refine Int.abs_lt_one_iff.mp (abs_lt.mpr ?_)
    constructor <;> nlinarith
  · rintro rfl
    rcases abs_cases e with ⟨sign, -⟩ | ⟨sign, -⟩ <;> omega

/-- Hints with a date are less than `2 ^ 38` seconds. -/
theorem abs_seconds_lt {millis : Int} (dated : (exactly millis).HasDate) :
    |(millis : ℚ) / (1000 : Nat)| < 2 ^ (38 : Int) := by
  have range := hasDate_iff.mp dated
  simp only [exactly] at range
  rw [abs_intCast_div, div_lt_iff₀ (by norm_num)]
  exact_mod_cast (show millis.natAbs < 2 ^ 38 * 1000 by omega)

section Scale

variable {j : Int} {t : Nat}

theorem abs_mul_le {c a b : ℚ} (positive : 0 < c) (h : |a| ≤ b) : |c * a| ≤ c * b := by
  rw [abs_mul, abs_of_pos positive]
  gcongr

/-- What the first rounding takes off, in thousandths of a unit: half of a unit at most. -/
theorem thousandths_of_near {millis : Int}
    (near : |(j : ℚ) * (2 ^ t)⁻¹ - millis / (1000 : Nat)| ≤ (2 ^ t)⁻¹ / 2) :
    |1000 * j - millis * 2 ^ t| ≤ 500 := by
  have scaled := abs_mul_le (show (0 : ℚ) < 1000 * 2 ^ t by positivity) near
  have left : 1000 * 2 ^ t * ((j : ℚ) * (2 ^ t)⁻¹ - millis / (1000 : Nat)) =
      (1000 * j - millis * 2 ^ t : Int) := by
    push_cast
    field_simp
  have right : 1000 * (2 : ℚ) ^ t * ((2 ^ t)⁻¹ / 2) = 500 := by
    field_simp
    norm_num
  rw [left, right] at scaled
  exact_mod_cast scaled

/-- What the second rounding takes off, in millionths of a unit: half of `2 ^ t` at most. -/
theorem units_of_near {micros : Int}
    (near : |(micros : ℚ) - j * (2 ^ t)⁻¹ * 1000000| ≤ 1 / 2) :
    |2 * (micros * 2 ^ t - 1000000 * j)| ≤ 2 ^ t := by
  have scaled := abs_mul_le (show (0 : ℚ) < 2 * 2 ^ t by positivity) near
  have left : 2 * 2 ^ t * ((micros : ℚ) - j * (2 ^ t)⁻¹ * 1000000) =
      (2 * (micros * 2 ^ t - 1000000 * j) : Int) := by
    push_cast
    field_simp
  have right : 2 * (2 : ℚ) ^ t * (1 / 2) = (2 ^ t : Int) := by
    push_cast
    ring
  rw [left, right] at scaled
  exact_mod_cast scaled

/-- Two thousand is a multiple of five, which no power of two is. -/
theorem mul_ne_two_pow (n : Int) (t : Nat) : 2000 * n ≠ 2 ^ t := by
  intro tie
  have divides : (5 : Int) ∣ 2 ^ t := by
    rw [← tie]
    exact ⟨400 * n, by ring⟩
  have five : 5 ∣ 2 := Nat.prime_five.dvd_of_dvd_pow (by exact_mod_cast divides : 5 ∣ 2 ^ t)
  exact absurd five (by decide)

end Scale

/-- What the instant of a hint has to do with its milliseconds. -/
structure Follows (millis : Int) (t : Instant) : Prop where
  /-- The seconds are rounded correctly, and then the microseconds, to the even neighbour of a half. -/
  rounded : ∃ size, Binary64.ofIntRatio millis 1000 = .finite (decide (millis < 0)) size ∧
    Binary64.IsNearest (decide (millis < 0)) size (millis / 1000) ∧
    |(t.micros : ℚ) - Binary64.signedValue (decide (millis < 0)) size * 1000000| ≤ 1 / 2 ∧
    (|(t.micros : ℚ) - Binary64.signedValue (decide (millis < 0)) size * 1000000| = 1 / 2 →
      Even t.micros)
  /-- It is the instant to fifteen microseconds. -/
  near : |t.micros - millis * 1000| ≤ 15
  /-- It is the very instant unless the hint strays. -/
  exact_iff : t = exactly millis ↔ ¬Strays millis

theorem Follows.bounds {millis : Int} {t : Instant} (h : Follows millis t) :
    millis * 1000 - 15 ≤ t.micros ∧ t.micros ≤ millis * 1000 + 15 := by
  obtain ⟨above, under⟩ := abs_le.mp h.near
  omega

/-- What a hint that has a date is rounded to follows it. -/
theorem exists_follows {millis : Int} (dated : (exactly millis).HasDate) :
    ∃ size, Binary64.ofIntRatio millis 1000 = .finite (decide (millis < 0)) size ∧
      Follows millis ⟨roundedMicros (decide (millis < 0)) size⟩ := by
  obtain ⟨t, fine, unit, strays⟩ := exists_unit dated
  obtain ⟨size, rounds, nearest⟩ :=
    Binary64.exists_ofIntRatio_isNearest (by decide) (by decide) (abs_seconds_lt dated)
  obtain ⟨same, j, rounds', units, near⟩ :=
    Binary64.exists_ofIntRatio_units (n := millis) (by decide) unit (by omega)
  obtain rfl : size = same := by
    rw [rounds] at rounds'
    injection rounds'
  have half := abs_roundedMicros_sub_le (decide (millis < 0)) size
  have inUnits := half
  rw [units, zpow_neg, zpow_natCast] at near inUnits
  obtain ⟨close, back, kept⟩ :=
    micros_of_units (pow_le_pow_right₀ (by decide) fine) (thousandths_of_near near)
      (units_of_near inUnits)
  have back : 2000 * offset (millis * 2 ^ t) ≤ 2 ^ t →
      roundedMicros (decide (millis < 0)) size = millis * 1000 :=
    fun le => back (lt_of_le_of_ne le (mul_ne_two_pow _ _))
  refine ⟨size, rounds, ⟨size, rounds, by exact_mod_cast nearest, half, even_roundedMicros⟩, close, ?_⟩
  rw [strays, not_lt, exactly, Instant.mk.injEq]
  exact ⟨kept, back⟩

/-- **A hint whose instant has a date becomes an instant that has one.** -/
theorem exists_ofMillis {millis : Int} (dated : (exactly millis).HasDate) :
    ∃ t, ofMillis millis = .ok t ∧ Follows millis t ∧ t.HasDate := by
  obtain ⟨size, rounds, follows⟩ := exists_follows dated
  obtain ⟨t, ht⟩ : ∃ t : Instant, t = ⟨roundedMicros (decide (millis < 0)) size⟩ := ⟨_, rfl⟩
  rw [← ht] at follows
  have range := hasDate_iff.mp dated
  have := follows.bounds
  have dated' : t.HasDate := by
    rw [hasDate_iff]
    simp only [exactly] at range
    -- The first millisecond with a date is a whole number of seconds, which is exact.
    rcases eq_or_ne millis (-62135596800000) with first | later
    · have exact : ¬Strays millis := by
        rw [first]
        decide +kernel
      rw [follows.exact_iff.mpr exact, exactly]
      omega
    · omega
  refine ⟨t, ?_, follows, dated'⟩
  have counted : ¬(t.micros.fdiv Time.microsPerSecond < -secondBound ∨
      secondBound < t.micros.fdiv Time.microsPerSecond) := by
    have := hasDate_iff.mp dated'
    simp (disch := decide) only [Int.fdiv_eq_ediv_of_nonneg, Time.microsPerSecond, secondBound]
    omega
  obtain ⟨least, most⟩ := dated'
  rw [ofMillis, rounds]
  subst ht
  have countedYear : ¬((moment ⟨roundedMicros (decide (millis < 0)) size⟩).date.year < leastYear ∨
      greatestYear < (moment ⟨roundedMicros (decide (millis < 0)) size⟩).date.year) := by
    simp only [leastYear, greatestYear]
    omega
  simp only [if_neg counted, if_neg countedYear]
  rw [if_neg (by omega)]

end Instant

/-! ## Expiry hints -/

namespace Subscription

open Instant

/-- What the instant of an expiry hint tells about the subscription. -/
structure Tells (s : Subscription) (t : Instant) : Prop where
  follows : Follows s.expiresAt t
  /-- The date is on the calendar, the time is on the clock, and together they are of that instant. -/
  moment : t.moment.IsProper ∧ ofMoment t.moment = t
  /-- Hints that differ have instants that differ the same way. -/
  order : ∀ later : Subscription, s.expiresAt < later.expiresAt →
    (exactly later.expiresAt).HasDate → ∃ u, later.expiry = .ok u ∧ t.micros < u.micros
  /-- Whether the hint has passed can be told from the instants of the hint and of the time. -/
  expired : ∀ now, (exactly now).HasDate →
    ∃ u, ofMillis now = .ok u ∧ (t.micros ≤ u.micros ↔ s.isExpired now = true)
  /-- So it can from the very instant of the time, unless that is the hint. -/
  expiredExactly : ∀ now, now ≠ s.expiresAt →
    (t.micros ≤ (exactly now).micros ↔ s.isExpired now = true)

theorem expiry_of_ofMillis {s : Subscription} {t : Instant} (h : ofMillis s.expiresAt = .ok t) :
    s.expiry = .ok t := by
  rw [expiry, h]
  rfl

/-- **The expiry of a subscription is exactly its hint unless that strays**, which it does only more than
272 years from 1970; and its order is that of the hints in any case. -/
theorem expiry_eq_iff_not_strays (s : Subscription) (dated : (exactly s.expiresAt).HasDate) :
    (s.expiry = .ok (exactly s.expiresAt) ↔ ¬Strays s.expiresAt) ∧
      (s.expiresAt.natAbs < 2 ^ 33 * 1000 → ¬Strays s.expiresAt) ∧
      ∃ t, s.expiry = .ok t ∧ s.Tells t := by
  obtain ⟨t, converts, follows, -⟩ := exists_ofMillis dated
  have expiry := expiry_of_ofMillis converts
  have := follows.bounds
  refine ⟨?_, fun near strays => absurd strays.far (by omega), t, expiry, follows,
    moment_eq_iff.mp rfl, ?_, ?_, ?_⟩
  · rw [expiry, Except.ok.injEq]
    exact follows.exact_iff
  · intro later after dated'
    obtain ⟨u, converts', follows', -⟩ := exists_ofMillis dated'
    have := follows'.bounds
    exact ⟨u, expiry_of_ofMillis converts', by omega⟩
  · intro now dated'
    obtain ⟨u, converts', follows', -⟩ := exists_ofMillis dated'
    have := follows'.bounds
    refine ⟨u, converts', ?_⟩
    rw [isExpired, decide_eq_true_eq]
    rcases eq_or_ne now s.expiresAt with rfl | other
    · rw [converts] at converts'
      injection converts' with same
      simp [same]
    · omega
  · intro now other
    rw [isExpired, decide_eq_true_eq, exactly]
    show _ ≤ now * 1000 ↔ _
    omega

/-- A subscription with nothing but a hint. -/
def withHint (expiresAt : Int) : Subscription :=
  { name := "s", condition := .constant true, expiresAt, eventTtl := ⟨60000000, by decide⟩ }

/-- A hint of these days does not stray. -/
theorem expiry_eq_iff_not_strays_near :
    (exactly (withHint 1700000000123).expiresAt).HasDate ∧
      (withHint 1700000000123).expiry = .ok ⟨1700000000123000⟩ := by
  have dated : (exactly (withHint 1700000000123).expiresAt).HasDate := hasDate_iff.mpr (by decide)
  obtain ⟨exact_iff, near, -⟩ := expiry_eq_iff_not_strays (withHint 1700000000123) dated
  exact ⟨dated, exact_iff.mpr (near (by decide))⟩

/-- The first millisecond after `2 ^ 33` seconds strays. -/
theorem expiry_ne_hint :
    (exactly 8589934592001).HasDate ∧
      (withHint 8589934592001).expiry = .ok ⟨8589934592000999⟩ ∧
      exactly 8589934592001 = ⟨8589934592001000⟩ :=
  ⟨hasDate_iff.mpr (by decide), by decide +kernel, rfl⟩

end Subscription

end EventRoster
