import EventRoster.Proofs.Number.Nearest
import EventRoster.Subscription

/-!
# Lifetimes against requested durations

The seconds of a duration are rounded twice: the quotient to the nearest binary64 number, and that number
up.  A microsecond above a whole number of seconds is more than the first rounding can take away as long
as the numbers next to it are less than two microseconds apart, which they are for the first five hundred
years.  Past that, a duration may be too little above a whole number of seconds to be told from it, and
then it is rounded down.

* `Slips`: the durations that are rounded down.
* `ceilSeconds_eq`: the seconds of every duration.
* `clampSeconds_eq`: no lifetime in range comes from a duration that is rounded down.
* `isExact`: what follows for the lifetime of every duration.
* `toSeconds_eq_iff_not_slips`: which bounds let a slip be seen.
-/

namespace EventRoster.Lifetime

open EventRoster.Number Magnitude

/-! ## The unit of the last place -/

/-- A duration is too little above a whole number of seconds to be told from it: by less than half the
distance of the binary64 numbers there.  That distance is `2 ^ (e - 52)` where the whole seconds, without
their sign, have `e + 1` bits. -/
def Slips (d : Duration) : Prop :=
  0 < d.micros % 1000000 ∧
    d.micros % 1000000 * 2 ^ (53 - Nat.log2 (d.micros.natAbs / 1000000)) < 1000000

instance (d : Duration) : Decidable (Slips d) :=
  inferInstanceAs (Decidable (_ ∧ _))

/-- The longest durations have fewer than `2 ^ 47` seconds. -/
theorem natAbs_micros_lt (d : Duration) : d.micros.natAbs < 2 ^ 47 * 1000000 := by
  have range := d.inRange
  simp only [Time.leastMicros, Time.greatestMicros, Time.dayLimit, Time.secondsPerDay,
    Time.microsPerSecond] at range
  omega

/-- Only durations of more than five hundred years slip. -/
theorem Slips.long {d : Duration} (slips : Slips d) : 2 ^ 34 * 1000000 ≤ d.micros.natAbs := by
  obtain ⟨above, little⟩ := slips
  set bits := Nat.log2 (d.micros.natAbs / 1000000) with hbits
  have many : 34 ≤ bits := by
    by_contra few
    have : (2 : Int) ^ 20 ≤ 2 ^ (53 - bits) := by
      gcongr
      · decide
      · omega
    nlinarith
  have whole : d.micros.natAbs / 1000000 ≠ 0 := by
    intro none
    rw [none] at hbits
    have : Nat.log2 0 = 0 := rfl
    omega
  have least : 2 ^ 34 ≤ d.micros.natAbs / 1000000 :=
    calc 2 ^ 34 ≤ 2 ^ bits := Nat.pow_le_pow_right (by decide) many
      _ ≤ d.micros.natAbs / 1000000 := Nat.log2_self_le whole
  omega

/-- **Half a unit of the last place** of the seconds is a power of two, less than a hundredth of a second,
and what is less than it above a whole number of seconds slips. -/
theorem exists_halfUnit (d : Duration) :
    ∃ t : Nat, 7 ≤ t ∧ startExponent |(d.micros : ℚ) / (1000000 : Nat)| = 1 - t ∧
      (Slips d ↔ 0 < d.micros % 1000000 ∧ d.micros % 1000000 * 2 ^ t < 1000000) := by
  rcases eq_or_ne (d.micros.natAbs / 1000000) 0 with none | whole
  · have fine := @startExponent_intCast_div_le d.micros 1000000 (by omega)
    refine ⟨(1 - startExponent |(d.micros : ℚ) / (1000000 : Nat)|).toNat, by omega, by omega, ?_⟩
    set t := (1 - startExponent |(d.micros : ℚ) / (1000000 : Nat)|).toNat with ht
    refine ⟨fun slips => ?_, fun ⟨above, little⟩ => ?_⟩
    · have := slips.long
      omega
    · have : (2 : Int) ^ 53 ≤ 2 ^ t := by
        gcongr
        · decide
        · omega
      nlinarith
  · have short := natAbs_micros_lt d
    have bits : Nat.log2 (d.micros.natAbs / 1000000) < 47 :=
      (Nat.log2_lt whole).mpr (Nat.div_lt_of_lt_mul (by omega))
    refine ⟨53 - Nat.log2 (d.micros.natAbs / 1000000), by omega, ?_, Iff.rfl⟩
    rw [startExponent_intCast_div whole]
    omega

/-! ## The seconds of a duration -/

/-- What a duration is above whole seconds. -/
theorem fract_seconds (d : Duration) :
    Int.fract ((d.micros : ℚ) / (1000000 : Nat)) = (d.micros % 1000000 : Int) / (1000000 : Nat) :=
  Int.fract_div_intCast_eq_div_intCast_mod

theorem fract_seconds_pos_iff (d : Duration) :
    0 < Int.fract ((d.micros : ℚ) / (1000000 : Nat)) ↔ 0 < d.micros % 1000000 := by
  rw [fract_seconds, div_pos_iff_of_pos_right (by norm_num), Int.cast_pos]

theorem fract_seconds_lt_iff (d : Duration) (t : Nat) :
    Int.fract ((d.micros : ℚ) / (1000000 : Nat)) < 1 / 2 ^ t ↔
      d.micros % 1000000 * 2 ^ t < 1000000 := by
  rw [fract_seconds, div_lt_div_iff₀ (by norm_num) (pow_pos two_pos t), one_mul]
  exact_mod_cast Iff.rfl

/-- No duration is half a unit above whole seconds: a million is not a multiple of `2 ^ 7`. -/
theorem fract_seconds_ne (d : Duration) {t : Nat} (fine : 7 ≤ t) :
    Int.fract ((d.micros : ℚ) / (1000000 : Nat)) ≠ 1 / 2 ^ t := by
  rw [fract_seconds, Ne, div_eq_div_iff (by norm_num) (pow_pos two_pos t).ne']
  intro tie
  have tie : d.micros % 1000000 * 2 ^ t = 1 * 1000000 := by exact_mod_cast tie
  have divides : (2 : Int) ^ 7 ∣ 1000000 := by
    rw [← one_mul (1000000 : Int), ← tie]
    exact (pow_dvd_pow 2 fine).mul_left _
  revert divides
  decide

/-- **The seconds of every duration** are rounded up, or down if it slips. -/
theorem ceilSeconds_eq (d : Duration) :
    ceilSeconds d =
      if Slips d then ⌊(d.micros : ℚ) / 1000000⌋ else ⌈(d.micros : ℚ) / 1000000⌉ := by
  obtain ⟨t, fine, unit, slips⟩ := exists_halfUnit d
  obtain ⟨s, rfl⟩ : ∃ s, t = s + 1 := ⟨t - 1, by omega⟩
  set u : ℚ := 2 ^ (1 - ((s + 1 : Nat) : Int)) with hu
  have half : u / 2 = 1 / 2 ^ (s + 1) := by
    rw [hu, zpow_sub₀ two_ne_zero, zpow_one, zpow_natCast]
    ring
  have part : ((2 ^ s : Nat) : ℚ) * u = 1 := by
    rw [Nat.cast_pow, Nat.cast_ofNat, ← zpow_natCast, ← zpow_add₀ two_ne_zero, Nat.cast_succ,
      sub_add_cancel_right, add_neg_cancel, zpow_zero]
  obtain ⟨x, j, rounds, units, near⟩ :=
    Binary64.exists_ofIntRatio_units (n := d.micros) (by decide) unit (by omega)
  rw [← hu] at units near
  rw [units] at near
  have seconds : ceilSeconds d = ⌈(j : ℚ) * u⌉ := by
    rw [ceilSeconds, Duration.seconds, rounds, Binary64.ceil?_finite, units]
    rfl
  have noTie := fract_seconds_ne d fine
  rw [← half] at noTie
  have fraction := (fract_seconds_pos_iff d).and (fract_seconds_lt_iff d (s + 1))
  rw [← slips, ← half] at fraction
  rw [seconds, ceil_eq_of_near (zpow_pos two_pos _) part near noTie, if_congr fraction rfl rfl,
    Nat.cast_ofNat]

/-- The whole seconds next to a duration, in integers. -/
theorem ceil_seconds (d : Duration) : ⌈(d.micros : ℚ) / 1000000⌉ = -(-d.micros / 1000000) := by
  exact_mod_cast Rat.ceil_intCast_div_natCast d.micros 1000000

theorem floor_seconds (d : Duration) : ⌊(d.micros : ℚ) / 1000000⌋ = d.micros / 1000000 := by
  exact_mod_cast Rat.floor_intCast_div_natCast d.micros 1000000

/-! ## Lifetimes in range -/

/-- **A lifetime in range is exact**: durations that slip are out of range both ways of rounding. -/
theorem clampSeconds_eq (d : Duration) :
    clampSeconds d = max 1 (min ⌈(d.micros : ℚ) / 1000000⌉ 31536000) := by
  rw [clampSeconds, ceilSeconds_eq, ceil_seconds, floor_seconds]
  simp only [bounded, least, greatest, Time.secondsPerDay]
  split
  · next slips =>
    have := slips.long
    omega
  · omega

/-- **A lifetime in range is not shorter than it was asked for**, in whole milliseconds, and at most a
second longer. -/
theorem clampSeconds_bounds {d : Duration} (nonneg : 0 ≤ d.micros)
    (most : d.micros ≤ greatest * Time.microsPerSecond) :
    d.wholeMillis ≤ clampSeconds d * 1000 ∧ clampSeconds d * 1000 ≤ d.wholeMillis + 1000 := by
  simp only [greatest, Time.secondsPerDay, Time.microsPerSecond] at most
  have millis : d.wholeMillis = d.micros / 1000 := Int.fdiv_eq_ediv_of_nonneg _ (by decide)
  rw [millis, clampSeconds_eq, ceil_seconds]
  omega

/-- A duration has the lifetime that it asks for, although its seconds are rounded to a binary64 number on
the way. -/
structure IsExact (d : Duration) : Prop where
  /-- The seconds are the nearest binary64 number, ties to even. -/
  quotient : ∃ size, d.seconds = .finite (decide (d.micros < 0)) size ∧
    Binary64.IsNearest (decide (d.micros < 0)) size ((d.micros : ℚ) / 1000000)
  /-- The lifetime is that of the exact quotient. -/
  lifetime : clampSeconds d = max 1 (min ⌈(d.micros : ℚ) / 1000000⌉ 31536000)
  /-- A longer duration has no shorter lifetime. -/
  monotone : ∀ longer : Duration, d.micros ≤ longer.micros → clampSeconds d ≤ clampSeconds longer
  /-- The lifetime is not shorter than what was asked for, up to 365 days. -/
  enough : min d.micros (365 * Time.secondsPerDay * Time.microsPerSecond) ≤ (clamp d).micros
  /-- It is less than a second longer. -/
  tight : 0 < d.micros → d.micros ≤ 365 * Time.secondsPerDay * Time.microsPerSecond →
    (clamp d).micros < d.micros + Time.microsPerSecond
  /-- A lifetime is its own lifetime. -/
  settled : clamp (clamp d) = clamp d

/-- **Every duration has an exact lifetime.** -/
theorem isExact (d : Duration) : IsExact d where
  quotient := by
    have short := natAbs_micros_lt d
    have below : |(d.micros : ℚ) / (1000000 : Nat)| < 2 ^ (47 : Int) := by
      rw [abs_intCast_div, div_lt_iff₀ (by norm_num)]
      exact_mod_cast short
    exact_mod_cast Binary64.exists_ofIntRatio_isNearest (by decide) (by decide) below
  lifetime := clampSeconds_eq d
  monotone longer le := by
    rw [clampSeconds_eq, clampSeconds_eq, ceil_seconds, ceil_seconds]
    omega
  enough := by
    show _ ≤ clampSeconds d * Time.microsPerSecond
    rw [clampSeconds_eq, ceil_seconds]
    simp only [Time.secondsPerDay, Time.microsPerSecond]
    omega
  tight positive most := by
    show clampSeconds d * Time.microsPerSecond < _
    simp only [Time.secondsPerDay, Time.microsPerSecond] at most ⊢
    rw [clampSeconds_eq, ceil_seconds]
    omega
  settled := by
    have whole : clampSeconds (clamp d) = clampSeconds d := by
      have range := clampSeconds_mem d
      rw [clampSeconds_eq (clamp d), ceil_seconds]
      simp only [clamp, least, greatest, Time.secondsPerDay, Time.microsPerSecond] at range ⊢
      omega
    show (⟨clampSeconds (clamp d) * Time.microsPerSecond, _⟩ : Duration) = ⟨_, _⟩
    congr 2

/-! ## Any bounds -/

/-- **Whatever the bounds, seconds are rounded up** and brought between them, unless the duration slips
and the bounds let it be seen: then the answer is a second too short.  Durations of less than `2 ^ 34`
seconds do not slip. -/
theorem toSeconds_eq_iff_not_slips (d : Duration) {minimum maximum : Int}
    (ordered : minimum ≤ maximum) :
    (toSeconds d minimum maximum = .ok (max minimum (min ⌈(d.micros : ℚ) / 1000000⌉ maximum)) ↔
      ¬(Slips d ∧ minimum < ⌈(d.micros : ℚ) / 1000000⌉ ∧ ⌈(d.micros : ℚ) / 1000000⌉ ≤ maximum)) ∧
    (Slips d → toSeconds d minimum maximum =
      .ok (max minimum (min ⌊(d.micros : ℚ) / 1000000⌋ maximum))) ∧
    (d.micros.natAbs < 2 ^ 34 * 1000000 → ¬Slips d) := by
  rw [toSeconds, if_neg ordered.not_gt, ceilSeconds_eq, ceil_seconds, floor_seconds, bounded,
    Except.ok.injEq]
  refine ⟨?_, fun slips => by rw [if_pos slips], fun short slips => slips.long.not_gt short⟩
  split
  · next slips =>
    have above := slips.1
    simp only [slips, true_and]
    omega
  · next exact =>
    simp only [exact, false_and, not_false_eq_true]

/-- Two bounds and a duration that does not slip. -/
theorem toSeconds_eq_iff_not_slips_short :
    (0 : Int) ≤ 10 ∧
      toSeconds ⟨1500000, by decide⟩ 0 10 =
        .ok (max 0 (min ⌈((1500000 : Int) : ℚ) / 1000000⌉ 10)) :=
  ⟨by decide, (toSeconds_eq_iff_not_slips ⟨1500000, by decide⟩ (by decide)).1.mpr fun slips =>
    absurd slips.1 (by decide)⟩

/-- A microsecond more than `2 ^ 34` seconds is taken for `2 ^ 34` seconds. -/
theorem toSeconds_rounded_down :
    toSeconds ⟨17179869184000001, by decide⟩ 0 100000000000 = .ok 17179869184 ∧
      max 0 (min ⌈((17179869184000001 : Int) : ℚ) / 1000000⌉ 100000000000) = 17179869185 := by
  refine ⟨by decide +kernel, ?_⟩
  rw [ceil_seconds ⟨17179869184000001, by decide⟩]
  decide

end EventRoster.Lifetime
