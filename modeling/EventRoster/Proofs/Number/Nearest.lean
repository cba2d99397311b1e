import EventRoster.Proofs.Number.Nearness
import Mathlib.Algebra.Order.Floor.Semifield

/-!
# The nearest binary64 number

Rounding takes a whole number of units of the last place.  Here it is compared with all other finite
numbers, of whatever exponent and of either sign: none is nearer to the ratio, and where one is equally
near, the mantissa of the rounded one is even.

* `Magnitude.grid_nearest`: among the whole numbers of units, the rounded one is nearest.
* `Magnitude.units_or_below`: every other size is a whole number of units, or lies below the ratio and
  below some whole number of units.
* `Binary64.IsNearest`: what it is to be rounded correctly.
* `Binary64.exists_ofIntRatio_isNearest`: a ratio that is not too large is rounded to the nearest number.
* `ceil_eq_of_near`: rounding up after rounding is rounding up, except just above a whole number.
-/

namespace EventRoster.Number

/-- The next whole number from above, as that of the ratio. -/
theorem natCast_ceilDiv (num : Nat) {den : Nat} (hden : 0 < den) :
    ((ceilDiv num den : Nat) : Int) = ⌈(num : ℚ) / den⌉ := by
  have hd : (0 : ℚ) < den := Nat.cast_pos.mpr hden
  have split := Nat.div_add_mod' num den
  have small := Nat.mod_lt num hden
  have succ : (num / den + 1) * den = num / den * den + den := Nat.succ_mul ..
  rw [ceilDiv]
  split
  · next whole =>
    rw [whole, Nat.add_zero] at split
    have ratio : (num : ℚ) / den = (num / den : Nat) := by
      rw [div_eq_iff hd.ne']
      exact_mod_cast split.symm
    rw [ratio, Int.ceil_natCast]
  · next between =>
    refine (Int.ceil_eq_iff.mpr ⟨?_, ?_⟩).symm
    · rw [lt_div_iff₀ hd, Nat.cast_succ, Int.cast_add, Int.cast_natCast, Int.cast_one,
        add_sub_cancel_right]
      exact_mod_cast (by omega : num / den * den < num)
    · rw [div_le_iff₀ hd]
      exact_mod_cast (by omega : num ≤ (num / den + 1) * den)

namespace Magnitude

variable {num den : Nat}

/-- The size as a rational number. -/
def value (x : Magnitude) : ℚ :=
  x.num / x.den

theorem value_eq (x : Magnitude) : x.value = x.mantissa * 2 ^ x.exponent :=
  num_div_den x

theorem value_nonneg (x : Magnitude) : 0 ≤ x.value := by
  rw [value]
  positivity

@[simp] theorem value_zero : zero.value = 0 := by
  rw [value, num_zero, Nat.cast_zero, zero_div]

section Grid

variable {r u : ℚ} {m j : Nat}

/-- **Among the whole numbers of units**, one that is half a unit away at most is nearest, and another
one is as near only if both are half a unit away. -/
theorem grid_nearest (unit : 0 < u) (near : |(m : ℚ) * u - r| ≤ u / 2) :
    |(m : ℚ) * u - r| ≤ |(j : ℚ) * u - r| ∧
      (|(j : ℚ) * u - r| = |(m : ℚ) * u - r| → j = m ∨ |(m : ℚ) * u - r| = u / 2) := by
  rcases eq_or_ne j m with rfl | other
  · exact ⟨le_rfl, fun _ => .inl rfl⟩
  · have apart : u ≤ |(j : ℚ) * u - m * u| := by
      have step : (1 : ℚ) ≤ |(j : ℚ) - m| := by
        have : (1 : ℤ) ≤ |(j : ℤ) - m| := Int.one_le_abs (sub_ne_zero.mpr (by exact_mod_cast other))
        exact_mod_cast this
      rw [← sub_mul, abs_mul, abs_of_pos unit]
      exact le_mul_of_one_le_left unit.le step
    have detour : |(j : ℚ) * u - m * u| ≤ |(j : ℚ) * u - r| + |(m : ℚ) * u - r| := by
      rw [abs_sub_comm ((m : ℚ) * u) r]
      exact abs_sub_le ..
    refine ⟨by linarith, fun tie => .inr ?_⟩
    linarith

end Grid

/-- **Every size is a whole number of units** of the last place of a ratio, or it lies below a whole
number of units that is no greater than the ratio. -/
theorem units_or_below {r : ℚ} (positive : 0 < r) (x : Magnitude) :
    (∃ j : Nat, x.value = j * 2 ^ startExponent r) ∨
      ∃ j : Nat, x.value < j * 2 ^ startExponent r ∧ (j : ℚ) * 2 ^ startExponent r ≤ r := by
  set q := startExponent r with hq
  rw [value_eq]
  rcases le_or_gt q x.exponent with coarse | fine
  · refine .inl ⟨x.mantissa * 2 ^ (x.exponent - q).toNat, ?_⟩
    have split : (2 : ℚ) ^ x.exponent = 2 ^ (x.exponent - q).toNat * 2 ^ q := by
      rw [← zpow_natCast, Int.toNat_of_nonneg (by omega), ← zpow_add₀ two_ne_zero, sub_add_cancel]
    rw [split]
    push_cast
    ring
  · have full : (2 : ℚ) ^ 52 * 2 ^ q ≤ r := by
      refine (eq_or_units_le positive).resolve_left fun least => ?_
      have := x.canonical.2.1
      omega
    refine .inr ⟨2 ^ 52, ?_, by exact_mod_cast full⟩
    have bits : (x.mantissa : ℚ) < 2 ^ 53 := by exact_mod_cast x.canonical.1
    calc (x.mantissa : ℚ) * 2 ^ x.exponent < 2 ^ 53 * 2 ^ x.exponent :=
          mul_lt_mul_of_pos_right bits (zpow_pos two_pos _)
      _ ≤ 2 ^ 53 * 2 ^ (q - 1) := by
          gcongr
          · exact one_le_two
          · omega
      _ = ((2 ^ 52 : Nat) : ℚ) * 2 ^ q := by
          rw [zpow_sub₀ two_ne_zero, zpow_one]
          push_cast
          ring

/-- No size is nearer to a ratio than the one it is rounded to, which has an even mantissa where another
one is as near. -/
theorem exists_ofRatio?_nearest (hnum : 0 < num) (hden : 0 < den) {k : Int} (large : k ≤ 1023)
    (below : (num : ℚ) / den < 2 ^ k) :
    ∃ x : Magnitude, ofRatio? num den = some x ∧ ∀ y : Magnitude,
      |x.value - num / den| ≤ |y.value - num / den| ∧
        (|y.value - num / den| = |x.value - num / den| → y.value = x.value ∨ Even x.mantissa) := by
  have positive : 0 < (num : ℚ) / den := div_pos (Nat.cast_pos.mpr hnum) (Nat.cast_pos.mpr hden)
  have log : Int.log 2 ((num : ℚ) / den) < k :=
    (Int.lt_zpow_iff_log_lt one_lt_two positive).mp (by exact_mod_cast below)
  have range : startExponent ((num : ℚ) / den) ≤ 970 := by
    rw [startExponent]
    omega
  obtain ⟨x, rounds, units, even⟩ := exists_ofRatio?_units hnum hden range
  have near := abs_mantissaAt_sub_le num hden (startExponent ((num : ℚ) / den))
  have tie := @even_mantissaAt num den hden (startExponent ((num : ℚ) / den))
  have cover := units_or_below positive
  rw [← value] at units
  set q := startExponent ((num : ℚ) / den)
  set m := mantissaAt num den q
  have unit : (0 : ℚ) < 2 ^ q := zpow_pos two_pos _
  refine ⟨x, rounds, fun y => ?_⟩
  rw [units]
  rcases cover y with ⟨j, whole⟩ | ⟨j, less, most⟩
  · obtain ⟨nearest, equal⟩ := grid_nearest (j := j) unit near
    rw [whole]
    refine ⟨nearest, fun same => ?_⟩
    rcases equal same with rfl | half
    · exact .inl rfl
    · exact .inr (even (tie half))
  · -- The whole number of units in between is nearer than `y`, and the rounded one is as near as that.
    obtain ⟨nearest, -⟩ := grid_nearest (j := j) unit near
    have farther : |(j : ℚ) * 2 ^ q - num / den| < |y.value - num / den| := by
      rw [abs_of_nonpos (by linarith), abs_of_neg (by linarith)]
      linarith
    refine ⟨by linarith, fun same => ?_⟩
    linarith

end Magnitude

/-- A ratio of a given size and sign. -/
def signedRatio (negative : Bool) (r : ℚ) : ℚ :=
  if negative then -r else r

theorem abs_signedRatio_sub (negative : Bool) (a b : ℚ) :
    |signedRatio negative a - signedRatio negative b| = |a - b| := by
  cases negative
  · rfl
  · show |-a - -b| = |a - b|
    rw [neg_sub_neg, abs_sub_comm]

theorem abs_intCast_div (n : Int) (den : Nat) : |(n : ℚ) / den| = (n.natAbs : ℚ) / den := by
  rw [abs_div, Nat.abs_cast, Nat.cast_natAbs, Int.cast_abs]

/-- The unit of the last place of a ratio, from the bits of its whole part. -/
theorem startExponent_intCast_div {n : Int} {den : Nat} (whole : n.natAbs / den ≠ 0) :
    Magnitude.startExponent |(n : ℚ) / den| = Nat.log2 (n.natAbs / den) - 52 := by
  have positive : 0 < den := Nat.pos_of_ne_zero fun none => whole (by rw [none, Nat.div_zero])
  have one : (1 : ℚ) ≤ (n.natAbs : ℚ) / den := by
    rw [one_le_div (Nat.cast_pos.mpr positive)]
    exact_mod_cast Nat.le_of_not_lt fun less => whole (Nat.div_eq_of_lt less)
  rw [abs_intCast_div, Magnitude.startExponent, Int.log_of_one_le_right 2 one, Nat.floor_div_eq_div,
    Nat.log2_eq_log_two]
  omega

/-- Below one the unit is smaller than any above. -/
theorem startExponent_intCast_div_le {n : Int} {den : Nat} (less : n.natAbs < den) :
    Magnitude.startExponent |(n : ℚ) / den| ≤ -52 := by
  have one : (n.natAbs : ℚ) / den ≤ 1 := by
    rw [div_le_one (by exact_mod_cast (Nat.zero_le _).trans_lt less)]
    exact_mod_cast less.le
  rw [abs_intCast_div, Magnitude.startExponent, Int.log_of_right_le_one 2 one]
  omega

/-- A ratio is the ratio of its size with its sign. -/
theorem signedRatio_natAbs (n : Int) (den : Nat) :
    signedRatio (decide (n < 0)) ((n.natAbs : ℚ) / den) = n / den := by
  rcases lt_or_ge n 0 with negative | nonneg
  · have size : (n.natAbs : ℚ) = -n := by
      rw [Nat.cast_natAbs, Int.cast_abs, abs_of_neg (by exact_mod_cast negative)]
    rw [signedRatio, if_pos (decide_eq_true negative), size, neg_div, neg_neg]
  · have size : (n.natAbs : ℚ) = n := by
      rw [Nat.cast_natAbs, Int.cast_abs, abs_of_nonneg (by exact_mod_cast nonneg)]
    rw [signedRatio, if_neg (by simpa using nonneg), size]

namespace Binary64

open Magnitude

/-- The rational number of a given size and sign. -/
def signedValue (negative : Bool) (x : Magnitude) : ℚ :=
  signedRatio negative x.value

/-- The least integer not below a finite number is that not below its value. -/
theorem ceil?_finite (negative : Bool) (x : Magnitude) :
    (finite negative x).ceil? = some ⌈signedValue negative x⌉ := by
  cases negative
  · show some ((ceilDiv x.num x.den : Nat) : Int) = some ⌈(x.num : ℚ) / x.den⌉
    rw [natCast_ceilDiv x.num x.den_pos]
  · show some (-((x.num / x.den : Nat) : Int)) = some ⌈-((x.num : ℚ) / x.den)⌉
    rw [Int.ceil_neg, Rat.floor_natCast_div_natCast]
    rfl

/-- **Being rounded correctly**: no finite number is nearer to `r`, and where another one is equally
near, the mantissa is even. -/
def IsNearest (negative : Bool) (size : Magnitude) (r : ℚ) : Prop :=
  ∀ (other : Bool) (y : Magnitude),
    |signedValue negative size - r| ≤ |signedValue other y - r| ∧
      (|signedValue other y - r| = |signedValue negative size - r| →
        signedValue other y = signedValue negative size ∨ Even size.mantissa)

/-- A size that is nearest among the sizes is nearest among all numbers, with either sign: zero is nearer
to a ratio than anything on the other side of it. -/
theorem isNearest_of_sizes (negative : Bool) {size : Magnitude} {r : ℚ} (nonneg : 0 ≤ r)
    (nearest : ∀ y : Magnitude, |size.value - r| ≤ |y.value - r| ∧
      (|y.value - r| = |size.value - r| → y.value = size.value ∨ Even size.mantissa)) :
    IsNearest negative size (signedRatio negative r) := by
  intro other y
  rw [signedValue, signedValue, abs_signedRatio_sub]
  rcases eq_or_ne other negative with rfl | opposite
  · rw [abs_signedRatio_sub]
    refine ⟨(nearest y).1, fun tie => ((nearest y).2 tie).imp_left fun same => ?_⟩
    rw [same]
  · have zero := nearest Magnitude.zero
    have sign := y.value_nonneg
    have toZero : |Magnitude.zero.value - r| = r := by
      rw [value_zero, zero_sub, abs_neg, abs_of_nonneg nonneg]
    have past : |signedRatio other y.value - signedRatio negative r| = y.value + r := by
      cases other <;> cases negative
      · exact absurd rfl opposite
      · show |y.value - -r| = _
        rw [sub_neg_eq_add, abs_of_nonneg (by linarith)]
      · show |-y.value - r| = _
        rw [abs_of_nonpos (by linarith)]
        ring
      · exact absurd rfl opposite
    rw [toZero] at zero
    rw [past]
    refine ⟨by linarith, fun tie => ?_⟩
    have gone : y.value = 0 := by linarith
    refine (zero.2 (by linarith)).imp_left fun same => ?_
    rw [gone, ← same, value_zero]
    cases other <;> cases negative <;> simp [signedRatio]

/-- **A ratio that is not too large is rounded to the nearest number, ties to even.** -/
theorem exists_ofIntRatio_isNearest {n : Int} {den : Nat} (hden : 0 < den) {k : Int} (large : k ≤ 1023)
    (below : |(n : ℚ) / den| < 2 ^ k) :
    ∃ size, ofIntRatio n den = finite (decide (n < 0)) size ∧
      IsNearest (decide (n < 0)) size ((n : ℚ) / den) := by
  rw [abs_intCast_div] at below
  have rounded : ∃ x, ofRatio? n.natAbs den = some x ∧ ∀ y : Magnitude,
      |x.value - n.natAbs / den| ≤ |y.value - n.natAbs / den| ∧
        (|y.value - n.natAbs / den| = |x.value - n.natAbs / den| →
          y.value = x.value ∨ Even x.mantissa) := by
    rcases Nat.eq_zero_or_pos n.natAbs with none | some
    · refine ⟨Magnitude.zero, by rw [none, ofRatio?, if_pos rfl], fun y => ?_⟩
      rw [none, Nat.cast_zero, zero_div, value_zero]
      exact ⟨by simp, fun _ => .inr (by decide)⟩
    · exact exists_ofRatio?_nearest some hden large below
  obtain ⟨x, rounds, nearest⟩ := rounded
  refine ⟨x, by rw [ofIntRatio, ofRatio, rounds], ?_⟩
  rw [← signedRatio_natAbs n den]
  exact isNearest_of_sizes _ (by positivity) nearest

/-- A rounded ratio is a whole number of units of its last place, and half a unit away at most. -/
theorem exists_ofIntRatio_units {n : Int} {den : Nat} (hden : 0 < den) {q : Int}
    (unit : startExponent |(n : ℚ) / den| = q) (range : q ≤ 970) :
    ∃ (x : Magnitude) (j : Int), ofIntRatio n den = finite (decide (n < 0)) x ∧
      signedValue (decide (n < 0)) x = j * 2 ^ q ∧
      |signedValue (decide (n < 0)) x - n / den| ≤ 2 ^ q / 2 := by
  rw [abs_intCast_div] at unit
  have rounded : ∃ (x : Magnitude) (m : Nat), ofRatio? n.natAbs den = some x ∧
      x.value = m * 2 ^ q ∧ |x.value - n.natAbs / den| ≤ 2 ^ q / 2 := by
    rcases Nat.eq_zero_or_pos n.natAbs with none | some
    · refine ⟨Magnitude.zero, 0, by rw [none, ofRatio?, if_pos rfl], by simp, ?_⟩
      rw [none, value_zero, Nat.cast_zero, zero_div, sub_zero, abs_zero]
      exact (half_pos (zpow_pos two_pos q)).le
    · subst unit
      obtain ⟨x, rounds, units, -⟩ := exists_ofRatio?_units some hden range
      refine ⟨x, _, rounds, units, ?_⟩
      rw [value, units]
      exact abs_mantissaAt_sub_le _ hden _
  obtain ⟨x, m, rounds, units, near⟩ := rounded
  refine ⟨x, signed (decide (n < 0)) m, by rw [ofIntRatio, ofRatio, rounds], ?_, ?_⟩
  · rw [signedValue, units, signedRatio, signed]
    split <;> push_cast <;> ring
  · rwa [signedValue, ← signedRatio_natAbs n den, abs_signedRatio_sub]

end Binary64

/-- **The ceiling of a rounded ratio.**  What is half a unit away at most has the ceiling of the ratio,
except where the ratio is less than half a unit above a whole number: there it is that whole number. -/
theorem ceil_eq_of_near {r u : ℚ} {j : Int} {c : Nat} (unit : 0 < u) (part : (c : ℚ) * u = 1)
    (near : |(j : ℚ) * u - r| ≤ u / 2) (noTie : Int.fract r ≠ u / 2) :
    ⌈(j : ℚ) * u⌉ = if 0 < Int.fract r ∧ Int.fract r < u / 2 then ⌊r⌋ else ⌈r⌉ := by
  obtain ⟨above, under⟩ := abs_le.mp near
  have whole (z : Int) : (z : ℚ) = (z * c : Int) * u := by
    push_cast
    rw [mul_assoc, part, mul_one]
  have split := Int.floor_add_fract r
  have floor := whole ⌊r⌋
  have apart {a b : Int} (less : a < b) : (a : ℚ) * u + u ≤ b * u := by
    have : (a : ℚ) + 1 ≤ b := by exact_mod_cast less
    nlinarith
  -- A number of units less than a unit away from the whole number below is that whole number.
  have snap (closer : Int.fract r < u / 2) : (j : ℚ) * u = ⌊r⌋ := by
    have nonneg := Int.fract_nonneg r
    have same : j = ⌊r⌋ * c := by
      rcases lt_trichotomy j (⌊r⌋ * c) with less | same | more
      · have := apart less
        linarith
      · exact same
      · have := apart more
        linarith
    rw [same, ← whole]
  rcases (Int.fract_nonneg r).eq_or_lt with exact | inside
  · rw [if_neg fun slip => exact.not_lt slip.1]
    have nearest := snap (by rw [← exact]; exact half_pos unit)
    rw [← exact, add_zero] at split
    rw [nearest, split]
  · rcases lt_or_gt_of_ne noTie with closer | farther
    · rw [if_pos ⟨inside, closer⟩, snap closer, Int.ceil_intCast]
    · rw [if_neg fun slip => slip.2.not_gt farther]
      have ceiling : ⌈r⌉ = ⌊r⌋ + 1 := by
        have less := Int.fract_lt_one r
        rw [Int.ceil_eq_iff]
        push_cast
        constructor <;> linarith
      have next := whole (⌊r⌋ + 1)
      rw [ceiling, Int.ceil_eq_iff]
      push_cast at next ⊢
      constructor
      · linarith
      · by_contra past
        have less := Int.fract_lt_one r
        have beyond : (⌊r⌋ + 1) * (c : Int) < j := by
          by_contra most
          have most : (j : ℚ) ≤ (⌊r⌋ + 1) * c := by exact_mod_cast not_lt.mp most
          nlinarith
        have := apart beyond
        push_cast at this
        linarith

end EventRoster.Number
