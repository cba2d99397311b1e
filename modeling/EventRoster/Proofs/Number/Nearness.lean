import EventRoster.Proofs.Number.Rounding
import Mathlib.Algebra.Order.Group.Unbundled.Abs
import Mathlib.Tactic.FieldSimp
import Mathlib.Tactic.Linarith

/-!
# How near the rounding comes

A size is half a unit of its last place away from the ratio that it was rounded from, at most.

* `Magnitude.abs_mantissaAt_sub_le`, `Magnitude.even_mantissaAt`: the mantissa at a given exponent.
* `Magnitude.startExponent`: the exponent of the last place.
* `Magnitude.exists_ofRatio?_units`: the rounding of a ratio that is not too large, in units of its last
  place.
-/

namespace EventRoster.Number

variable {num den : Nat}

/-- The nearest integer is half a unit away at most. -/
theorem abs_roundHalfEven_sub_le (num : Nat) (hden : 0 < den) :
    |(roundHalfEven num den : ℚ) - num / den| ≤ 1 / 2 := by
  have hd : (0 : ℚ) < den := Nat.cast_pos.mpr hden
  have ratio : (num : ℚ) / den * den = num := div_mul_cancel₀ _ hd.ne'
  obtain ⟨above, below⟩ := @roundHalfEven_near num den hden
  have above : 2 * ((roundHalfEven num den : ℚ) * den) ≤ 2 * num + den := by exact_mod_cast above
  have below : 2 * (num : ℚ) ≤ 2 * (roundHalfEven num den * den) + den := by exact_mod_cast below
  rw [abs_le]
  constructor
  · refine le_of_mul_le_mul_right ?_ hd
    linarith
  · refine le_of_mul_le_mul_right ?_ hd
    linarith

/-- It is even if it is half a unit away. -/
theorem even_roundHalfEven (hden : 0 < den)
    (tie : |(roundHalfEven num den : ℚ) - num / den| = 1 / 2) : Even (roundHalfEven num den) := by
  have hd : (den : ℚ) ≠ 0 := Nat.cast_ne_zero.mpr hden.ne'
  have tie : 2 * (roundHalfEven num den * den) + den = 2 * num ∨
      2 * num + den = 2 * (roundHalfEven num den * den) := by
    rcases (abs_eq (by norm_num)).mp tie with above | under
    · right
      field_simp at above
      exact_mod_cast (by linarith : 2 * (num : ℚ) + den = 2 * (roundHalfEven num den * den))
    · left
      field_simp at under
      exact_mod_cast (by linarith : 2 * ((roundHalfEven num den : ℚ) * den) + den = 2 * num)
  have split := Nat.div_add_mod' num den
  have small := Nat.mod_lt num hden
  have succ : (num / den + 1) * den = num / den * den + den := Nat.succ_mul ..
  unfold roundHalfEven at tie ⊢
  simp only at tie ⊢
  split at tie
  · omega
  · split at tie
    · omega
    · rw [if_neg ‹_›, if_neg ‹_›]
      rcases Nat.mod_two_eq_zero_or_one (num / den) with even | odd
      · rw [even, Nat.add_zero]
        exact Nat.even_iff.mpr even
      · rw [odd, Nat.even_add_one, Nat.not_even_iff]
        exact odd

namespace Magnitude

/-- The distance of a mantissa from its ratio, in units: that of an integer from the ratio it is the
nearest to. -/
theorem mantissaAt_sub (num : Nat) (hden : 0 < den) (q : Int) :
    (mantissaAt num den q : ℚ) * 2 ^ q - num / den =
      ((mantissaAt num den q : ℚ) -
        (num * Nat.pow 2 (-q).toNat : Nat) / (den * Nat.pow 2 q.toNat : Nat)) * 2 ^ q := by
  have hd : (den : ℚ) ≠ 0 := Nat.cast_ne_zero.mpr hden.ne'
  have scale : (2 : ℚ) ^ q * 2 ^ (-q).toNat = 2 ^ q.toNat := zpow_mul_pow_toNat q
  have unit : (2 : ℚ) ^ q ≠ 0 := (zpow_pos two_pos q).ne'
  have ratio : ((num * Nat.pow 2 (-q).toNat : Nat) : ℚ) / (den * Nat.pow 2 q.toNat : Nat) * 2 ^ q =
      num / den := by
    change ((num * 2 ^ (-q).toNat : Nat) : ℚ) / (den * 2 ^ q.toNat : Nat) * 2 ^ q = num / den
    push_cast
    rw [← scale]
    field_simp
  rw [sub_mul, ratio]

/-- **The mantissa at a given exponent** is within half a unit of the ratio. -/
theorem abs_mantissaAt_sub_le (num : Nat) (hden : 0 < den) (q : Int) :
    |(mantissaAt num den q : ℚ) * 2 ^ q - num / den| ≤ 2 ^ q / 2 := by
  have unit : (0 : ℚ) < 2 ^ q := zpow_pos two_pos q
  have positive : 0 < den * Nat.pow 2 q.toNat := Nat.mul_pos hden (Nat.pow_pos (by decide))
  have half : (2 : ℚ) ^ q / 2 = 1 / 2 * 2 ^ q := by ring
  rw [mantissaAt_sub num hden, abs_mul, abs_of_pos unit, half]
  exact mul_le_mul_of_nonneg_right (abs_roundHalfEven_sub_le _ positive) unit.le

/-- It is even if it is half a unit away. -/
theorem even_mantissaAt (hden : 0 < den) {q : Int}
    (tie : |(mantissaAt num den q : ℚ) * 2 ^ q - num / den| = 2 ^ q / 2) :
    Even (mantissaAt num den q) := by
  have unit : (0 : ℚ) < 2 ^ q := zpow_pos two_pos q
  have positive : 0 < den * Nat.pow 2 q.toNat := Nat.mul_pos hden (Nat.pow_pos (by decide))
  have half : (2 : ℚ) ^ q / 2 = 1 / 2 * 2 ^ q := by ring
  rw [mantissaAt_sub num hden, abs_mul, abs_of_pos unit, half] at tie
  exact even_roundHalfEven positive (mul_right_cancel₀ unit.ne' tie)

/-- The exponent that the rounding of a ratio starts from. -/
def startExponent (r : ℚ) : Int :=
  max (Int.log 2 r - 52) (-1074)

section Start

variable {r : ℚ} {m : Nat}

/-- A ratio is less than `2 ^ 53` units of its last place. -/
theorem lt_units (r : ℚ) : r < 2 ^ 53 * 2 ^ startExponent r := by
  calc r < 2 ^ (Int.log 2 r + 1) := by exact_mod_cast Int.lt_zpow_succ_log_self one_lt_two r
    _ ≤ 2 ^ (53 + startExponent r) := by
      refine zpow_le_zpow_right₀ one_le_two ?_
      have := le_max_left (Int.log 2 r - 52) (-1074)
      rw [startExponent]
      omega
    _ = 2 ^ 53 * 2 ^ startExponent r := by
      rw [zpow_add₀ two_ne_zero]
      norm_num

/-- It is at least `2 ^ 52` units, unless the exponent is the least. -/
theorem eq_or_units_le (positive : 0 < r) :
    startExponent r = -1074 ∨ 2 ^ 52 * 2 ^ startExponent r ≤ r := by
  rcases le_or_gt (Int.log 2 r - 52) (-1074) with least | more
  · exact .inl (max_eq_right least)
  · right
    rw [startExponent, max_eq_left more.le]
    calc (2 : ℚ) ^ 52 * 2 ^ (Int.log 2 r - 52) = 2 ^ (52 + (Int.log 2 r - 52)) := by
          rw [zpow_add₀ two_ne_zero]
          norm_num
      _ = 2 ^ Int.log 2 r := by rw [add_sub_cancel]
      _ ≤ r := by exact_mod_cast Int.zpow_log_le_self one_lt_two positive

/-- A mantissa that is near enough to the ratio is canonical, or one more than a canonical one. -/
theorem mantissa_bounds (positive : 0 < r)
    (near : |(m : ℚ) * 2 ^ startExponent r - r| ≤ 2 ^ startExponent r / 2) :
    m ≤ 2 ^ 53 ∧ (startExponent r = -1074 ∨ 2 ^ 52 ≤ m) := by
  have unit : (0 : ℚ) < 2 ^ startExponent r := zpow_pos two_pos _
  have bits := lt_units r
  obtain ⟨above, under⟩ := abs_le.mp near
  constructor
  · by_contra many
    have many : (2 : ℚ) ^ 53 + 1 ≤ m := by exact_mod_cast Nat.lt_of_not_le many
    nlinarith
  · refine (eq_or_units_le positive).imp_right fun full => ?_
    by_contra few
    have few : (m : ℚ) + 1 ≤ 2 ^ 52 := by exact_mod_cast Nat.lt_of_not_le few
    nlinarith

end Start

/-- **The rounding of a ratio that is not too large** is a whole number of units of its last place, half
a unit away at most.  Where it carries into a further bit, half the mantissa is half as many units. -/
theorem exists_ofRatio?_units (hnum : 0 < num) (hden : 0 < den)
    (range : startExponent ((num : ℚ) / den) ≤ 970) :
    let q := startExponent ((num : ℚ) / den)
    let m := mantissaAt num den q
    ∃ x : Magnitude, ofRatio? num den = some x ∧ (x.num : ℚ) / x.den = m * 2 ^ q ∧
      (Even m → Even x.mantissa) := by
  intro q m
  have positive : 0 < (num : ℚ) / den := div_pos (Nat.cast_pos.mpr hnum) (Nat.cast_pos.mpr hden)
  have least : -1074 ≤ q := le_max_right _ _
  obtain ⟨greatest, full⟩ := mantissa_bounds positive (abs_mantissaAt_sub_le num hden q)
  have chosen : ofRatio? num den =
      if h : Canonical m q then some ⟨m, q, h⟩
      else if h : Canonical (m / 2) (q + 1) then some ⟨m / 2, q + 1, h⟩ else none := by
    rw [ofRatio?, if_neg hnum.ne', binaryExponent_eq_log hnum hden]
    rfl
  rcases Nat.lt_or_eq_of_le greatest with fewer | carried
  · have canonical : Canonical m q := ⟨fewer, least, by omega, full.symm⟩
    refine ⟨⟨m, q, canonical⟩, ?_, num_div_den _, id⟩
    rw [chosen, dif_pos canonical]
  · have carried : m = 2 ^ 53 := carried
    have overflow : ¬Canonical m q := fun canonical => absurd carried canonical.1.ne
    have halved : m / 2 = 2 ^ 52 := by
      rw [carried]
      norm_num
    have canonical : Canonical (m / 2) (q + 1) := by
      rw [halved]
      exact ⟨by decide, by omega, by omega, .inl (by decide)⟩
    have same : ((m / 2 : ℕ) : ℚ) * 2 ^ (q + 1) = m * 2 ^ q := by
      rw [halved, carried, zpow_add₀ two_ne_zero]
      push_cast
      ring
    refine ⟨⟨m / 2, q + 1, canonical⟩, ?_, ?_, fun _ => ?_⟩
    · rw [chosen, dif_neg overflow, dif_pos canonical]
    · rw [num_div_den, same]
    · show Even (m / 2)
      rw [halved]
      decide

end Magnitude

end EventRoster.Number
