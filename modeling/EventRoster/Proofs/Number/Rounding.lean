import EventRoster.Number.Binary64
import Mathlib.Data.Int.Log
import Mathlib.Data.Rat.Floor
import Mathlib.Tactic.Ring

/-!
# Rounding sees the ratio and nothing else

`Magnitude.ofRatio?` is given a numerator and a denominator, while what it rounds is their quotient.
Here the two are told apart: every step of the rounding is shown to depend on the quotient alone, so
that two ways of writing one ratio may be exchanged, and a size that is written as a ratio of
integers is read back as itself.

* `roundHalfEven_congr`: equal ratios have equal roundings.
* `binaryExponent_eq_log`: the exponent is the binary logarithm of the quotient.
* `Magnitude.ofRatio?_congr`: equal ratios are rounded to the same size.
* `Magnitude.ofRatio?_of_eq`: a ratio that is a size already is rounded to that size.
-/

namespace EventRoster.Number

/-! ## The nearest integer -/

/-- A common factor does not change the nearest integer. -/
theorem roundHalfEven_mul_mul {k : Nat} (hk : 0 < k) (num den : Nat) :
    roundHalfEven (num * k) (den * k) = roundHalfEven num den := by
  have hdiv : num * k / (den * k) = num / den := Nat.mul_div_mul_right num den hk
  have hmod : num * k % (den * k) = num % den * k := Nat.mul_mod_mul_right k num den
  have hlow : 2 * (num % den * k) < den * k ↔ 2 * (num % den) < den := by
    rw [← Nat.mul_assoc]
    exact Nat.mul_lt_mul_right hk
  have hhigh : den * k < 2 * (num % den * k) ↔ den < 2 * (num % den) := by
    rw [← Nat.mul_assoc]
    exact Nat.mul_lt_mul_right hk
  simp only [roundHalfEven, hdiv, hmod, hlow, hhigh]

/-- Equal ratios have equal nearest integers. -/
theorem roundHalfEven_congr {a b c d : Nat} (hb : 0 < b) (hd : 0 < d) (h : a * d = c * b) :
    roundHalfEven a b = roundHalfEven c d := by
  rw [← roundHalfEven_mul_mul hd a b, ← roundHalfEven_mul_mul hb c d, h, Nat.mul_comm b d]

/-- The nearest integer is one of the two next to the ratio. -/
theorem roundHalfEven_eq_or (num den : Nat) :
    roundHalfEven num den = num / den ∨ roundHalfEven num den = num / den + 1 := by
  unfold roundHalfEven
  simp only
  split
  · exact .inl rfl
  · split
    · exact .inr rfl
    · rcases Nat.mod_two_eq_zero_or_one (num / den) with even | odd
      · rw [even]
        exact .inl rfl
      · rw [odd]
        exact .inr rfl

/-! ## The binary exponent -/

/-- A power of two with an integer exponent, cleared of its denominator. -/
theorem zpow_mul_pow_toNat (q : Int) :
    (2 : ℚ) ^ q * 2 ^ (-q).toNat = 2 ^ q.toNat := by
  rw [← zpow_natCast, ← zpow_natCast, ← zpow_add₀ two_ne_zero]
  congr 1
  omega

/-- Comparing a ratio with a power of two, in natural numbers and in rational ones. -/
theorem mul_pow_lt_mul_pow_iff {num den : Nat} (hden : 0 < den) (q : Int) :
    num * 2 ^ (-q).toNat < den * 2 ^ q.toNat ↔ (num : ℚ) / den < 2 ^ q := by
  have hd : (0 : ℚ) < den := Nat.cast_pos.mpr hden
  have hp : (0 : ℚ) < 2 ^ (-q).toNat := pow_pos two_pos _
  rw [div_lt_iff₀ hd, ← mul_lt_mul_iff_left₀ hp]
  have e : (2 : ℚ) ^ q * den * 2 ^ (-q).toNat = den * 2 ^ q.toNat := by
    rw [← zpow_mul_pow_toNat q]
    ring
  rw [e]
  exact_mod_cast Iff.rfl

/-- Between one power of two and the next, the logarithm is the exponent of the first. -/
theorem log_eq_of_zpow_le_of_lt {r : ℚ} {e : Int} (hle : (2 : ℚ) ^ e ≤ r)
    (hlt : r < 2 ^ (e + 1)) : Int.log 2 r = e := by
  have hr : 0 < r := lt_of_lt_of_le (zpow_pos two_pos e) hle
  have h₁ : e ≤ Int.log 2 r := (Int.zpow_le_iff_le_log one_lt_two hr).mp (by exact_mod_cast hle)
  have h₂ : Int.log 2 r < e + 1 := (Int.lt_zpow_iff_log_lt one_lt_two hr).mp (by exact_mod_cast hlt)
  omega

/-- **The exponent is the binary logarithm.**  The guess from the lengths of the two numbers is off
by one at most, and upwards only. -/
theorem binaryExponent_eq_log {num den : Nat} (hnum : 0 < num) (hden : 0 < den) :
    binaryExponent num den = Int.log 2 ((num : ℚ) / den) := by
  have hd : (0 : ℚ) < den := Nat.cast_pos.mpr hden
  have two : (2 : ℚ) ≠ 0 := two_ne_zero
  have numLow : (2 : ℚ) ^ Nat.log2 num ≤ num := by
    exact_mod_cast Nat.log2_self_le hnum.ne'
  have numHigh : (num : ℚ) < 2 ^ (Nat.log2 num + 1) := by
    exact_mod_cast Nat.lt_log2_self
  have denLow : (2 : ℚ) ^ Nat.log2 den ≤ den := by
    exact_mod_cast Nat.log2_self_le hden.ne'
  have denHigh : (den : ℚ) < 2 ^ (Nat.log2 den + 1) := by
    exact_mod_cast Nat.lt_log2_self
  set guess : Int := (Nat.log2 num : Int) - (Nat.log2 den : Int) with hguess
  have below : (2 : ℚ) ^ (guess - 1) ≤ (num : ℚ) / den := by
    rw [le_div_iff₀ hd]
    calc (2 : ℚ) ^ (guess - 1) * den ≤ 2 ^ (guess - 1) * 2 ^ (Nat.log2 den + 1) :=
          mul_le_mul_of_nonneg_left denHigh.le (zpow_pos two_pos _).le
      _ = 2 ^ Nat.log2 num := by
          rw [← zpow_natCast, ← zpow_natCast, ← zpow_add₀ two]
          congr 1
          push_cast
          omega
      _ ≤ num := numLow
  have above : (num : ℚ) / den < 2 ^ (guess + 1) := by
    rw [div_lt_iff₀ hd]
    calc (num : ℚ) < 2 ^ (Nat.log2 num + 1) := numHigh
      _ = 2 ^ (guess + 1) * 2 ^ Nat.log2 den := by
          rw [← zpow_natCast, ← zpow_natCast, ← zpow_add₀ two]
          congr 1
          push_cast
          omega
      _ ≤ 2 ^ (guess + 1) * den := mul_le_mul_of_nonneg_left denLow (zpow_pos two_pos _).le
  have test : num * Nat.pow 2 (-guess).toNat < den * Nat.pow 2 guess.toNat ↔
      (num : ℚ) / den < 2 ^ guess := mul_pow_lt_mul_pow_iff hden guess
  unfold binaryExponent
  simp only [← hguess, test]
  split
  · next less =>
    exact (log_eq_of_zpow_le_of_lt below (by rwa [sub_add_cancel])).symm
  · next notLess =>
    exact (log_eq_of_zpow_le_of_lt (not_lt.mp notLess) above).symm

/-! ## The nearest size -/

namespace Magnitude

/-- Equal ratios have equal mantissas at every exponent. -/
theorem mantissaAt_congr {a b c d : Nat} (hb : 0 < b) (hd : 0 < d) (h : a * d = c * b) (q : Int) :
    mantissaAt a b q = mantissaAt c d q := by
  have pos : ∀ n : Nat, 0 < Nat.pow 2 n := fun n => Nat.pow_pos (by decide)
  refine roundHalfEven_congr (Nat.mul_pos hb (pos _)) (Nat.mul_pos hd (pos _)) ?_
  calc a * Nat.pow 2 (-q).toNat * (d * Nat.pow 2 q.toNat)
      = a * d * (Nat.pow 2 (-q).toNat * Nat.pow 2 q.toNat) := by ring
    _ = c * b * (Nat.pow 2 (-q).toNat * Nat.pow 2 q.toNat) := by rw [h]
    _ = c * Nat.pow 2 (-q).toNat * (b * Nat.pow 2 q.toNat) := by ring

/-- **Equal ratios are rounded to the same size.** -/
theorem ofRatio?_congr {a b c d : Nat} (hb : 0 < b) (hd : 0 < d) (h : a * d = c * b) :
    ofRatio? a b = ofRatio? c d := by
  have zero_iff : a = 0 ↔ c = 0 := by
    rw [← mul_eq_zero_iff_right hd.ne', h, mul_eq_zero_iff_right hb.ne']
  by_cases ha : a = 0
  · rw [ofRatio?, ofRatio?, if_pos ha, if_pos (zero_iff.mp ha)]
  · have hc : c ≠ 0 := fun e => ha (zero_iff.mpr e)
    have ratio : (a : ℚ) / b = (c : ℚ) / d := by
      rw [div_eq_div_iff (Nat.cast_ne_zero.mpr hb.ne') (Nat.cast_ne_zero.mpr hd.ne')]
      exact_mod_cast h
    have exponent : binaryExponent a b = binaryExponent c d := by
      rw [binaryExponent_eq_log (Nat.pos_of_ne_zero ha) hb,
        binaryExponent_eq_log (Nat.pos_of_ne_zero hc) hd, ratio]
    rw [ofRatio?, ofRatio?, if_neg ha, if_neg hc]
    simp only [exponent, mantissaAt_congr hb hd h]

theorem num_eq_zero_iff {x : Magnitude} : x.num = 0 ↔ x.mantissa = 0 := by
  unfold num
  exact mul_eq_zero_iff_right (Nat.pow_pos (by decide)).ne'

/-- There is one zero. -/
theorem eq_zero_of_mantissa_eq_zero {x : Magnitude} (h : x.mantissa = 0) : x = zero := by
  obtain ⟨m, q, canonical⟩ := x
  obtain rfl : m = 0 := h
  obtain rfl : q = -1074 := by
    rcases canonical.2.2.2 with full | least
    · exact absurd full (by decide)
    · exact least
  rfl

/-- A size as a rational number. -/
theorem num_div_den (x : Magnitude) : (x.num : ℚ) / x.den = x.mantissa * 2 ^ x.exponent := by
  have hden : (x.den : ℚ) ≠ 0 := Nat.cast_ne_zero.mpr x.den_pos.ne'
  rw [div_eq_iff hden]
  have e : (x.den : ℚ) = 2 ^ (-x.exponent).toNat := by
    exact_mod_cast rfl
  have e' : (x.num : ℚ) = x.mantissa * 2 ^ x.exponent.toNat := by
    exact_mod_cast rfl
  rw [e, e', mul_assoc, zpow_mul_pow_toNat]

/-- The exponent that the rounding chooses for a size is the exponent of the size. -/
theorem max_binaryExponent (x : Magnitude) (h : x.mantissa ≠ 0) :
    max (binaryExponent x.num x.den - 52) (-1074) = x.exponent := by
  have hnum : 0 < x.num := Nat.pos_of_ne_zero fun e => h (num_eq_zero_iff.mp e)
  have hpow : (0 : ℚ) < 2 ^ x.exponent := zpow_pos two_pos _
  obtain ⟨bits, least, -, full⟩ := x.canonical
  have upper : Int.log 2 ((x.num : ℚ) / x.den) < x.exponent + 53 := by
    refine (Int.lt_zpow_iff_log_lt one_lt_two ?_).mp ?_
    · exact div_pos (Nat.cast_pos.mpr hnum) (Nat.cast_pos.mpr x.den_pos)
    · rw [num_div_den]
      have hm : (x.mantissa : ℚ) < 2 ^ (53 : Int) := by exact_mod_cast bits
      calc (x.mantissa : ℚ) * 2 ^ x.exponent < 2 ^ (53 : Int) * 2 ^ x.exponent :=
            mul_lt_mul_of_pos_right hm hpow
        _ = ((2 : Nat) : ℚ) ^ (x.exponent + 53) := by
            rw [Nat.cast_ofNat, ← zpow_add₀ two_ne_zero, Int.add_comm]
  rw [binaryExponent_eq_log hnum x.den_pos]
  rcases full with full | atLeast
  · have lower : x.exponent + 52 ≤ Int.log 2 ((x.num : ℚ) / x.den) := by
      refine (Int.zpow_le_iff_le_log one_lt_two ?_).mp ?_
      · exact div_pos (Nat.cast_pos.mpr hnum) (Nat.cast_pos.mpr x.den_pos)
      · rw [num_div_den]
        have hm : (2 : ℚ) ^ (52 : Int) ≤ x.mantissa := by exact_mod_cast full
        calc ((2 : Nat) : ℚ) ^ (x.exponent + 52) = 2 ^ (52 : Int) * 2 ^ x.exponent := by
              rw [Nat.cast_ofNat, ← zpow_add₀ two_ne_zero, Int.add_comm]
          _ ≤ x.mantissa * 2 ^ x.exponent := mul_le_mul_of_nonneg_right hm hpow.le
    omega
  · omega

/-- A size is rounded to itself. -/
theorem ofRatio?_num_den (x : Magnitude) : ofRatio? x.num x.den = some x := by
  by_cases hm : x.mantissa = 0
  · rw [ofRatio?, if_pos (num_eq_zero_iff.mpr hm), eq_zero_of_mantissa_eq_zero hm]
  · have mantissa : mantissaAt x.num x.den x.exponent = x.mantissa := by
      have e : x.num * Nat.pow 2 (-x.exponent).toNat =
          x.mantissa * (x.den * Nat.pow 2 x.exponent.toNat) := by
        rw [num, den]
        ring
      rw [mantissaAt, e]
      exact roundHalfEven_mul (Nat.mul_pos x.den_pos (Nat.pow_pos (by decide)))
    have hnum : x.num ≠ 0 := fun e => hm (num_eq_zero_iff.mp e)
    rw [ofRatio?, if_neg hnum]
    simp only [max_binaryExponent x hm, mantissa, x.canonical, dite_true]

/-- **A ratio that is a size already is rounded to that size**, however it is written. -/
theorem ofRatio?_of_eq {num den : Nat} (hden : 0 < den) {x : Magnitude}
    (h : num * x.den = x.num * den) : ofRatio? num den = some x := by
  rw [ofRatio?_congr hden x.den_pos h, ofRatio?_num_den]

/-- Every whole number of at most 53 bits is a size. -/
theorem exists_num_eq_mul_den {n : Nat} (hn : n < 2 ^ 53) : ∃ x : Magnitude, x.num = n * x.den := by
  rcases Nat.eq_zero_or_pos n with rfl | pos
  · exact ⟨zero, by rw [Nat.zero_mul, num_zero]⟩
  · set k := 52 - Nat.log 2 n with hk
    have low : 2 ^ Nat.log 2 n ≤ n := Nat.pow_log_le_self 2 pos.ne'
    have high : n < 2 ^ (Nat.log 2 n + 1) := Nat.lt_pow_succ_log_self (by decide) n
    have bits : Nat.log 2 n ≤ 52 := by
      have := Nat.log_lt_of_lt_pow pos.ne' hn
      omega
    have least : 2 ^ 52 ≤ n * 2 ^ k := by
      calc 2 ^ 52 = 2 ^ Nat.log 2 n * 2 ^ k := by rw [← Nat.pow_add, hk, Nat.add_sub_cancel' bits]
        _ ≤ n * 2 ^ k := Nat.mul_le_mul_right _ low
    have greatest : n * 2 ^ k < 2 ^ 53 := by
      calc n * 2 ^ k < 2 ^ (Nat.log 2 n + 1) * 2 ^ k :=
            Nat.mul_lt_mul_of_pos_right high (Nat.pow_pos (by decide))
        _ = 2 ^ 53 := by
          rw [← Nat.pow_add]
          congr 1
          omega
    refine ⟨⟨n * 2 ^ k, -k, greatest, by omega, by omega, .inl least⟩, ?_⟩
    have exponent : (-(k : Int)).toNat = 0 := by omega
    have scale : (-(-(k : Int))).toNat = k := by omega
    show n * 2 ^ k * 2 ^ (-(k : Int)).toNat = n * 2 ^ (-(-(k : Int))).toNat
    rw [exponent, scale, Nat.pow_zero, Nat.mul_one]

end Magnitude

/-- Seconds counted in whole numbers are counted exactly: the ratio of a multiple of a number to the
number itself drops nothing. -/
theorem Binary64.truncate?_ofIntRatio {n : Int} {den : Nat} (hden : 0 < den)
    (hn : n.natAbs < 2 ^ 53) : (Binary64.ofIntRatio (n * den) den).truncate? = some n := by
  obtain ⟨x, hx⟩ := Magnitude.exists_num_eq_mul_den hn
  have size : Magnitude.ofRatio? (n * den).natAbs den = some x := by
    refine Magnitude.ofRatio?_of_eq hden ?_
    rw [hx, Int.natAbs_mul, Int.natAbs_natCast]
    ring
  have floor : x.floor = n.natAbs := by
    rw [Magnitude.floor, hx, Nat.mul_div_cancel _ x.den_pos]
  have sign : n * den < 0 ↔ n < 0 := by
    have : (0 : Int) < den := by omega
    constructor
    · intro h
      nlinarith
    · intro h
      nlinarith
  rw [ofIntRatio, ofRatio, size]
  show some (signed (decide (n * den < 0)) x.floor) = some n
  rw [floor, signed, Option.some.injEq]
  by_cases h : n < 0
  · rw [if_pos (decide_eq_true (sign.2 h))]
    omega
  · rw [if_neg (by simp [sign, h])]
    omega

end EventRoster.Number
