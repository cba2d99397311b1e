import EventRoster.Number.Written
import EventRoster.Proofs.Number.Rounding

/-!
# Decimals that read back

A decimal may be written with more or fewer zeros at its end without changing what it is read as, and
the decimal that `Magnitude.shortest` chooses for a size is read as that size.

* `Binary64.ofDecimal_mul_pow`: zeros may be moved between the digits and the exponent.
* `Magnitude.isReadFrom_exactDecimal`: all digits of a size read back, which covers the case in which
  no grid is fine enough.
* `Magnitude.isReadFrom_shortest`: whatever is chosen reads back.
-/

namespace EventRoster.Number

/-! ## Counting digits -/

theorem natChars_ne_nil (n : Nat) : natChars n ≠ [] :=
  Nat.toDigits_ne_nil

/-- A number lies below the power of ten that its digits count. -/
theorem lt_pow_length_natChars (n : Nat) : n < 10 ^ (natChars n).length :=
  (Nat.length_toDigits_le_iff (by decide) Nat.length_toDigits_pos).mp (Nat.le_refl _)

/-- A number below a power of ten has no more digits than that. -/
theorem length_natChars_le {n k : Nat} (hk : 0 < k) (h : n < 10 ^ k) : (natChars n).length ≤ k :=
  (Nat.length_toDigits_le_iff (by decide) hk).mpr h

/-- A number from a power of ten on has more digits than that. -/
theorem lt_length_natChars {n k : Nat} (h : 10 ^ k ≤ n) : k < (natChars n).length := by
  by_contra few
  have le : 10 ^ (natChars n).length ≤ 10 ^ k := Nat.pow_le_pow_right (by decide) (by omega)
  have lt := lt_pow_length_natChars n
  omega

/-- Ten times a number is the number with a zero behind it. -/
theorem natChars_mul_ten {n : Nat} (hn : 0 < n) : natChars (n * 10) = natChars n ++ ['0'] := by
  have h := Nat.toDigits_append_toDigits (b := 10) (n := n) (d := 0) (by decide) hn (by decide)
  rw [Nat.add_zero, Nat.mul_comm, Nat.toDigits_zero] at h
  exact h.symm

/-- A power of ten times a number is the number with as many zeros behind it. -/
theorem natChars_mul_pow {n : Nat} (hn : 0 < n) (k : Nat) :
    natChars (n * 10 ^ k) = natChars n ++ List.replicate k '0' := by
  induction k with
  | zero => simp
  | succ k ih =>
    rw [Nat.pow_succ, ← Nat.mul_assoc, natChars_mul_ten (Nat.mul_pos hn (Nat.pow_pos (by decide))),
      ih, List.append_assoc, ← List.replicate_succ']

/-! ## Zeros at the end -/

namespace Binary64

/-- Equal ratios are read as the same number. -/
theorem ofRatio_congr {a b c d : Nat} (hb : 0 < b) (hd : 0 < d) (h : a * d = c * b)
    (negative : Bool) : ofRatio negative a b = ofRatio negative c d := by
  rw [ofRatio, ofRatio, Magnitude.ofRatio?_congr hb hd h]

/-- **Zeros may be moved between the digits of a decimal and its exponent.** -/
theorem ofDecimal_mul_pow (negative : Bool) (n k : Nat) (e : Int) :
    ofDecimal negative (n * 10 ^ k) (e - k) = ofDecimal negative n e := by
  have tens : 0 < 10 ^ k := Nat.pow_pos (by decide)
  by_cases hn : n = 0
  · rw [hn, Nat.zero_mul, ofDecimal, ofDecimal, if_pos rfl, if_pos rfl]
  · have leading : ((Nat.toDigits 10 (n * 10 ^ k)).length : Int) + (e - k) =
        (Nat.toDigits 10 n).length + e := by
      have h := congrArg List.length (natChars_mul_pow (Nat.pos_of_ne_zero hn) k)
      rw [List.length_append, List.length_replicate, natChars, natChars] at h
      omega
    have ratio : n * 10 ^ k * Nat.pow 10 (e - k).toNat * Nat.pow 10 (-e).toNat =
        n * Nat.pow 10 e.toNat * Nat.pow 10 (-(e - k)).toNat := by
      simp only [Nat.pow_eq, Nat.mul_assoc, ← Nat.pow_add]
      congr 2
      omega
    have pos : ∀ m : Nat, 0 < Nat.pow 10 m := fun m => Nat.pow_pos (by decide)
    have value := ofRatio_congr (pos _) (pos _) ratio negative
    have positive : n * 10 ^ k ≠ 0 := Nat.mul_ne_zero hn tens.ne'
    simp only [ofDecimal, leading, hn, positive, if_false, value]

/-- A number with digits and a leading digit within reach is read as its ratio. -/
theorem ofDecimal_eq_ofRatio {negative : Bool} {n : Nat} {e : Int} (hn : n ≠ 0)
    (high : ((natChars n).length : Int) + e ≤ 310) (low : -330 ≤ ((natChars n).length : Int) + e) :
    ofDecimal negative n e =
      ofRatio negative (n * Nat.pow 10 e.toNat) (Nat.pow 10 (-e).toNat) := by
  rw [natChars] at high low
  simp only [ofDecimal]
  rw [if_neg hn, if_neg (by omega), if_neg (by omega)]

/-- A decimal is no NaN. -/
theorem ofDecimal_ne_nan (negative : Bool) (n : Nat) (e : Int) : ofDecimal negative n e ≠ nan := by
  have ratio : ∀ a b, ofRatio negative a b ≠ nan := by
    intro a b h
    unfold ofRatio at h
    cases size : Magnitude.ofRatio? a b with
    | none => rw [size] at h; cases h
    | some x => rw [size] at h; cases h
  intro h
  simp only [ofDecimal] at h
  split at h
  · cases h
  · split at h
    · cases h
    · split at h
      · cases h
      · exact ratio _ _ h

/-- What stands before the digits of a decimal is only its sign. -/
theorem ofDecimal_of_false {negative : Bool} {n : Nat} {e : Int} {x : Magnitude}
    (h : ofDecimal false n e = finite false x) : ofDecimal negative n e = finite negative x := by
  simp only [ofDecimal, ofRatio] at h ⊢
  split
  · next zero => rw [if_pos zero, finite.injEq] at h; rw [h.2]
  · next positive =>
    rw [if_neg positive] at h
    split
    · next large => rw [if_pos large] at h; cases h
    · next notLarge =>
      rw [if_neg notLarge] at h
      split
      · next small => rw [if_pos small, finite.injEq] at h; rw [h.2]
      · next notSmall =>
        rw [if_neg notSmall] at h
        split
        · next size eq => rw [eq, finite.injEq] at h; rw [h.2]
        · next eq => rw [eq] at h; cases h

end Binary64

/-! ## All digits of a size -/

namespace Magnitude

/-- The powers of two above all sizes have at most 309 digits. -/
theorem two_pow_lt_of_le_1024 {k : Nat} (hk : k ≤ 1024) : 2 ^ k < 10 ^ 309 :=
  Nat.lt_of_le_of_lt (Nat.pow_le_pow_right (by decide) hk) (by decide +kernel)

/-- The powers of two in the denominators of sizes have at most 324 digits. -/
theorem two_pow_lt_of_le_1074 {k : Nat} (hk : k ≤ 1074) : 2 ^ k < 10 ^ 324 :=
  Nat.lt_of_le_of_lt (Nat.pow_le_pow_right (by decide) hk) (by decide +kernel)

/-- The numerator of a size has at most 309 digits. -/
theorem num_lt (x : Magnitude) : x.num < 10 ^ 309 := by
  obtain ⟨bits, -, most, -⟩ := x.canonical
  calc x.num < 2 ^ 53 * 2 ^ x.exponent.toNat :=
        Nat.mul_lt_mul_of_pos_right bits (Nat.pow_pos (by decide))
    _ = 2 ^ (53 + x.exponent.toNat) := (Nat.pow_add ..).symm
    _ < 10 ^ 309 := two_pow_lt_of_le_1024 (by omega)

/-- The digits of a size above one end before the point of infinity. -/
theorem leading_of_nonneg {x : Magnitude} (hq : 0 ≤ x.exponent) :
    ((natChars (x.num * Nat.pow 5 (-x.exponent).toNat)).length : Int) + min x.exponent 0 ≤ 310 := by
  have five : (-x.exponent).toNat = 0 := by omega
  have length := length_natChars_le (by decide) x.num_lt
  rw [five, Nat.pow_eq, Nat.pow_zero, Nat.mul_one]
  omega

/-- The digits of a size below one neither begin far before the point nor far behind it. -/
theorem leading_of_neg {x : Magnitude} (hm : x.mantissa ≠ 0) (hq : x.exponent < 0) :
    ((natChars (x.num * Nat.pow 5 (-x.exponent).toNat)).length : Int) + min x.exponent 0 ≤ 310 ∧
      -330 ≤
        ((natChars (x.num * Nat.pow 5 (-x.exponent).toNat)).length : Int) + min x.exponent 0 := by
  obtain ⟨bits, least, -, -⟩ := x.canonical
  have num : x.num = x.mantissa := by
    rw [Magnitude.num, show x.exponent.toNat = 0 by omega, Nat.pow_eq, Nat.pow_zero, Nat.mul_one]
  set b := (-x.exponent).toNat with hb
  rw [num, Nat.pow_eq]
  set n := x.mantissa * 5 ^ b with hn
  have upper : n < 10 ^ (16 + b) := by
    calc n < 10 ^ 16 * 5 ^ b :=
          Nat.mul_lt_mul_of_pos_right (lt_trans bits (by decide)) (Nat.pow_pos (by decide))
      _ ≤ 10 ^ 16 * 10 ^ b := Nat.mul_le_mul_left _ (Nat.pow_le_pow_left (by decide) b)
      _ = 10 ^ (16 + b) := (Nat.pow_add ..).symm
  have lower : 10 ^ b < 10 ^ ((natChars n).length + 324) := by
    calc 10 ^ b = 5 ^ b * 2 ^ b := by rw [← Nat.mul_pow]
      _ ≤ n * 2 ^ b :=
          Nat.mul_le_mul_right _ (Nat.le_mul_of_pos_left _ (Nat.pos_of_ne_zero hm))
      _ < 10 ^ (natChars n).length * 10 ^ 324 :=
          Nat.mul_lt_mul_of_lt_of_lt (lt_pow_length_natChars n) (two_pow_lt_of_le_1074 (by omega))
      _ = 10 ^ ((natChars n).length + 324) := (pow_add 10 (natChars n).length 324).symm
  have length := length_natChars_le (by omega) upper
  have length' := (Nat.pow_lt_pow_iff_right (by decide)).mp lower
  omega

/-- All digits of a size read back. -/
theorem isReadFrom_exactDecimal {x : Magnitude} (hm : x.mantissa ≠ 0) :
    x.isReadFrom x.exactDecimal = true := by
  have hnum : 0 < x.num := Nat.pos_of_ne_zero fun e => hm (num_eq_zero_iff.mp e)
  have positive : x.num * Nat.pow 5 (-x.exponent).toNat ≠ 0 :=
    (Nat.mul_pos hnum (Nat.pow_pos (by decide))).ne'
  have leading : ((natChars (x.num * Nat.pow 5 (-x.exponent).toNat)).length : Int) +
        min x.exponent 0 ≤ 310 ∧ -330 ≤
      ((natChars (x.num * Nat.pow 5 (-x.exponent).toNat)).length : Int) + min x.exponent 0 := by
    rcases lt_or_ge x.exponent 0 with below | above
    · exact leading_of_neg hm below
    · refine ⟨leading_of_nonneg above, ?_⟩
      omega
  have den_pos : 0 < Nat.pow 10 (-min x.exponent 0).toNat := Nat.pow_pos (by decide)
  have exact' : x.num * Nat.pow 5 (-x.exponent).toNat * Nat.pow 10 (min x.exponent 0).toNat *
      x.den = x.num * Nat.pow 10 (-min x.exponent 0).toNat := by
    rw [show (min x.exponent 0).toNat = 0 by omega,
      show (-min x.exponent 0).toNat = (-x.exponent).toNat by omega, den]
    simp only [Nat.pow_eq, Nat.pow_zero, Nat.mul_one, Nat.mul_assoc, ← Nat.mul_pow]
  rw [isReadFrom, decide_eq_true_eq, Decimal.toBinary64, exactDecimal,
    Binary64.ofDecimal_eq_ofRatio positive leading.1 leading.2, Binary64.ofRatio,
    ofRatio?_of_eq den_pos exact']

/-! ## The shortest decimal -/

/-- What a grid offers reads back. -/
theorem isReadFrom_of_onGrid? {x : Magnitude} {k : Int} {d : Decimal} (h : x.onGrid? k = some d) :
    x.isReadFrom d = true := by
  simp only [onGrid?] at h
  split at h
  · next low high =>
    obtain rfl := Option.some.inj h
    rcases roundHalfEven_eq_or (x.num * Nat.pow 10 (-k).toNat) (x.den * Nat.pow 10 k.toNat) with
      down | up
    · rw [down]
      exact low
    · rw [up]
      exact high
  · next low _ => rwa [← Option.some.inj h]
  · next _ high => rwa [← Option.some.inj h]
  · cases h

/-- **The shortest decimal reads back.** -/
theorem isReadFrom_shortest {x : Magnitude} (hm : x.mantissa ≠ 0) :
    x.isReadFrom x.shortest = true := by
  rw [shortest]
  cases found : (List.range 17).findSome? fun (i : Nat) =>
      x.onGrid? (decimalExponent x.num x.den - (i : Int)) with
  | none => exact isReadFrom_exactDecimal hm
  | some d =>
    obtain ⟨i, -, grid⟩ := List.exists_of_findSome?_eq_some found
    exact isReadFrom_of_onGrid? grid

/-- The shortest decimal with a sign reads back as the size with that sign. -/
theorem toBinary64_shortest {x : Magnitude} (hm : x.mantissa ≠ 0) (negative : Bool) :
    x.shortest.toBinary64 negative = .finite negative x := by
  have h := isReadFrom_shortest hm
  rw [isReadFrom, decide_eq_true_eq] at h
  exact Binary64.ofDecimal_of_false h

/-- The shortest decimal of a size that is not zero has a digit that is not zero. -/
theorem digits_shortest_pos {x : Magnitude} (hm : x.mantissa ≠ 0) : 0 < x.shortest.digits := by
  refine Nat.pos_of_ne_zero fun none => hm ?_
  have h := toBinary64_shortest hm false
  rw [Decimal.toBinary64, none, Binary64.ofDecimal, if_pos rfl, Binary64.finite.injEq] at h
  rw [← h.2]
  rfl

end Magnitude

end EventRoster.Number
