/-!
# Rounding a ratio of natural numbers

Every inexact step of this library is the rounding of an exact ratio: a decimal to binary64, a
duration to seconds, an instant to microseconds.  The ratio is kept as numerator and denominator
until one of the functions here turns it into an integer.
-/

namespace EventRoster.Number

/-- The integer nearest to `num / den`; a tie goes to the even neighbour. -/
def roundHalfEven (num den : Nat) : Nat :=
  let floor := num / den
  let remainder := num % den
  if 2 * remainder < den then floor
  else if den < 2 * remainder then floor + 1
  else floor + floor % 2

/-- The least integer not below `num / den`. -/
def ceilDiv (num den : Nat) : Nat :=
  if num % den = 0 then num / den else num / den + 1

/-- The greatest `e` with `2 ^ e ≤ num / den`, for positive `num` and `den`. -/
def binaryExponent (num den : Nat) : Int :=
  let guess : Int := (Nat.log2 num : Int) - (Nat.log2 den : Int)
  if num * Nat.pow 2 (-guess).toNat < den * Nat.pow 2 guess.toNat then guess - 1 else guess

/-- The greatest `e` with `10 ^ e ≤ num / den`, for positive `num` and `den`. -/
def decimalExponent (num den : Nat) : Int :=
  let guess : Int := ((Nat.toDigits 10 num).length : Int) - ((Nat.toDigits 10 den).length : Int)
  if num * Nat.pow 10 (-guess).toNat < den * Nat.pow 10 guess.toNat then guess - 1 else guess

/-- An exact ratio is its own rounding. -/
theorem roundHalfEven_mul {n d : Nat} (h : 0 < d) : roundHalfEven (n * d) d = n := by
  simp [roundHalfEven, Nat.mul_div_cancel n h, h]

/-- The rounding is within half a unit of the ratio. -/
theorem roundHalfEven_near {num den : Nat} (h : 0 < den) :
    2 * (roundHalfEven num den * den) ≤ 2 * num + den ∧
      2 * num ≤ 2 * (roundHalfEven num den * den) + den := by
  have split := Nat.div_add_mod num den
  have small := Nat.mod_lt num h
  have comm : num / den * den = den * (num / den) := Nat.mul_comm ..
  unfold roundHalfEven
  simp only
  split
  · omega
  · split
    · have : (num / den + 1) * den = num / den * den + den := Nat.succ_mul ..
      omega
    · rcases Nat.mod_two_eq_zero_or_one (num / den) with even | odd
      · rw [even]
        simp only [Nat.add_zero]
        omega
      · rw [odd]
        have : (num / den + 1) * den = num / den * den + den := Nat.succ_mul ..
        omega

end EventRoster.Number
