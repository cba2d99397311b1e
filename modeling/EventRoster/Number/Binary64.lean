import EventRoster.Number.Ratio

/-!
# Binary64 numbers as exact values

A finite binary64 number is `± m · 2 ^ q` with integers `m` and `q`.  Here it *is* that pair, in the
one form in which each number occurs once, so that equality of values is equality of terms and every
operation is integer arithmetic.  There is one NaN: no operation of this library can tell two apart.

* `Magnitude.ofRatio?` rounds a positive ratio to nearest, ties to even, and fails exactly when the
  result would be too large.
* `Binary64.ofRatio` and `Binary64.ofDecimal` are the two ways into the type.
* `Binary64.truncate?` is the way out to the integers.
-/

namespace EventRoster.Number

/-- The mantissas and exponents of finite binary64 numbers: a mantissa has 53 bits, fewer only at
the least exponent. -/
def Canonical (m : Nat) (q : Int) : Prop :=
  m < Nat.pow 2 53 ∧ -1074 ≤ q ∧ q ≤ 971 ∧ (Nat.pow 2 52 ≤ m ∨ q = -1074)

instance (m : Nat) (q : Int) : Decidable (Canonical m q) :=
  inferInstanceAs (Decidable (_ ∧ _ ∧ _ ∧ _))

/-- The size of a finite binary64 number, `mantissa · 2 ^ exponent`. -/
structure Magnitude where
  mantissa : Nat
  exponent : Int
  canonical : Canonical mantissa exponent
deriving DecidableEq, Repr

namespace Magnitude

/-- The size as a ratio of integers: the numerator. -/
def num (x : Magnitude) : Nat :=
  x.mantissa * Nat.pow 2 x.exponent.toNat

/-- The size as a ratio of integers: the denominator, a power of two. -/
def den (x : Magnitude) : Nat :=
  Nat.pow 2 (-x.exponent).toNat

theorem den_pos (x : Magnitude) : 0 < x.den :=
  Nat.pow_pos (by decide)

/-- Zero. -/
def zero : Magnitude :=
  ⟨0, -1074, by decide⟩

/-- The mantissa that `num / den` rounds to when the exponent is `q`. -/
def mantissaAt (num den : Nat) (q : Int) : Nat :=
  roundHalfEven (num * Nat.pow 2 (-q).toNat) (den * Nat.pow 2 q.toNat)

/-- The nearest size to `num / den`, ties to even, unless it is too large to be finite.  When the
rounding carries into a fifty-fourth bit, the mantissa is halved. -/
def ofRatio? (num den : Nat) : Option Magnitude :=
  if num = 0 then some zero
  else
    let q := max (binaryExponent num den - 52) (-1074)
    let m := mantissaAt num den q
    if h : Canonical m q then some ⟨m, q, h⟩
    else if h : Canonical (m / 2) (q + 1) then some ⟨m / 2, q + 1, h⟩
    else none

/-- The integer part. -/
def floor (x : Magnitude) : Nat :=
  x.num / x.den

/-- The least integer not below. -/
def ceil (x : Magnitude) : Nat :=
  ceilDiv x.num x.den

@[simp] theorem num_zero : zero.num = 0 := by decide

@[simp] theorem floor_zero : zero.floor = 0 := by simp [floor]

end Magnitude

/-- A binary64 number. -/
inductive Binary64
  | finite (negative : Bool) (size : Magnitude)
  | infinite (negative : Bool)
  | nan
deriving DecidableEq, Repr

/-- The integer of a given size and sign. -/
def signed (negative : Bool) (n : Nat) : Int :=
  if negative then -(n : Int) else n

namespace Binary64

/-- The number nearest to `± num / den`. -/
def ofRatio (negative : Bool) (num den : Nat) : Binary64 :=
  match Magnitude.ofRatio? num den with
  | some size => finite negative size
  | none => infinite negative

/-- The number nearest to `n / den`. -/
def ofIntRatio (n : Int) (den : Nat) : Binary64 :=
  ofRatio (n < 0) n.natAbs den

/-- The number nearest to `± digits · 10 ^ exponent`.  A decimal whose leading digit stands far
outside the range of finite numbers is not computed: it is infinite or zero whatever follows. -/
def ofDecimal (negative : Bool) (digits : Nat) (exponent : Int) : Binary64 :=
  let leading : Int := (Nat.toDigits 10 digits).length + exponent
  if digits = 0 then finite negative Magnitude.zero
  else if 310 < leading then infinite negative
  else if leading < -330 then finite negative Magnitude.zero
  else ofRatio negative (digits * Nat.pow 10 exponent.toNat) (Nat.pow 10 (-exponent).toNat)

/-- Whether the number is finite. -/
def isFinite : Binary64 → Bool
  | finite .. => true
  | _ => false

/-- The integer that results when the fraction is dropped. -/
def truncate? : Binary64 → Option Int
  | finite negative size => some (signed negative size.floor)
  | _ => none

/-- The least integer not below the number. -/
def ceil? : Binary64 → Option Int
  | finite negative size => some (if negative then -(size.floor : Int) else size.ceil)
  | _ => none

/-- Whether the number is at most zero.  NaN is not. -/
def isNonpositive : Binary64 → Bool
  | finite negative size => negative || size.mantissa == 0
  | infinite negative => negative
  | nan => false

@[simp] theorem isFinite_finite (s : Bool) (m : Magnitude) : (finite s m).isFinite = true := rfl

end Binary64

end EventRoster.Number
