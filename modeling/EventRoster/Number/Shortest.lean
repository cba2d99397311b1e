import EventRoster.Number.Binary64

/-!
# The shortest decimal that reads back

A finite binary64 number is written with the fewest digits from which it can be read back, and
among those with the decimal nearest to it.  On the grid of multiples of a power of ten only the two
neighbours of the number need to be tried: if any point of the grid rounds to the number, one of
these does.

A candidate is accepted only if `Binary64.ofDecimal` returns the number itself, and if no grid is
fine enough the number is written out exactly, so what is written always reads back.
-/

namespace EventRoster.Number

/-- The decimal `digits · 10 ^ exponent`. -/
structure Decimal where
  digits : Nat
  exponent : Int
deriving DecidableEq, Repr

/-- The number nearest to a decimal, with a given sign. -/
def Decimal.toBinary64 (negative : Bool) (d : Decimal) : Binary64 :=
  Binary64.ofDecimal negative d.digits d.exponent

namespace Magnitude

/-- Whether a decimal reads back as this size. -/
def isReadFrom (x : Magnitude) (d : Decimal) : Bool :=
  d.toBinary64 false = .finite false x

/-- The multiple of `10 ^ k` that reads back as `x` and is nearest to it; a tie goes to the even
multiple. -/
def onGrid? (x : Magnitude) (k : Int) : Option Decimal :=
  let num := x.num * Nat.pow 10 (-k).toNat
  let den := x.den * Nat.pow 10 k.toNat
  let low : Decimal := ⟨num / den, k⟩
  let high : Decimal := ⟨num / den + 1, k⟩
  match x.isReadFrom low, x.isReadFrom high with
  | true, true => some ⟨roundHalfEven num den, k⟩
  | true, false => some low
  | false, true => some high
  | false, false => none

/-- All digits of a size. -/
def exactDecimal (x : Magnitude) : Decimal :=
  ⟨x.num * Nat.pow 5 (-x.exponent).toNat, min x.exponent 0⟩

/-- The shortest decimal that reads back as a size, zero apart. -/
def shortest (x : Magnitude) : Decimal :=
  let top := decimalExponent x.num x.den
  ((List.range 17).findSome? fun (i : Nat) => x.onGrid? (top - (i : Int))).getD x.exactDecimal

end Magnitude

end EventRoster.Number
