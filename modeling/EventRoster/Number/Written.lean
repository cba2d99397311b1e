import EventRoster.Number.Shortest

/-!
# Numbers in writing

Integers are written in decimal with a minus sign.  Binary64 numbers are written with the shortest
digits that read back, positionally between `10 ^ -4` and `10 ^ 16` and with an exponent of at least
two digits outside, and a number without a fraction keeps the digit `0` after its point.
-/

namespace EventRoster.Number

/-- The decimal digits of a natural number. -/
def natChars (n : Nat) : List Char :=
  Nat.toDigits 10 n

/-- An integer in decimal. -/
def intChars (n : Int) : List Char :=
  if n < 0 then '-' :: natChars n.natAbs else natChars n.natAbs

/-- An integer in decimal. -/
def intText (n : Int) : String :=
  String.ofList (intChars n)

/-- How binary64 numbers are written. -/
structure FloatStyle where
  /-- The least decimal exponent written positionally. -/
  positionalFrom : Int
  /-- The least decimal exponent above those written positionally. -/
  positionalBelow : Int
  /-- The least number of digits of an exponent. -/
  exponentWidth : Nat
  infinity : String
  notANumber : String

/-- Numbers in messages: `1e+16` follows `9999999999999998.0`, and `inf` and `nan` are spelled so. -/
def messageStyle : FloatStyle := ⟨-4, 16, 2, "inf", "nan"⟩

/-- Numbers in JSON: as in messages, but `Infinity` and `NaN`. -/
def jsonStyle : FloatStyle := ⟨-4, 16, 2, "Infinity", "NaN"⟩

/-- Digits with a decimal point `point` places after the first, at least one digit on each side. -/
def positional (digits : List Char) (point : Int) : List Char :=
  if point ≤ 0 then '0' :: '.' :: (List.replicate (-point).toNat '0' ++ digits)
  else if digits.length ≤ point.toNat then
    digits ++ List.replicate (point.toNat - digits.length) '0' ++ ['.', '0']
  else digits.take point.toNat ++ '.' :: digits.drop point.toNat

/-- Digits with the point after the first of them and a power of ten. -/
def scientific (width : Nat) (digits : List Char) (exponent : Int) : List Char :=
  let mantissa :=
    match digits with
    | d :: e :: rest => d :: '.' :: e :: rest
    | short => short
  let power := natChars exponent.natAbs
  mantissa ++ 'e' :: (if exponent < 0 then '-' else '+') ::
    (List.replicate (width - power.length) '0' ++ power)

/-- The digits of a decimal without zeros at their end. -/
def significantDigits (d : Decimal) : List Char :=
  ((natChars d.digits).reverse.dropWhile (· = '0')).reverse

/-- A size in writing. -/
def Magnitude.chars (style : FloatStyle) (x : Magnitude) : List Char :=
  if x.mantissa = 0 then ['0', '.', '0']
  else
    let d := x.shortest
    let point : Int := (natChars d.digits).length + d.exponent
    if style.positionalFrom ≤ point - 1 ∧ point - 1 < style.positionalBelow then
      positional (significantDigits d) point
    else scientific style.exponentWidth (significantDigits d) (point - 1)

/-- A minus sign if one is called for. -/
def signChars (negative : Bool) : List Char :=
  if negative then ['-'] else []

/-- A binary64 number in writing. -/
def Binary64.chars (style : FloatStyle) : Binary64 → List Char
  | .finite negative size => signChars negative ++ size.chars style
  | .infinite negative => signChars negative ++ style.infinity.toList
  | .nan => style.notANumber.toList

/-- A binary64 number in writing. -/
def Binary64.text (style : FloatStyle) (x : Binary64) : String :=
  String.ofList (x.chars style)

/-- The digits of a natural number are digits. -/
theorem isDigit_of_mem_natChars {n : Nat} {c : Char} (h : c ∈ natChars n) : c.isDigit = true :=
  Nat.isDigit_of_mem_toDigits (by decide) (by decide) h

/-- The digits of a natural number spell it. -/
theorem ofDigitChars_natChars (n : Nat) : Nat.ofDigitChars 10 (natChars n) 0 = n :=
  Nat.ofDigitChars_toDigits (by decide) (by decide)

end EventRoster.Number
