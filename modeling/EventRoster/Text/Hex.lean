/-!
# Hexadecimal digits

Escapes write code units in base sixteen with lower-case digits, padded with zeros to a fixed width,
and accept digits of either case when they are read.
-/

namespace EventRoster.Text

/-- The lower-case digit of a value below sixteen. -/
def hexDigit (n : Nat) : Char :=
  if n < 10 then Char.ofNat (48 + n) else Char.ofNat (87 + n)

/-- The value of a hexadecimal digit of either case. -/
def hexValue? (c : Char) : Option Nat :=
  if '0' ≤ c ∧ c ≤ '9' then some (c.toNat - 48)
  else if 'a' ≤ c ∧ c ≤ 'f' then some (c.toNat - 87)
  else if 'A' ≤ c ∧ c ≤ 'F' then some (c.toNat - 55)
  else none

/-- The lowest `width` hexadecimal digits of a number, the highest of them first. -/
def hexPadded (width : Nat) (n : Nat) : List Char :=
  (List.range width).reverse.map fun i => hexDigit (n / Nat.pow 16 i % 16)

/-- The number that a run of hexadecimal digits spells, if each of them is one. -/
def ofHex? (s : List Char) : Option Nat :=
  s.foldlM (fun acc c => (hexValue? c).map (16 * acc + ·)) 0

@[simp] theorem hexPadded_length (width n : Nat) : (hexPadded width n).length = width := by
  simp [hexPadded]

theorem hexValue?_hexDigit {n : Nat} (h : n < 16) : hexValue? (hexDigit n) = some n := by
  have : ∀ m : Fin 16, hexValue? (hexDigit m.1) = some m.1 := by decide
  exact this ⟨n, h⟩

end EventRoster.Text
