import EventRoster.Number.Shortest
import EventRoster.Text.CodePoint
import EventRoster.Text.Taken

/-!
# Number literals

The numbers of JSON and of conditions: a sign, an integer part without leading zeros, a fraction and
an exponent, the last two optional.  The longest such literal at the front of a text is taken, so
`01` is the literal `0` with `1` left over and `1e` is the literal `1` with `e` left over.

A literal without fraction and exponent is an integer, and any other a binary64 number.  Integers
are limited to `digitLimit` digits.
-/

namespace EventRoster.Number

open EventRoster.Text

/-- The most digits that the text of an integer may have. -/
def digitLimit : Nat := 4300

/-- A number literal in its parts. -/
structure Literal where
  negative : Bool
  whole : List Char
  fraction : List Char
  power : Option (Bool × List Char)
deriving DecidableEq, Repr

/-- What a number literal stands for. -/
inductive Value
  | int (n : Int)
  | float (x : Binary64)
deriving DecidableEq

namespace Literal

/-- Whether the literal has neither fraction nor exponent. -/
def isInteger (l : Literal) : Bool :=
  l.fraction.isEmpty && l.power.isNone

/-- The power of ten, without what the fraction contributes. -/
def powerValue (l : Literal) : Int :=
  match l.power with
  | none => 0
  | some (negative, digits) => signed negative (Nat.ofDigitChars 10 digits 0)

/-- The literal as a binary64 number. -/
def toBinary64 (l : Literal) : Binary64 :=
  Binary64.ofDecimal l.negative (Nat.ofDigitChars 10 (l.whole ++ l.fraction) 0)
    (l.powerValue - l.fraction.length)

/-- The literal as an integer, its fraction and exponent left out. -/
def toInt (l : Literal) : Int :=
  signed l.negative (Nat.ofDigitChars 10 l.whole 0)

/-- The value of a literal.  The error of an integer that is too long is the number of its digits. -/
def value (l : Literal) : Except Nat Value :=
  if l.isInteger then
    if digitLimit < l.whole.length then .error l.whole.length else .ok (.int l.toInt)
  else .ok (.float l.toBinary64)

end Literal

/-- The digits at the front of a text, and the rest. -/
def takeDigits (s : List Char) : List Char × List Char :=
  (s.takeWhile Char.isDigit, s.dropWhile Char.isDigit)

/-- The integer part: a zero, or digits that do not begin with one. -/
def takeWhole? : List Char → Option (List Char × List Char)
  | [] => none
  | c :: rest =>
    if c = '0' then some (['0'], rest)
    else if c.isDigit then some (c :: (takeDigits rest).1, (takeDigits rest).2)
    else none

/-- The fraction: a point and digits, or nothing. -/
def takeFraction : List Char → List Char × List Char
  | '.' :: rest =>
    match takeDigits rest with
    | ([], _) => ([], '.' :: rest)
    | (digits, rest') => (digits, rest')
  | s => ([], s)

/-- A sign, which an exponent may have, and what follows it. -/
def takeSign : List Char → Bool × List Char
  | '-' :: rest => (true, rest)
  | '+' :: rest => (false, rest)
  | s => (false, s)

/-- The exponent: a letter, a sign and digits, or nothing. -/
def takePower : List Char → Option (Bool × List Char) × List Char
  | [] => (none, [])
  | c :: rest =>
    if c = 'e' ∨ c = 'E' then
      let (negative, digitsOn) := takeSign rest
      match takeDigits digitsOn with
      | ([], _) => (none, c :: rest)
      | (digits, rest') => (some (negative, digits), rest')
    else (none, c :: rest)

theorem takeDigits_append (s : List Char) : (takeDigits s).1 ++ (takeDigits s).2 = s :=
  List.takeWhile_append_dropWhile

theorem takeDigits_length_le (s : List Char) : (takeDigits s).2.length ≤ s.length :=
  (List.dropWhile_sublist _).length_le

theorem takeWhole?_length {s digits rest : List Char} (h : takeWhole? s = some (digits, rest)) :
    rest.length < s.length := by
  cases s with
  | nil => simp [takeWhole?] at h
  | cons c s =>
    rw [takeWhole?] at h
    have := takeDigits_length_le s
    split at h
    · obtain ⟨-, rfl⟩ := Prod.mk.inj (Option.some.inj h)
      simp
    · split at h
      · obtain ⟨-, rfl⟩ := Prod.mk.inj (Option.some.inj h)
        simp only [List.length_cons]
        omega
      · simp at h

theorem takeFraction_length_le (s : List Char) : (takeFraction s).2.length ≤ s.length := by
  unfold takeFraction
  split
  · next rest =>
    have := takeDigits_length_le rest
    split
    · simp
    · next eq =>
      simp only [eq, List.length_cons] at this ⊢
      omega
  · simp

theorem takeSign_length_le (s : List Char) : (takeSign s).2.length ≤ s.length := by
  unfold takeSign
  split <;> simp

theorem takePower_length_le (s : List Char) : (takePower s).2.length ≤ s.length := by
  unfold takePower
  split
  · simp
  · next c rest =>
    split
    · have sign := takeSign_length_le rest
      have digits := takeDigits_length_le (takeSign rest).2
      simp only
      split
      · simp
      · next eq =>
        simp only [eq, List.length_cons] at digits ⊢
        omega
    · simp

/-- What follows a minus sign, if the text begins with one. -/
def afterMinus : List Char → Bool × List Char
  | '-' :: rest => (true, rest)
  | s => (false, s)

theorem afterMinus_length_le (s : List Char) : (afterMinus s).2.length ≤ s.length := by
  unfold afterMinus
  split <;> simp

/-- The longest number literal at the front of a text. -/
def takeLiteral? (s : List Char) : Option (Taken Literal s) :=
  match h : takeWhole? (afterMinus s).2 with
  | none => none
  | some (whole, afterWhole) =>
    some
      { value :=
          { negative := (afterMinus s).1
            whole
            fraction := (takeFraction afterWhole).1
            power := (takePower (takeFraction afterWhole).2).1 }
        rest := (takePower (takeFraction afterWhole).2).2
        shorter := by
          have := takeWhole?_length h
          have := afterMinus_length_le s
          have := takeFraction_length_le afterWhole
          have := takePower_length_le (takeFraction afterWhole).2
          omega }

/-- The longest number literal at the front of a text of code points.  No surrogate is part of a literal,
so it is taken from the characters in front of the first one. -/
def takeNumber? (s : List CodePoint) : Option (Taken Literal s) :=
  match takeLiteral? (CodePoint.spanChars s).1 with
  | none => none
  | some taken =>
    some ⟨taken.value, CodePoint.ofChars taken.rest ++ (CodePoint.spanChars s).2, by
      have whole := congrArg List.length (CodePoint.ofChars_spanChars_append s)
      have shorter := taken.shorter
      simp only [List.length_append, CodePoint.length_ofChars] at whole ⊢
      omega⟩

end EventRoster.Number
