import EventRoster.Number.Literal
import EventRoster.Proofs.Number.Decimal
import EventRoster.Proofs.Text.Front
import EventRoster.Text.Digit

/-!
# Numbers are read back as they are written

A number in writing is the writing of a literal, a literal is taken off the front of a text as a
whole, and its value is the number.  The three steps are kept apart:

* `Literal.chars` writes a literal in one of the ways in which it can be spelled, and
  `takeLiteral?_of_isSpelledBy` takes it off again, provided that the text does not go on with what could
  belong to it.
* `Literal.ofInt` and `exists_literal_chars` find the literal that is written for a number.
* `value_ofInt` and the last part of `exists_literal_chars` say that its value is the number.
-/

namespace EventRoster.Number

open EventRoster.Text

/-! ## Digits -/

/-- Whether a character could belong to a literal before it. -/
def goesOn (c : Char) : Bool :=
  c.isDigit || c == '.' || c == 'e' || c == 'E'

/-- Whether some characters are an integer part: a zero, or digits that do not begin with one. -/
def IsWhole (digits : List Char) : Prop :=
  (∀ c ∈ digits, c.isDigit = true) ∧
    (digits = ['0'] ∨ ∃ c rest, digits = c :: rest ∧ c ≠ '0')

/-- The digits of a positive number do not begin with a zero. -/
theorem head?_natChars_ne_zero {n : Nat} (hn : 0 < n) : ∀ c ∈ (natChars n).head?, c ≠ '0' := by
  induction n using Nat.strongRecOn with
  | ind n ih =>
    intro c hc
    rw [natChars, Nat.toDigits_eq_if (by decide)] at hc
    split at hc
    · next small =>
      rw [List.head?_cons, Option.mem_some_iff] at hc
      rw [← hc, ne_eq, Nat.digitChar_eq_zero]
      omega
    · next large =>
      rw [List.head?_append_of_ne_nil _ Nat.toDigits_ne_nil] at hc
      exact ih (n / 10) (by omega) (by omega) c hc

/-- The digits of a number are an integer part. -/
theorem isWhole_natChars (n : Nat) : IsWhole (natChars n) := by
  constructor
  · intro c hc
    exact isDigit_of_mem_natChars hc
  rcases Nat.eq_zero_or_pos n with rfl | hn
  · exact .inl rfl
  · right
    cases h : natChars n with
    | nil => exact absurd h (natChars_ne_nil n)
    | cons c rest =>
      refine ⟨c, rest, rfl, head?_natChars_ne_zero hn c ?_⟩
      rw [h, List.head?_cons, Option.mem_some_iff]

theorem takeDigits_append_of_bars {digits rest : List Char} (all : ∀ c ∈ digits, c.isDigit = true)
    (h : Bars Char.isDigit rest) : takeDigits (digits ++ rest) = (digits, rest) := by
  rw [takeDigits, takeWhile_append_of_bars all h, dropWhile_append_of_bars all h]

theorem takeWhole?_append {digits rest : List Char} (whole : IsWhole digits)
    (h : Bars Char.isDigit rest) : takeWhole? (digits ++ rest) = some (digits, rest) := by
  obtain ⟨all, rfl | ⟨c, ds, rfl, hc⟩⟩ := whole
  · rfl
  · have hd := all c List.mem_cons_self
    have run := takeDigits_append_of_bars (fun d hd => all d (List.mem_cons_of_mem _ hd)) h
    rw [List.cons_append, takeWhole?, if_neg hc, if_pos hd, run]

/-! ## Literals in writing -/

namespace Literal

/-- The fraction of a literal in writing. -/
def fractionChars (l : Literal) : List Char :=
  if l.fraction = [] then [] else '.' :: l.fraction

/-- The exponent of a literal in writing. -/
def powerChars (l : Literal) : List Char :=
  match l.power with
  | none => []
  | some (negative, digits) => 'e' :: (if negative then '-' else '+') :: digits

/-- A literal in writing. -/
def chars (l : Literal) : List Char :=
  signChars l.negative ++ (l.whole ++ (l.fractionChars ++ l.powerChars))

/-- The parts of a literal are made of digits, as many as they need. -/
structure WellFormed (l : Literal) : Prop where
  whole : IsWhole l.whole
  fraction : ∀ c ∈ l.fraction, c.isDigit = true
  power : ∀ negative digits, l.power = some (negative, digits) →
    digits ≠ [] ∧ ∀ c ∈ digits, c.isDigit = true

end Literal

/-- The ways to write an exponent: behind either letter, and with a plus sign or none if it is not
negative. -/
def SpellsPower (text : List Char) : Option (Bool × List Char) → Prop
  | none => text = []
  | some (negative, digits) => ∃ letter sign, (letter = 'e' ∨ letter = 'E') ∧
      (sign = signChars negative ∨ negative = false ∧ sign = ['+']) ∧
        text = letter :: (sign ++ digits)

namespace Literal

/-- The ways to write a literal.  They differ in the exponent alone. -/
structure IsSpelledBy (l : Literal) (text : List Char) : Prop where
  wellFormed : l.WellFormed
  chars : ∃ power, SpellsPower power l.power ∧
    text = signChars l.negative ++ (l.whole ++ (l.fractionChars ++ power))

theorem spellsPower_powerChars (l : Literal) : SpellsPower l.powerChars l.power := by
  unfold powerChars
  split
  · next none => rw [none]; rfl
  · next negative digits some =>
    rw [some]
    cases negative with
    | true => exact ⟨'e', ['-'], .inl rfl, .inl rfl, rfl⟩
    | false => exact ⟨'e', ['+'], .inl rfl, .inr ⟨rfl, rfl⟩, rfl⟩

/-- A literal in writing spells it. -/
theorem isSpelledBy_chars {l : Literal} (wf : l.WellFormed) : l.IsSpelledBy l.chars :=
  ⟨wf, l.powerChars, l.spellsPower_powerChars, rfl⟩

end Literal

section Parts

variable {l : Literal} {rest power : List Char}

theorem bars_isDigit_of_goesOn (h : Bars goesOn rest) : Bars Char.isDigit rest := by
  refine h.mono ?_
  intro c hc
  simp [goesOn, hc]

/-- An exponent begins with one of two letters. -/
theorem SpellsPower.eq_nil_or_letter {p : Option (Bool × List Char)} (h : SpellsPower power p) :
    power = [] ∨ ∃ letter more, power = letter :: more ∧ (letter = 'e' ∨ letter = 'E') := by
  cases p with
  | none => exact .inl h
  | some p =>
    obtain ⟨letter, sign, isLetter, -, eq⟩ := h
    exact .inr ⟨letter, _, eq, isLetter⟩

/-- An exponent, or what follows a literal, ends a run of characters that no exponent begins with. -/
theorem SpellsPower.bars {p : Option (Bool × List Char)} (hp : SpellsPower power p)
    {q : Char → Bool} (small : q 'e' = false) (capital : q 'E' = false) (h : Bars q rest) :
    Bars q (power ++ rest) := by
  rcases hp.eq_nil_or_letter with rfl | ⟨letter, more, rfl, rfl | rfl⟩
  · exact h
  · exact bars_cons.2 small
  · exact bars_cons.2 capital

/-- A fraction, or what follows it, ends a run of digits. -/
theorem bars_fractionChars {s : List Char} (h : Bars Char.isDigit s) :
    Bars Char.isDigit (l.fractionChars ++ s) := by
  unfold Literal.fractionChars
  split
  · exact h
  · rw [List.cons_append, bars_cons]
    decide

theorem takeFraction_of_bars {s : List Char} (h : Bars (· == '.') s) :
    takeFraction s = ([], s) := by
  cases s with
  | nil => rfl
  | cons c s =>
    have hc : c ≠ '.' := by simpa using bars_cons.1 h
    rw [takeFraction]
    rintro rest ⟨⟩
    exact hc rfl

theorem takeFraction_append (wf : l.WellFormed) {s : List Char} (digits : Bars Char.isDigit s)
    (point : Bars (· == '.') s) : takeFraction (l.fractionChars ++ s) = (l.fraction, s) := by
  unfold Literal.fractionChars
  split
  · next none =>
    rw [none]
    exact takeFraction_of_bars point
  · next some =>
    have run := takeDigits_append_of_bars wf.fraction digits
    rw [List.cons_append, takeFraction, run]
    split
    · next eq => exact absurd (Prod.mk.inj eq).1 some
    · next eq => exact eq.symm

theorem takePower_of_bars {s : List Char} (h : Bars goesOn s) : takePower s = (none, s) := by
  cases s with
  | nil => rfl
  | cons c s =>
    have hc : ¬(c = 'e' ∨ c = 'E') := by
      rintro (rfl | rfl) <;> exact absurd (bars_cons.1 h) (by decide)
    rw [takePower, if_neg hc]

/-- A sign is told apart from the digits behind it, however it is written. -/
theorem takeSign_append {negative : Bool} {sign digits : List Char}
    (hs : sign = signChars negative ∨ negative = false ∧ sign = ['+']) (nonempty : digits ≠ [])
    (all : ∀ c ∈ digits, c.isDigit = true) (rest : List Char) :
    takeSign (sign ++ (digits ++ rest)) = (negative, digits ++ rest) := by
  obtain ⟨d, ds, rfl⟩ := List.exists_cons_of_ne_nil nonempty
  have digit := all d List.mem_cons_self
  rcases hs with rfl | ⟨rfl, rfl⟩
  · cases negative with
    | true => rfl
    | false =>
      show takeSign (d :: (ds ++ rest)) = _
      unfold takeSign
      split
      · next eq => cases eq; cases digit
      · next eq => cases eq; cases digit
      · rfl
  · rfl

theorem takePower_append (wf : l.WellFormed) (hp : SpellsPower power l.power)
    (h : Bars goesOn rest) : takePower (power ++ rest) = (l.power, rest) := by
  cases hl : l.power with
  | none =>
    rw [hl] at hp
    rw [show power = [] from hp, List.nil_append, takePower_of_bars h]
  | some p =>
    obtain ⟨negative, digits⟩ := p
    obtain ⟨nonempty, all⟩ := wf.power negative digits hl
    rw [hl] at hp
    obtain ⟨letter, sign, isLetter, hs, rfl⟩ := hp
    have run := takeDigits_append_of_bars all (bars_isDigit_of_goesOn h)
    rw [List.cons_append, List.append_assoc, takePower, if_pos isLetter,
      takeSign_append hs nonempty all]
    simp only [run]

/-- A sign is told apart from the digits behind it. -/
theorem afterMinus_append {negative : Bool} {s : List Char} (h : Bars (· == '-') s) :
    afterMinus (signChars negative ++ s) = (negative, s) := by
  cases negative with
  | true => rfl
  | false =>
    cases s with
    | nil => rfl
    | cons c s =>
      have hc : c ≠ '-' := by simpa using bars_cons.1 h
      show afterMinus (c :: s) = (false, c :: s)
      rw [afterMinus]
      rintro rest ⟨⟩
      exact hc rfl

/-- An integer part has a first digit. -/
theorem exists_eq_digit_of_isWhole {digits : List Char} (whole : IsWhole digits) :
    ∃ d s, d.isDigit = true ∧ digits = d :: s := by
  obtain ⟨all, rfl | ⟨d, s, rfl, -⟩⟩ := whole
  · exact ⟨'0', [], rfl, rfl⟩
  · exact ⟨d, s, all d List.mem_cons_self, rfl⟩

/-- The sign of a literal is told apart from its integer part. -/
theorem afterMinus_whole (wf : l.WellFormed) (s : List Char) :
    afterMinus (signChars l.negative ++ (l.whole ++ s)) = (l.negative, l.whole ++ s) := by
  obtain ⟨d, ds, digit, eq⟩ := exists_eq_digit_of_isWhole wf.whole
  refine afterMinus_append ?_
  rw [eq, List.cons_append, bars_cons]
  refine Bool.eq_false_iff.2 fun minus => ?_
  rw [beq_iff_eq.1 minus] at digit
  cases digit

/-- **A literal is taken as a whole** off the front of a text that does not go on with what could
belong to it, however it is written. -/
theorem takeLiteral?_of_isSpelledBy {text : List Char} (spelled : l.IsSpelledBy text)
    (h : Bars goesOn rest) : ∃ shorter, takeLiteral? (text ++ rest) = some ⟨l, rest, shorter⟩ := by
  obtain ⟨wf, power, hp, rfl⟩ := spelled
  have digits : Bars Char.isDigit (power ++ rest) := hp.bars rfl rfl (bars_isDigit_of_goesOn h)
  have point : Bars (· == '.') (power ++ rest) := by
    refine hp.bars rfl rfl (h.mono ?_)
    intro c hc
    simp [goesOn, beq_iff_eq.1 hc]
  set text := signChars l.negative ++ (l.whole ++ (l.fractionChars ++ power)) with htext
  have sign : afterMinus (text ++ rest) =
      (l.negative, l.whole ++ (l.fractionChars ++ (power ++ rest))) := by
    simp only [htext, List.append_assoc]
    exact afterMinus_whole wf (l.fractionChars ++ (power ++ rest))
  have whole : takeWhole? (afterMinus (text ++ rest)).2 =
      some (l.whole, l.fractionChars ++ (power ++ rest)) := by
    rw [sign]
    exact takeWhole?_append wf.whole (bars_fractionChars digits)
  have shorter : rest.length < (text ++ rest).length := by
    have := takeWhole?_length whole
    have := afterMinus_length_le (text ++ rest)
    simp only [List.length_append] at *
    omega
  have fraction := takeFraction_append wf digits point
  have powered := takePower_append wf hp h
  refine ⟨shorter, ?_⟩
  unfold takeLiteral?
  split
  · next none => rw [none] at whole; cases whole
  · next digits after some =>
    rw [some] at whole
    obtain ⟨rfl, rfl⟩ := Prod.mk.inj (Option.some.inj whole)
    simp only [sign, fraction, powered]

/-- A literal begins with a digit, perhaps behind a minus sign. -/
theorem Literal.IsSpelledBy.exists_eq_digit {text : List Char} (spelled : l.IsSpelledBy text) :
    ∃ d s, d.isDigit = true ∧ (text = d :: s ∨ text = '-' :: d :: s) := by
  obtain ⟨wf, power, -, rfl⟩ := spelled
  obtain ⟨d, s, digit, eq⟩ := exists_eq_digit_of_isWhole wf.whole
  refine ⟨d, s ++ (l.fractionChars ++ power), digit, ?_⟩
  rw [eq, signChars]
  cases l.negative with
  | true => exact .inr rfl
  | false => exact .inl rfl

end Parts

/-! ## Integers -/

/-- The literal of an integer. -/
def Literal.ofInt (n : Int) : Literal :=
  ⟨n < 0, natChars n.natAbs, [], none⟩

theorem chars_ofInt (n : Int) : (Literal.ofInt n).chars = intChars n := by
  rw [intChars, Literal.chars]
  by_cases hn : n < 0 <;>
    simp [Literal.ofInt, Literal.fractionChars, Literal.powerChars, signChars, hn]

theorem wellFormed_ofInt (n : Int) : (Literal.ofInt n).WellFormed where
  whole := isWhole_natChars _
  fraction := by
    intro c hc
    cases hc
  power := by
    intro negative digits power
    cases power

/-- The literal of an integer that is short enough has that integer as its value. -/
theorem value_ofInt {n : Int} (h : (natChars n.natAbs).length ≤ digitLimit) :
    (Literal.ofInt n).value = .ok (.int n) := by
  have short : ¬digitLimit < (Literal.ofInt n).whole.length := Nat.not_lt.2 h
  have integer : (Literal.ofInt n).isInteger = true := rfl
  have toInt : (Literal.ofInt n).toInt = n := by
    rw [Literal.toInt, signed, Literal.ofInt]
    simp only [ofDigitChars_natChars, decide_eq_true_eq]
    split <;> omega
  rw [Literal.value, if_pos integer, if_neg short, toInt]

/-! ## Binary64 numbers -/

/-- The literal spells `v · 10 ^ k`, perhaps with more zeros than that takes. -/
def Literal.Spells (l : Literal) (v : Nat) (k : Int) : Prop :=
  ∃ zeros : Nat, Nat.ofDigitChars 10 (l.whole ++ l.fraction) 0 = v * 10 ^ zeros ∧
    l.powerValue - l.fraction.length = k - zeros

theorem Literal.toBinary64_of_spells {l : Literal} {v : Nat} {k : Int} (h : l.Spells v k) :
    l.toBinary64 = Binary64.ofDecimal l.negative v k := by
  obtain ⟨zeros, digits, exponent⟩ := h
  rw [Literal.toBinary64, digits, exponent, Binary64.ofDecimal_mul_pow]

/-- A literal that is no integer, is written as a text behind a sign, and spells `v · 10 ^ k`. -/
structure Literal.Writes (l : Literal) (negative : Bool) (text : List Char) (v : Nat) (k : Int) :
    Prop where
  wellFormed : l.WellFormed
  sign : l.negative = negative
  real : l.isInteger = false
  chars : l.chars = signChars negative ++ text
  spells : l.Spells v k

theorem isDigit_of_mem_replicate {k : Nat} {c : Char} (hc : c ∈ List.replicate k '0') :
    c.isDigit = true := by
  rw [List.eq_of_mem_replicate hc]
  rfl

/-- Zeros behind a number multiply it by a power of ten. -/
theorem ofDigitChars_append_replicate (s : List Char) (k : Nat) :
    Nat.ofDigitChars 10 (s ++ List.replicate k '0') 0 = Nat.ofDigitChars 10 s 0 * 10 ^ k := by
  rw [Nat.ofDigitChars_append, Nat.ofDigitChars_replicate_zero, Nat.mul_comm]

/-- Zeros before a number do not change it. -/
theorem ofDigitChars_replicate_append (s : List Char) (k : Nat) :
    Nat.ofDigitChars 10 (List.replicate k '0' ++ s) 0 = Nat.ofDigitChars 10 s 0 := by
  rw [Nat.ofDigitChars_append, Nat.ofDigitChars_replicate_zero, Nat.mul_zero]

section Digits

variable {s : List Char} (nonempty : s ≠ []) (digits : ∀ c ∈ s, c.isDigit = true)
  (first : ∀ c ∈ s.head?, c ≠ '0') (negative : Bool)

include digits first in
/-- Digits that do not begin with a zero are an integer part, with any digits behind them. -/
theorem isWhole_append (nonempty : s ≠ []) {more : List Char}
    (all : ∀ c ∈ more, c.isDigit = true) : IsWhole (s ++ more) := by
  refine ⟨fun c hc => (List.mem_append.1 hc).elim (digits c) (all c), .inr ?_⟩
  cases s with
  | nil => exact absurd rfl nonempty
  | cons c rest => exact ⟨c, rest ++ more, rfl, first c rfl⟩

include nonempty digits in
/-- Digits behind the point, with zeros between it and them, are a literal. -/
theorem exists_writes_behind {point : Int} (small : point ≤ 0) :
    ∃ l : Literal, l.Writes negative ('0' :: '.' :: (List.replicate (-point).toNat '0' ++ s))
      (Nat.ofDigitChars 10 s 0) (point - s.length) := by
  refine ⟨⟨negative, ['0'], List.replicate (-point).toNat '0' ++ s, none⟩, ?_, rfl, ?_, ?_, ?_⟩
  · constructor
    · exact isWhole_natChars 0
    · intro c hc
      exact (List.mem_append.1 hc).elim isDigit_of_mem_replicate (digits c)
    · intro _ _ power
      cases power
  · simp [Literal.isInteger, nonempty]
  · simp [Literal.chars, Literal.fractionChars, Literal.powerChars, nonempty]
  · refine ⟨0, ?_, ?_⟩
    · rw [Nat.pow_zero, Nat.mul_one, ← ofDigitChars_replicate_append s ((-point).toNat + 1),
        List.replicate_succ]
      rfl
    · simp only [Literal.powerValue, List.length_append, List.length_replicate]
      push_cast
      omega

include nonempty digits first in
/-- Digits before the point, with zeros between them and it, are a literal. -/
theorem exists_writes_before {point : Int} (large : ¬point ≤ 0) (short : s.length ≤ point.toNat) :
    ∃ l : Literal, l.Writes negative (s ++ List.replicate (point.toNat - s.length) '0' ++ ['.', '0'])
      (Nat.ofDigitChars 10 s 0) (point - s.length) := by
  set k := point.toNat - s.length with hk
  refine ⟨⟨negative, s ++ List.replicate k '0', ['0'], none⟩, ?_, rfl, rfl, ?_, ?_⟩
  · constructor
    · exact isWhole_append digits first nonempty fun c => isDigit_of_mem_replicate
    · intro c hc
      exact isDigit_of_mem_replicate (k := 1) hc
    · intro _ _ power
      cases power
  · simp [Literal.chars, Literal.fractionChars, Literal.powerChars]
  · refine ⟨k + 1, ?_, ?_⟩
    · rw [← ofDigitChars_append_replicate, List.replicate_succ', List.append_assoc]
    · simp only [Literal.powerValue, List.length_singleton]
      push_cast
      omega

include nonempty digits first in
/-- Digits with the point among them are a literal. -/
theorem exists_writes_around {point : Int} (large : ¬point ≤ 0) (long : ¬s.length ≤ point.toNat) :
    ∃ l : Literal, l.Writes negative (s.take point.toNat ++ '.' :: s.drop point.toNat)
      (Nat.ofDigitChars 10 s 0) (point - s.length) := by
  have left : s.drop point.toNat ≠ [] := by
    rw [ne_eq, List.drop_eq_nil_iff]
    exact long
  have taken : s.take point.toNat ≠ [] := by
    rw [ne_eq, List.take_eq_nil_iff]
    rintro (zero | empty)
    · omega
    · exact nonempty empty
  have head : ∀ c ∈ (s.take point.toNat).head?, c ≠ '0' := by
    intro c hc
    rw [List.head?_take, if_neg (by omega)] at hc
    exact first c hc
  refine ⟨⟨negative, s.take point.toNat, s.drop point.toNat, none⟩, ?_, rfl, ?_, ?_, ?_⟩
  · constructor
    · rw [← List.append_nil (s.take point.toNat)]
      refine isWhole_append ?_ head taken (List.forall_mem_nil _)
      intro c hc
      exact digits c (List.mem_of_mem_take hc)
    · intro c hc
      exact digits c (List.mem_of_mem_drop hc)
    · intro _ _ power
      cases power
  · simp [Literal.isInteger, left]
  · simp [Literal.chars, Literal.fractionChars, Literal.powerChars, left]
  · refine ⟨0, ?_, ?_⟩
    · rw [Nat.pow_zero, Nat.mul_one, List.take_append_drop]
    · simp only [Literal.powerValue, List.length_drop]
      push_cast
      omega

include nonempty digits first in
/-- **Digits in positional notation**, the point after `point` of them, are a literal. -/
theorem exists_writes_positional (point : Int) :
    ∃ l : Literal, l.Writes negative (positional s point) (Nat.ofDigitChars 10 s 0)
      (point - s.length) := by
  unfold positional
  split
  · next small => exact exists_writes_behind nonempty digits negative small
  · next large =>
    split
    · next short => exact exists_writes_before nonempty digits first negative large short
    · next long => exact exists_writes_around nonempty digits first negative large long

include nonempty digits first in
/-- **Digits in scientific notation** are a literal. -/
theorem exists_writes_scientific (width : Nat) (exponent : Int) :
    ∃ l : Literal, l.Writes negative (scientific width s exponent) (Nat.ofDigitChars 10 s 0)
      (exponent + 1 - s.length) := by
  cases s with
  | nil => exact absurd rfl nonempty
  | cons d rest =>
    set power := natChars exponent.natAbs with hpower
    set zeros := List.replicate (width - power.length) '0' with hzeros
    have value : signed (exponent < 0) (Nat.ofDigitChars 10 (zeros ++ power) 0) = exponent := by
      rw [ofDigitChars_replicate_append, ofDigitChars_natChars, signed]
      simp only [decide_eq_true_eq]
      split <;> omega
    refine ⟨⟨negative, [d], rest, some (decide (exponent < 0), zeros ++ power)⟩, ?_, rfl, ?_, ?_, ?_⟩
    · constructor
      · refine ⟨?_, .inr ⟨d, [], rfl, first d rfl⟩⟩
        exact List.forall_mem_singleton.2 (digits d List.mem_cons_self)
      · intro c hc
        exact digits c (List.mem_cons_of_mem _ hc)
      · rintro sign ds ⟨⟩
        constructor
        · rw [ne_eq, List.append_eq_nil_iff, not_and]
          intro _
          exact natChars_ne_nil _
        · intro c hc
          exact (List.mem_append.1 hc).elim isDigit_of_mem_replicate isDigit_of_mem_natChars
    · simp [Literal.isInteger]
    · cases rest <;>
        simp [Literal.chars, Literal.fractionChars, Literal.powerChars, scientific, hpower, hzeros]
    · refine ⟨0, ?_, ?_⟩
      · rw [Nat.pow_zero, Nat.mul_one, List.singleton_append]
      · simp only [Literal.powerValue, value, List.length_cons]
        push_cast
        omega

end Digits

/-! ## The digits of a size -/

/-- The digits of a decimal are its significant digits with zeros behind them. -/
theorem exists_natChars_eq_append (d : Decimal) :
    ∃ zeros : Nat, natChars d.digits = significantDigits d ++ List.replicate zeros '0' := by
  set tail := (natChars d.digits).reverse.takeWhile (· = '0') with htail
  refine ⟨tail.length, ?_⟩
  have same : tail.reverse = List.replicate tail.length '0' := by
    refine List.eq_replicate_iff.2 ⟨List.length_reverse, ?_⟩
    intro c hc
    exact of_decide_eq_true (List.all_eq_true.1 List.all_takeWhile c (List.mem_reverse.1 hc))
  rw [significantDigits, ← same, ← List.reverse_append, htail, List.takeWhile_append_dropWhile,
    List.reverse_reverse]

/-- **A size in writing is a literal**, and its value is the number. -/
theorem exists_literal_size (style : FloatStyle) (negative : Bool) (x : Magnitude) :
    ∃ l : Literal, l.WellFormed ∧ l.chars = signChars negative ++ x.chars style ∧
      l.value = .ok (.float (.finite negative x)) := by
  suffices h : ∃ (l : Literal) (v : Nat) (k : Int), l.Writes negative (x.chars style) v k ∧
      Binary64.ofDecimal negative v k = .finite negative x by
    obtain ⟨l, v, k, writes, reads⟩ := h
    refine ⟨l, writes.wellFormed, writes.chars, ?_⟩
    rw [Literal.value, writes.real, if_neg Bool.false_ne_true,
      Literal.toBinary64_of_spells writes.spells, writes.sign, reads]
  by_cases hm : x.mantissa = 0
  · refine ⟨⟨negative, ['0'], ['0'], none⟩, 0, 0, ⟨?_, rfl, rfl, ?_, ?_⟩, ?_⟩
    · constructor
      · exact isWhole_natChars 0
      · intro c hc
        exact isDigit_of_mem_replicate (k := 1) hc
      · intro _ _ power
        cases power
    · rw [Magnitude.chars, if_pos hm]
      rfl
    · exact ⟨1, rfl, rfl⟩
    · rw [Magnitude.eq_zero_of_mantissa_eq_zero hm]
      rfl
  · set d := x.shortest with hd
    set s := significantDigits d with hs
    obtain ⟨zeros, split⟩ := exists_natChars_eq_append d
    have positive : 0 < d.digits := Magnitude.digits_shortest_pos hm
    have number : d.digits = Nat.ofDigitChars 10 s 0 * 10 ^ zeros := by
      rw [← ofDigitChars_append_replicate, ← split, ofDigitChars_natChars]
    have nonempty : s ≠ [] := by
      intro empty
      rw [empty, Nat.ofDigitChars_nil, Nat.zero_mul] at number
      omega
    have digits : ∀ c ∈ s, c.isDigit = true := by
      intro c hc
      have member : c ∈ natChars d.digits := by
        rw [split]
        exact List.mem_append_left _ hc
      exact isDigit_of_mem_natChars member
    have first : ∀ c ∈ s.head?, c ≠ '0' := by
      have h := head?_natChars_ne_zero positive
      rwa [split, List.head?_append_of_ne_nil _ nonempty] at h
    have length : (natChars d.digits).length = s.length + zeros := by
      rw [split, List.length_append, List.length_replicate]
    have reads : Binary64.ofDecimal negative (Nat.ofDigitChars 10 s 0) (d.exponent + zeros) =
        .finite negative x := by
      rw [← Binary64.ofDecimal_mul_pow _ _ zeros, ← number, add_sub_cancel_right]
      exact Magnitude.toBinary64_shortest hm negative
    rw [Magnitude.chars, if_neg hm]
    simp only [← hd, ← hs, length]
    split_ifs
    · obtain ⟨l, writes⟩ := exists_writes_positional nonempty digits first negative
        ((s.length + zeros : Nat) + d.exponent)
      refine ⟨l, _, _, writes, ?_⟩
      rw [← reads]
      congr 1
      push_cast
      omega
    · obtain ⟨l, writes⟩ := exists_writes_scientific nonempty digits first negative
        style.exponentWidth ((s.length + zeros : Nat) + d.exponent - 1)
      refine ⟨l, _, _, writes, ?_⟩
      rw [← reads]
      congr 1
      push_cast
      omega

end EventRoster.Number
