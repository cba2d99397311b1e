import EventRoster.Proofs.Number.Reading

/-!
# The number at the front of a text

What `takeLiteral?` takes off the front of a text spells the literal that it returns, and no longer
piece of the front spells any literal at all.  Among code points `takeNumber?` does the same, and the two
facts together say which literal is taken, without a word about how: `takeNumber?_eq_some_iff`.

A literal without fraction and exponent has no superfluous zeros, so its digits are as many as those
of its value (`length_natChars_of_isWhole`).  This is why the limit on the digits of integers can be
stated for values.
-/

namespace EventRoster.Number

open EventRoster.Text

/-! ## What is taken is a spelling -/

theorem isDigit_of_mem_takeDigits {s : List Char} : ∀ c ∈ (takeDigits s).1, c.isDigit = true :=
  fun c hc => List.all_eq_true.1 List.all_takeWhile c hc

theorem eq_append_of_afterMinus (s : List Char) :
    s = signChars (afterMinus s).1 ++ (afterMinus s).2 := by
  unfold afterMinus
  split <;> rfl

theorem isWhole_of_takeWhole? {s digits rest : List Char} (h : takeWhole? s = some (digits, rest)) :
    IsWhole digits ∧ s = digits ++ rest := by
  cases s with
  | nil => cases h
  | cons c s =>
    rw [takeWhole?] at h
    by_cases zero : c = '0'
    · rw [if_pos zero] at h
      cases h
      exact ⟨isWhole_natChars 0, by rw [zero]; rfl⟩
    · rw [if_neg zero] at h
      by_cases digit : c.isDigit = true
      · rw [if_pos digit] at h
        cases h
        refine ⟨⟨?_, .inr ⟨c, _, rfl, zero⟩⟩, ?_⟩
        · exact List.forall_mem_cons.2 ⟨digit, isDigit_of_mem_takeDigits⟩
        · rw [List.cons_append, takeDigits_append]
      · rw [if_neg digit] at h
        cases h

theorem eq_append_of_takeFraction (s : List Char) :
    (∀ c ∈ (takeFraction s).1, c.isDigit = true) ∧
      s = (if (takeFraction s).1 = [] then [] else '.' :: (takeFraction s).1) ++
        (takeFraction s).2 := by
  unfold takeFraction
  split
  · next more =>
    have digits := isDigit_of_mem_takeDigits (s := more)
    have whole := takeDigits_append more
    split
    · next rest eq => exact ⟨List.forall_mem_nil _, rfl⟩
    · next ds rest some eq =>
      rw [eq] at digits whole
      refine ⟨digits, ?_⟩
      rw [if_neg some, List.cons_append, whole]
  · exact ⟨List.forall_mem_nil _, rfl⟩

theorem eq_append_of_takeSign (s : List Char) :
    ∃ sign, (sign = signChars (takeSign s).1 ∨ (takeSign s).1 = false ∧ sign = ['+']) ∧
      s = sign ++ (takeSign s).2 := by
  unfold takeSign
  split
  · exact ⟨['-'], .inl rfl, rfl⟩
  · exact ⟨['+'], .inr ⟨rfl, rfl⟩, rfl⟩
  · exact ⟨[], .inl rfl, rfl⟩

theorem eq_append_of_takePower (s : List Char) :
    (∃ power, SpellsPower power (takePower s).1 ∧ s = power ++ (takePower s).2) ∧
      ∀ negative digits, (takePower s).1 = some (negative, digits) →
        digits ≠ [] ∧ ∀ c ∈ digits, c.isDigit = true := by
  have absent : ∀ t : List Char, (∃ power, SpellsPower power none ∧ t = power ++ t) ∧
      ∀ negative digits, (none : Option (Bool × List Char)) = some (negative, digits) →
        digits ≠ [] ∧ ∀ c ∈ digits, c.isDigit = true := by
    intro t
    refine ⟨⟨[], rfl, rfl⟩, ?_⟩
    intro _ _ none
    cases none
  cases s with
  | nil => exact absent []
  | cons c s =>
    rw [takePower]
    by_cases letter : c = 'e' ∨ c = 'E'
    · rw [if_pos letter]
      obtain ⟨sign, hs, eq⟩ := eq_append_of_takeSign s
      have digits := isDigit_of_mem_takeDigits (s := (takeSign s).2)
      have whole := takeDigits_append (takeSign s).2
      simp only
      split
      · exact absent (c :: s)
      · next ds rest some run =>
        rw [run] at digits whole
        refine ⟨⟨c :: (sign ++ ds), ⟨c, sign, letter, hs, rfl⟩, ?_⟩, ?_⟩
        · rw [List.cons_append, List.append_assoc, whole, ← eq]
        · rintro negative digits' ⟨⟩
          exact ⟨some, digits⟩
    · rw [if_neg letter]
      exact absent (c :: s)

/-- **What is taken spells the literal** that is returned for it. -/
theorem isSpelledBy_of_takeLiteral? {s : List Char} {taken : Taken Literal s}
    (h : takeLiteral? s = some taken) :
    ∃ text, taken.value.IsSpelledBy text ∧ s = text ++ taken.rest := by
  unfold takeLiteral? at h
  split at h
  · cases h
  · next whole after some =>
    cases h
    obtain ⟨isWhole, eqWhole⟩ := isWhole_of_takeWhole? some
    obtain ⟨fraction, eqFraction⟩ := eq_append_of_takeFraction after
    obtain ⟨⟨power, spells, eqPower⟩, digits⟩ := eq_append_of_takePower (takeFraction after).2
    refine ⟨_, ⟨⟨isWhole, fraction, digits⟩, power, spells, rfl⟩, ?_⟩
    calc s = signChars (afterMinus s).1 ++ (afterMinus s).2 := eq_append_of_afterMinus s
      _ = signChars (afterMinus s).1 ++ (whole ++ after) := by rw [eqWhole]
      _ = _ := by
        simp only [Literal.fractionChars, List.append_assoc, ← eqPower]
        rw [← eqFraction]

/-! ## Nothing longer is one -/

section Longest

variable {l : Literal} {power rest : List Char}

/-- A run of digits is taken with all the digits behind it. -/
theorem takeDigits_append_of_forall {digits : List Char} (all : ∀ c ∈ digits, c.isDigit = true)
    (rest : List Char) :
    takeDigits (digits ++ rest) = (digits ++ (takeDigits rest).1, (takeDigits rest).2) := by
  rw [takeDigits, List.takeWhile_append_of_pos all, List.dropWhile_append_of_pos all]
  rfl

/-- An exponent is taken with all the digits behind it. -/
theorem length_takePower_append_le {p : Option (Bool × List Char)} (hp : SpellsPower power p)
    (wf : ∀ negative digits, p = some (negative, digits) →
      digits ≠ [] ∧ ∀ c ∈ digits, c.isDigit = true) (rest : List Char) :
    (takePower (power ++ rest)).2.length ≤ rest.length := by
  cases p with
  | none =>
    rw [show power = [] from hp]
    exact takePower_length_le rest
  | some p =>
    obtain ⟨negative, digits⟩ := p
    obtain ⟨nonempty, all⟩ := wf negative digits rfl
    obtain ⟨letter, sign, isLetter, hs, rfl⟩ := hp
    obtain ⟨d, ds, rfl⟩ := List.exists_cons_of_ne_nil nonempty
    rw [List.cons_append, List.append_assoc, takePower, if_pos isLetter,
      takeSign_append hs nonempty all]
    simp only [takeDigits_append_of_forall all rest]
    exact takeDigits_length_le rest

/-- The fraction and the exponent of a literal are taken with all the digits behind them. -/
theorem length_takePower_takeFraction_le (wf : l.WellFormed) (hp : SpellsPower power l.power)
    (some : l.fractionChars ++ power ≠ []) (rest : List Char) :
    (takePower (takeFraction (l.fractionChars ++ (power ++ rest))).2).2.length ≤ rest.length := by
  have powered := length_takePower_append_le hp wf.power
  rcases hp.eq_nil_or_letter with rfl | ⟨letter, more, rfl, isLetter⟩
  · -- The literal ends with its fraction.
    unfold Literal.fractionChars at some ⊢
    by_cases none : l.fraction = []
    · rw [if_pos none] at some
      exact absurd rfl some
    · obtain ⟨d, ds, eq⟩ := List.exists_cons_of_ne_nil none
      have run := takeDigits_append_of_forall wf.fraction rest
      have taken : (takeFraction ('.' :: (l.fraction ++ rest))).2 = (takeDigits rest).2 := by
        rw [takeFraction, run, eq]
        rfl
      rw [if_neg none, List.nil_append, List.cons_append, taken]
      exact Nat.le_trans (takePower_length_le _) (takeDigits_length_le rest)
  · have digits : Bars Char.isDigit (letter :: more ++ rest) := by
      rcases isLetter with rfl | rfl <;> exact bars_cons.2 rfl
    have point : Bars (· == '.') (letter :: more ++ rest) := by
      rcases isLetter with rfl | rfl <;> exact bars_cons.2 rfl
    rw [takeFraction_append wf digits point]
    exact powered rest

/-- **A text that begins with a literal has one taken off it, and at least as much of it.** -/
theorem exists_takeLiteral?_of_isSpelledBy {text : List Char} (spelled : l.IsSpelledBy text)
    (rest : List Char) :
    ∃ taken, takeLiteral? (text ++ rest) = some taken ∧ taken.rest.length ≤ rest.length := by
  obtain ⟨wf, power, hp, rfl⟩ := spelled
  set text := signChars l.negative ++ (l.whole ++ (l.fractionChars ++ power)) with htext
  set behind := l.fractionChars ++ (power ++ rest) with hbehind
  have sign : (afterMinus (text ++ rest)).2 = l.whole ++ behind := by
    simp only [htext, hbehind, List.append_assoc]
    rw [afterMinus_whole wf]
  have whole : ∃ digits after, takeWhole? (l.whole ++ behind) = some (digits, after) ∧
      (after = behind ∨ after = (takeDigits behind).2) := by
    obtain ⟨all, zero | ⟨c, ds, eq, hc⟩⟩ := wf.whole
    · rw [zero]
      exact ⟨['0'], behind, rfl, .inl rfl⟩
    · rw [eq] at all ⊢
      have tail : ∀ d ∈ ds, d.isDigit = true := fun d hd => all d (List.mem_cons_of_mem _ hd)
      refine ⟨c :: (ds ++ (takeDigits behind).1), (takeDigits behind).2, ?_, .inr rfl⟩
      rw [List.cons_append, takeWhole?, if_neg hc, if_pos (all c List.mem_cons_self),
        takeDigits_append_of_forall tail]
  obtain ⟨digits, after, takes, front⟩ := whole
  have bound : (takePower (takeFraction after).2).2.length ≤ rest.length := by
    by_cases none : l.fractionChars ++ power = []
    · have short : after.length ≤ rest.length := by
        obtain ⟨noFraction, noPower⟩ := List.append_eq_nil_iff.1 none
        have same : behind = rest := by rw [hbehind, noFraction, noPower]; rfl
        rw [same] at front
        rcases front with rfl | rfl
        · exact Nat.le_refl _
        · exact takeDigits_length_le rest
      exact Nat.le_trans (takePower_length_le _) (Nat.le_trans (takeFraction_length_le after) short)
    · have same : after = behind := by
        rcases front with rfl | rfl
        · rfl
        · -- Neither a point nor the letter of an exponent is a digit.
          have ends : Bars Char.isDigit behind := by
            have fraction : l.fractionChars = [] ∨ ∃ more, l.fractionChars = '.' :: more := by
              unfold Literal.fractionChars
              split
              · exact .inl rfl
              · exact .inr ⟨_, rfl⟩
            rcases fraction with empty | ⟨more, eq⟩
            · rcases hp.eq_nil_or_letter with rfl | ⟨letter, more, rfl, isLetter⟩
              · exact absurd (List.append_eq_nil_iff.2 ⟨empty, rfl⟩) none
              · rw [hbehind, empty]
                rcases isLetter with rfl | rfl <;> exact bars_cons.2 rfl
            · rw [hbehind, eq]
              exact bars_cons.2 rfl
          exact dropWhile_append_of_bars (List.forall_mem_nil _) ends
      rw [same]
      exact length_takePower_takeFraction_le wf hp none rest
  unfold takeLiteral?
  split
  · next missing => rw [sign, takes] at missing; cases missing
  · next found =>
    rw [sign, takes] at found
    obtain ⟨rfl, rfl⟩ := Prod.mk.inj (Option.some.inj found)
    exact ⟨_, rfl, bound⟩

end Longest

/-! ## Numbers among code points -/

/-- The code points that spell a literal.  None of them is a surrogate. -/
def Literal.IsWrittenAs (l : Literal) (s : List CodePoint) : Prop :=
  ∃ text, l.IsSpelledBy text ∧ s = CodePoint.ofChars text

/-- A literal stands at the front of a text, with a rest behind it, and no literal reaches further. -/
structure Literal.Leads (l : Literal) (s rest : List CodePoint) : Prop where
  written : ∃ text, l.IsWrittenAs text ∧ s = text ++ rest
  longest : ∀ (l' : Literal) text' rest', l'.IsWrittenAs text' → s = text' ++ rest' →
    rest.length ≤ rest'.length

section CodePoints

variable {l : Literal} {s text rest : List CodePoint}

theorem Literal.IsSpelledBy.isWrittenAs {chars : List Char} (h : l.IsSpelledBy chars) :
    l.IsWrittenAs (CodePoint.ofChars chars) :=
  ⟨chars, h, rfl⟩

theorem Literal.IsWrittenAs.wellFormed (h : l.IsWrittenAs text) : l.WellFormed := by
  obtain ⟨chars, spelled, -⟩ := h
  exact spelled.wellFormed

/-- A literal is at least as long as its integer part. -/
theorem Literal.IsWrittenAs.length_whole_le (h : l.IsWrittenAs text) : l.whole.length ≤ text.length := by
  obtain ⟨_, ⟨-, power, -, rfl⟩, rfl⟩ := h
  simp only [CodePoint.length_ofChars, List.length_append]
  omega

/-- A literal begins with a digit, perhaps behind a minus sign. -/
theorem Literal.IsWrittenAs.exists_eq_digit (h : l.IsWrittenAs text) :
    ∃ (d : Char) (s : List CodePoint), d.isDigit = true ∧
      (text = .char d :: s ∨ text = .char '-' :: .char d :: s) := by
  obtain ⟨chars, spelled, rfl⟩ := h
  obtain ⟨d, s, digit, rfl | rfl⟩ := spelled.exists_eq_digit
  · exact ⟨d, _, digit, .inl rfl⟩
  · exact ⟨d, _, digit, .inr rfl⟩

/-- A literal with nothing behind it is the longest. -/
theorem Literal.IsWrittenAs.leads_nil (h : l.IsWrittenAs text) : l.Leads text [] :=
  ⟨⟨text, h, (List.append_nil text).symm⟩, fun _ _ _ _ _ => Nat.zero_le _⟩

/-- What ends a run of characters among code points ends it among the characters in front. -/
theorem bars_spanChars {p : Char → Bool} (h : Bars (CodePoint.is p) s) :
    Bars p (CodePoint.spanChars s).1 := by
  match s with
  | [] => exact bars_nil
  | .char c :: s => exact bars_cons.2 (h (.char c) rfl)
  | .surrogate n :: s => exact bars_nil

/-- A number is taken from the characters in front of the first surrogate. -/
theorem takeNumber?_of_takeLiteral? {chars : List Char}
    {taken : Taken Literal (chars ++ (CodePoint.spanChars rest).1)}
    (h : takeLiteral? (chars ++ (CodePoint.spanChars rest).1) = some taken) :
    ∃ shorter, takeNumber? (CodePoint.ofChars chars ++ rest) =
      some ⟨taken.value, CodePoint.ofChars taken.rest ++ (CodePoint.spanChars rest).2, shorter⟩ := by
  have front := CodePoint.spanChars_ofChars_append chars rest
  have found : ∃ number, takeLiteral? (CodePoint.spanChars (CodePoint.ofChars chars ++ rest)).1 =
      some number ∧ number.value = taken.value ∧ number.rest = taken.rest := by
    rw [front]
    exact ⟨taken, h, rfl, rfl⟩
  obtain ⟨number, takes, value, left⟩ := found
  have behind : (CodePoint.spanChars (CodePoint.ofChars chars ++ rest)).2 =
      (CodePoint.spanChars rest).2 := by
    rw [front]
  have shorter : (CodePoint.ofChars taken.rest ++ (CodePoint.spanChars rest).2).length <
      (CodePoint.ofChars chars ++ rest).length := by
    have whole := congrArg List.length (CodePoint.ofChars_spanChars_append rest)
    have shorter := taken.shorter
    simp only [List.length_append, CodePoint.length_ofChars] at whole shorter ⊢
    omega
  refine ⟨shorter, ?_⟩
  unfold takeNumber?
  split
  · next none => rw [none] at takes; cases takes
  · next found =>
    rw [found] at takes
    cases takes
    simp only [value, left, behind]

/-- What is taken spells the literal that is returned for it. -/
theorem isWrittenAs_of_takeNumber? {taken : Taken Literal s} (h : takeNumber? s = some taken) :
    ∃ text, taken.value.IsWrittenAs text ∧ s = text ++ taken.rest := by
  unfold takeNumber? at h
  split at h
  · cases h
  · next number takes =>
    cases h
    obtain ⟨chars, spelled, eq⟩ := isSpelledBy_of_takeLiteral? takes
    refine ⟨_, spelled.isWrittenAs, ?_⟩
    rw [← List.append_assoc, ← CodePoint.ofChars_append, ← eq, CodePoint.ofChars_spanChars_append]

/-- A text that begins with a literal has one taken off it, and at least as much of it. -/
theorem exists_takeNumber?_of_isWrittenAs (h : l.IsWrittenAs text) (rest : List CodePoint) :
    ∃ taken, takeNumber? (text ++ rest) = some taken ∧ taken.rest.length ≤ rest.length := by
  obtain ⟨chars, spelled, rfl⟩ := h
  obtain ⟨taken, takes, bound⟩ :=
    exists_takeLiteral?_of_isSpelledBy spelled (CodePoint.spanChars rest).1
  obtain ⟨shorter, takes'⟩ := takeNumber?_of_takeLiteral? takes
  have whole := congrArg List.length (CodePoint.ofChars_spanChars_append rest)
  refine ⟨_, takes', ?_⟩
  simp only [List.length_append, CodePoint.length_ofChars] at whole ⊢
  omega

/-- A literal is taken as a whole off the front of a text that does not go on with what could belong to
it. -/
theorem takeNumber?_of_isWrittenAs (h : l.IsWrittenAs text) (bars : Bars (CodePoint.is goesOn) rest) :
    ∃ shorter, takeNumber? (text ++ rest) = some ⟨l, rest, shorter⟩ := by
  obtain ⟨chars, spelled, rfl⟩ := h
  obtain ⟨shorter, takes⟩ := takeLiteral?_of_isSpelledBy spelled (bars_spanChars bars)
  obtain ⟨shorter', takes'⟩ := takeNumber?_of_takeLiteral? takes
  simp only [CodePoint.ofChars_spanChars_append] at takes'
  exact ⟨_, takes'⟩

/-- A spelling belongs to one literal. -/
theorem Literal.IsWrittenAs.unique {l' : Literal} (h : l.IsWrittenAs text)
    (h' : l'.IsWrittenAs text) : l = l' := by
  obtain ⟨shorter, takes⟩ := takeNumber?_of_isWrittenAs h bars_nil
  obtain ⟨shorter', takes'⟩ := takeNumber?_of_isWrittenAs h' bars_nil
  rw [takes] at takes'
  cases takes'
  rfl

/-- **The number that is taken is the longest at the front of the text**, and one is taken whenever
there is one. -/
theorem takeNumber?_eq_some_iff :
    (∃ shorter, takeNumber? s = some ⟨l, rest, shorter⟩) ↔ l.Leads s rest := by
  constructor
  · rintro ⟨shorter, takes⟩
    refine ⟨isWrittenAs_of_takeNumber? takes, ?_⟩
    rintro l' text' rest' written rfl
    obtain ⟨taken, takes', bound⟩ := exists_takeNumber?_of_isWrittenAs written rest'
    rw [takes] at takes'
    cases takes'
    exact bound
  · rintro ⟨⟨text, written, rfl⟩, longest⟩
    obtain ⟨⟨l', rest', shorter⟩, takes, bound⟩ := exists_takeNumber?_of_isWrittenAs written rest
    obtain ⟨text', written', eq⟩ := isWrittenAs_of_takeNumber? takes
    have length := Nat.le_antisymm bound (longest _ _ _ written' eq)
    obtain ⟨rfl, rfl⟩ := List.append_inj' eq length.symm
    obtain rfl := written.unique written'
    exact ⟨shorter, takes⟩

end CodePoints

/-! ## What a literal stands for -/

/-- The number that some digits spell lies below the power of ten that they count. -/
theorem ofDigitChars_lt {digits : List Char} (all : ∀ c ∈ digits, c.isDigit = true) (n : Nat) :
    Nat.ofDigitChars 10 digits n < (n + 1) * 10 ^ digits.length := by
  induction digits generalizing n with
  | nil =>
    rw [Nat.ofDigitChars_nil, List.length_nil, Nat.pow_zero, Nat.mul_one]
    exact Nat.lt_succ_self n
  | cons c digits ih =>
    have digit := toNat_of_isDigit (all c List.mem_cons_self)
    have zero : '0'.toNat = 48 := rfl
    have tail := ih (fun d hd => all d (List.mem_cons_of_mem _ hd)) (10 * n + (c.toNat - '0'.toNat))
    rw [Nat.ofDigitChars_cons, List.length_cons, Nat.pow_succ]
    calc Nat.ofDigitChars 10 digits (10 * n + (c.toNat - '0'.toNat))
        < (10 * n + (c.toNat - '0'.toNat) + 1) * 10 ^ digits.length := tail
      _ ≤ ((n + 1) * 10) * 10 ^ digits.length := Nat.mul_le_mul_right _ (by omega)
      _ = (n + 1) * (10 ^ digits.length * 10) := by
        rw [Nat.mul_assoc, Nat.mul_comm 10]

/-- It does not lie below the power of ten that they count, multiplied by what stands before them. -/
theorem le_ofDigitChars (digits : List Char) (n : Nat) :
    n * 10 ^ digits.length ≤ Nat.ofDigitChars 10 digits n := by
  induction digits generalizing n with
  | nil =>
    rw [Nat.ofDigitChars_nil, List.length_nil, Nat.pow_zero, Nat.mul_one]
  | cons c digits ih =>
    rw [Nat.ofDigitChars_cons, List.length_cons, Nat.pow_succ]
    calc n * (10 ^ digits.length * 10)
        = (10 * n) * 10 ^ digits.length := by rw [Nat.mul_comm 10 n, Nat.mul_assoc, Nat.mul_comm 10]
      _ ≤ (10 * n + (c.toNat - '0'.toNat)) * 10 ^ digits.length :=
        Nat.mul_le_mul_right _ (Nat.le_add_right _ _)
      _ ≤ Nat.ofDigitChars 10 digits (10 * n + (c.toNat - '0'.toNat)) := ih _

/-- **An integer part has as many digits as its value.** -/
theorem length_natChars_of_isWhole {digits : List Char} (whole : IsWhole digits) :
    (natChars (Nat.ofDigitChars 10 digits 0)).length = digits.length := by
  obtain ⟨all, rfl | ⟨c, ds, rfl, hc⟩⟩ := whole
  · rfl
  · have above := ofDigitChars_lt all 0
    rw [Nat.zero_add, Nat.one_mul] at above
    have digit := toNat_of_isDigit (all c List.mem_cons_self)
    have positive : c.toNat ≠ 48 := by
      intro eq
      exact hc (Char.toNat_inj.1 eq)
    have zero : '0'.toNat = 48 := rfl
    have below : 10 ^ ds.length ≤ Nat.ofDigitChars 10 (c :: ds) 0 := by
      rw [Nat.ofDigitChars_cons]
      calc 10 ^ ds.length
          ≤ (10 * 0 + (c.toNat - '0'.toNat)) * 10 ^ ds.length :=
            Nat.le_mul_of_pos_left _ (by omega)
        _ ≤ _ := le_ofDigitChars ds _
    have lower := lt_length_natChars below
    have upper := length_natChars_le (Nat.succ_pos _) above
    rw [List.length_cons]
    omega

theorem natAbs_signed (negative : Bool) (n : Nat) : (signed negative n).natAbs = n := by
  unfold signed
  cases negative with
  | true => exact Int.natAbs_neg _
  | false => rfl

namespace Literal

/-- What a literal stands for, however many digits it has. -/
def number (l : Literal) : Value :=
  if l.isInteger then .int l.toInt else .float l.toBinary64

/-- Whether a literal is an integer with too many digits. -/
def IsLong (l : Literal) : Prop :=
  l.isInteger = true ∧ digitLimit < l.whole.length

theorem value_of_isLong {l : Literal} (h : l.IsLong) : l.value = .error l.whole.length := by
  rw [value, if_pos h.1, if_pos h.2]

/-- Only an integer with too many digits has no value. -/
theorem isLong_of_value_eq_error {l : Literal} {digits : Nat} (h : l.value = .error digits) :
    l.IsLong ∧ l.whole.length = digits := by
  unfold value at h
  split at h
  · next integer =>
    split at h
    · next long =>
      cases h
      exact ⟨⟨integer, long⟩, rfl⟩
    · cases h
  · cases h

/-- A literal that is not too long has its value. -/
theorem value_of_not_isLong {l : Literal} (h : ¬l.IsLong) : l.value = .ok l.number := by
  unfold value number
  by_cases integer : l.isInteger = true
  · rw [if_pos integer, if_pos integer, if_neg fun long => h ⟨integer, long⟩]
  · rw [if_neg integer, if_neg integer]

/-- The digits of an integer literal are those of its value. -/
theorem length_natChars_toInt {l : Literal} (wf : l.WellFormed) :
    (natChars l.toInt.natAbs).length = l.whole.length := by
  rw [toInt, natAbs_signed]
  exact length_natChars_of_isWhole wf.whole

/-- An integer has no more digits than its literal could have. -/
theorem length_le_of_value_eq_int {l : Literal} {n : Int} (wf : l.WellFormed)
    (h : l.value = .ok (.int n)) : (natChars n.natAbs).length ≤ digitLimit := by
  unfold value at h
  split at h
  · split at h
    · cases h
    · next short =>
      rw [← Value.int.inj (Except.ok.inj h), length_natChars_toInt wf]
      exact Nat.not_lt.1 short
  · cases h

end Literal

/-- No literal stands for NaN. -/
theorem ne_nan_of_value_eq_float {l : Literal} {x : Binary64} (h : l.value = .ok (.float x)) :
    x ≠ .nan := by
  unfold Literal.value at h
  split at h
  · split at h <;> cases h
  · rw [← Value.float.inj (Except.ok.inj h), Literal.toBinary64]
    exact Binary64.ofDecimal_ne_nan _ _ _

/-! ## Literals of any length -/

/-- The integer of as many ones. -/
def ones (n : Nat) : Literal :=
  ⟨false, List.replicate n '1', [], none⟩

theorem isSpelledBy_ones {n : Nat} (hn : 0 < n) : (ones n).IsSpelledBy (List.replicate n '1') := by
  have digits : ∀ c ∈ List.replicate n '1', c.isDigit = true := by
    intro c hc
    rw [List.eq_of_mem_replicate hc]
    rfl
  refine ⟨⟨⟨digits, .inr ?_⟩, List.forall_mem_nil _, ?_⟩, [], rfl, ?_⟩
  · obtain ⟨m, rfl⟩ := Nat.exists_eq_succ_of_ne_zero (Nat.ne_of_gt hn)
    exact ⟨'1', List.replicate m '1', rfl, by decide⟩
  · rintro _ _ ⟨⟩
  · exact (List.append_nil _).symm

theorem isWrittenAs_ones {n : Nat} (hn : 0 < n) : (ones n).IsWrittenAs (List.replicate n (.char '1')) :=
  ⟨List.replicate n '1', isSpelledBy_ones hn, (List.map_replicate ..).symm⟩

theorem isLong_ones {n : Nat} (hn : digitLimit < n) : (ones n).IsLong :=
  ⟨rfl, by rwa [ones, List.length_replicate]⟩

end EventRoster.Number
