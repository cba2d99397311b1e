import EventRoster.Number.Setting
import EventRoster.Proofs.Number.Decimal
import EventRoster.Proofs.Text.Cut

/-!
# Numbers in settings as they are spelled

Two spellings matter for what is made of settings.  Plain digits, of which there are not too many, are
the integer that they spell in base ten.  And there is the name of what is no number: three letters of
either case, with or without a sign, and with padding around them.  No other text is read as it.

* `readInt_digits`: plain digits.
* `readFloat?_eq_some_nan_iff`: the texts that are read as no number.
-/

namespace EventRoster.Number

open EventRoster.Text

namespace Setting

/-! ## Digits in ASCII -/

/-- The digit of a value below ten is a digit. -/
theorem isDigit_ofNat {d : Nat} (h : d < 10) : (Char.ofNat (48 + d)).isDigit = true := by
  have all : ∀ d : Fin 10, (Char.ofNat (48 + d.1)).isDigit = true := by decide
  exact all ⟨d, h⟩

/-- An ASCII digit is the digit of its value. -/
theorem ofNat_asciiDigit {c : Char} (h : c.isDigit = true) : Char.ofNat (48 + asciiDigit c) = c := by
  have bounds := toNat_of_isDigit h
  rw [asciiDigit, Nat.add_sub_cancel' bounds.1, Char.ofNat_toNat]

/-- ASCII digits stay as they are. -/
theorem inAscii_digits {s : List Char} (h : ∀ c ∈ s, c.isDigit = true) : inAscii s = s := by
  refine (List.map_congr_left fun c hc => ?_).trans (List.map_id s)
  rw [digitValue?_of_isDigit (h c hc)]
  exact ofNat_asciiDigit (h c hc)

/-- Where there are no digits afterwards, there were none before. -/
theorem eq_of_inAscii {s t : List Char} (h : inAscii s = t) (none : ∀ c ∈ t, c.isDigit = false) :
    s = t := by
  subst h
  refine ((List.map_congr_left fun c hc => ?_).trans (List.map_id s)).symm
  have mapped := none _ (List.mem_map_of_mem hc)
  cases value : digitValue? c with
  | none => rfl
  | some d =>
    rw [value] at mapped
    have digit := isDigit_ofNat (digitValue?_lt_ten value)
    rw [mapped] at digit
    cases digit

/-- A digit is no padding. -/
theorem isPadding_of_isDigit {c : Char} (h : c.isDigit = true) : isPadding c = false := by
  have all : ∀ d : Fin 10, isPadding (Char.ofNat (48 + d.1)) = false := by decide
  rw [← ofNat_asciiDigit h]
  exact all ⟨asciiDigit c, asciiDigit_lt_ten h⟩

theorem prepared_digits {s : List Char} (h : ∀ c ∈ s, c.isDigit = true) : prepared s = s := by
  have trimmed : IsTrimmed isPadding ([] ++ s ++ []) s :=
    isTrimmed_of_forall (List.forall_mem_nil _) fun c hc => isPadding_of_isDigit (h c hc)
  rw [List.nil_append, List.append_nil] at trimmed
  rw [prepared, trimBy_of_isTrimmed trimmed, inAscii_digits h]

/-- **Plain digits are the integer that they spell.** -/
theorem readInt_digits {s : List Char} (ne : s ≠ []) (digits : ∀ c ∈ s, c.isDigit = true)
    (short : s.length ≤ digitLimit) : readInt s = .ok (Nat.ofDigitChars 10 s 0 : Int) := by
  obtain ⟨c, rest, rfl⟩ := List.exists_cons_of_ne_nil ne
  have first := digits c List.mem_cons_self
  have unsigned : takeSign (c :: rest) = (false, c :: rest) := by
    unfold takeSign
    split
    · next eq =>
      obtain ⟨rfl, -⟩ := List.cons.inj eq
      cases first
    · next eq =>
      obtain ⟨rfl, -⟩ := List.cons.inj eq
      cases first
    · rfl
  rw [readInt, prepared_digits digits, unsigned]
  simp only [takeGrouped?_digits digits, if_neg (Nat.not_lt.2 short), List.isEmpty_nil, if_true]
  rfl

/-! ## The name of what is no number -/

/-- A sign, or none. -/
def signs : List (List Char) :=
  [[], ['+'], ['-']]

/-- The text spells the name of what is no number. -/
def SpellsNan (s : List Char) : Prop :=
  ∃ sign word, sign ∈ signs ∧ word.map Char.toLower = ['n', 'a', 'n'] ∧
    IsTrimmed isPadding s (sign ++ word)

/-- Text without digits is as it is without underscores. -/
theorem eq_of_ungrouped? {s t : List Char} (h : ungrouped? s = some t)
    (none : ∀ c ∈ t, c.isDigit = false) : s = t := by
  fun_induction ungrouped? s generalizing t with
  | case1 => exact Option.some.inj h
  | case2 => cases h
  | case3 c => exact Option.some.inj h
  | case4 c d rest _ digits ih =>
    obtain ⟨t, -, rfl⟩ := Option.map_eq_some_iff.1 h
    rw [none c List.mem_cons_self] at digits
    cases digits
  | case5 => cases h
  | case6 c d rest _ _ ih =>
    obtain ⟨t, left, rfl⟩ := Option.map_eq_some_iff.1 h
    rw [ih left fun e he => none e (List.mem_cons_of_mem _ he)]

/-- A letter of which another is the lower case is this other one or its upper case. -/
theorem eq_or_eq_of_toLower {c l : Char} (h : c.toLower = l) :
    c = l ∨ c = Char.ofNat (l.toNat - 32) := by
  change dite _ _ _ = l at h
  split at h
  · next upper =>
    right
    have high := UInt32.le_iff_toNat_le.1 upper.2
    have value : l.toNat = c.toNat + 32 := by
      rw [← h]
      show (c.val + ('a'.val - 'A'.val)).toNat = c.val.toNat + 32
      rw [UInt32.toNat_add]
      exact Nat.mod_eq_of_lt (Nat.lt_of_le_of_lt (Nat.add_le_add_right high 32) (by decide))
    rw [value, Nat.add_sub_cancel, Char.ofNat_toNat]
  · exact .inl h

/-- The eight ways to write the name. -/
def nanWords : List (List Char) :=
  [['n', 'a', 'n'], ['n', 'a', 'N'], ['n', 'A', 'n'], ['n', 'A', 'N'], ['N', 'a', 'n'],
    ['N', 'a', 'N'], ['N', 'A', 'n'], ['N', 'A', 'N']]

theorem mem_nanWords_of_map_toLower {word : List Char}
    (h : word.map Char.toLower = ['n', 'a', 'n']) : word ∈ nanWords := by
  obtain ⟨x, rest, rfl, hx, h⟩ := List.map_eq_cons_iff.1 h
  obtain ⟨y, rest, rfl, hy, h⟩ := List.map_eq_cons_iff.1 h
  obtain ⟨z, rest, rfl, hz, h⟩ := List.map_eq_cons_iff.1 h
  obtain rfl := List.map_eq_nil_iff.1 h
  rcases eq_or_eq_of_toLower hx with rfl | rfl <;>
    rcases eq_or_eq_of_toLower hy with rfl | rfl <;>
      rcases eq_or_eq_of_toLower hz with rfl | rfl <;> decide

/-- What is a sign stands in front of what follows it. -/
theorem exists_sign (s : List Char) : ∃ sign ∈ signs, s = sign ++ (takeSign s).2 := by
  unfold takeSign
  split
  · exact ⟨['-'], by decide, rfl⟩
  · exact ⟨['+'], by decide, rfl⟩
  · exact ⟨[], by decide, rfl⟩

/-- Letters are named as no number only if they are its name. -/
theorem map_toLower_of_named? {negative : Bool} {s : List Char}
    (h : named? negative s = some .nan) : s.map Char.toLower = ['n', 'a', 'n'] := by
  rw [named?] at h
  split at h
  · cases h
  · split at h
    · next name => rw [← String.toList_ofList (l := s.map Char.toLower), name]; rfl
    · cases h

/-- **The texts that are read as no number** are those that spell its name. -/
theorem readFloat?_eq_some_nan_iff {s : List Char} :
    readFloat? s = some .nan ↔ SpellsNan s := by
  constructor
  · intro h
    obtain ⟨plain, ungrouped, read⟩ := Option.bind_eq_some_iff.1 h
    obtain ⟨sign, isSign, parted⟩ := exists_sign plain
    generalize takeSign plain = signed at read parted
    have named : signed.2.map Char.toLower = ['n', 'a', 'n'] := by
      dsimp only at read
      split at read
      · exact map_toLower_of_named? read
      · split at read
        · exact absurd (Option.some.inj read) (Binary64.ofDecimal_ne_nan _ _ _)
        · cases read
    have all : ∀ sign ∈ signs, ∀ word ∈ nanWords, (sign ++ word).any Char.isDigit = false := by
      decide
    have none : ∀ c ∈ plain, c.isDigit = false := by
      rw [parted]
      intro c hc
      have some := List.any_eq_false.1 (all sign isSign _ (mem_nanWords_of_map_toLower named)) c hc
      exact Bool.eq_false_iff.2 some
    have same := eq_of_inAscii (eq_of_ungrouped? ungrouped none) none
    refine ⟨sign, signed.2, isSign, named, ?_⟩
    rw [← parted, ← same]
    exact isTrimmed_trimBy isPadding s
  · rintro ⟨sign, word, isSign, named, trimmed⟩
    have all : ∀ sign ∈ signs, ∀ word ∈ nanWords, readFloat? (sign ++ word) = some .nan := by decide
    have same : prepared s = prepared (sign ++ word) := by
      rw [prepared, prepared, trimBy_of_isTrimmed trimmed, trimBy_of_isTrimmed trimmed.self]
    rw [readFloat?, same, ← readFloat?]
    exact all sign isSign word (mem_nanWords_of_map_toLower named)

end Setting

end EventRoster.Number
