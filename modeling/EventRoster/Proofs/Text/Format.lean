import EventRoster.Text.Quoted

/-!
# Filling texts into a format

A format is a text in which percent signs begin conversions, and texts are filled in for them one after
the other.  A conversion goes on with flags, a least width, a precision and a size, all of which may be
left out, and ends with a letter: `s` for the text itself, `r` and `a` for the text in quotes, and `c` for
a text of one character.  Two percent signs in a row stand for one.  Nothing results if a conversion is
of any other form, or if there are not as many texts as conversions.

The conversions that formats hold by design are `%s` and nothing else.  What matters about the others is
that none of them goes without a text, and that a double quote is a part of none of them.

* `fill_append`, `fill_place`: what formats that are as they should be come to.
* `exists_of_fill_quote`: nothing reaches over a double quote.
* `fallsShort_of_fill_nil`: what takes no text gets shorter, if there is any percent sign in it.
-/

namespace EventRoster.Text.Format

/-- A conversion, as far as it is read. -/
structure Conversion where
  flags : List Char := []
  width : Option Nat := none
  precision : Option Nat := none
  sized : Bool := false
deriving DecidableEq

namespace Conversion

/-- The conversion with one more character, unless that is its letter. -/
def goOn? (v : Conversion) (c : Char) : Option Conversion :=
  if v.sized then none
  else if c ∈ ['h', 'l', 'L'] then some { v with sized := true }
  else
    match v.precision, v.width with
    | some n, _ =>
      if c.isDigit then some { v with precision := some (Nat.ofDigitChars 10 [c] n) } else none
    | none, some n =>
      if c = '.' then some { v with precision := some 0 }
      else if c.isDigit then some { v with width := some (Nat.ofDigitChars 10 [c] n) }
      else none
    | none, none =>
      if c = '.' then some { v with precision := some 0 }
      else if c ∈ ['-', '+', ' ', '#', '0'] then some { v with flags := c :: v.flags }
      else if c.isDigit then some { v with width := some (Nat.ofDigitChars 10 [c] 0) }
      else none

/-- Whether width and precision are not too large. -/
def isInRange (v : Conversion) : Bool :=
  v.width.getD 0 < 0x8000000000000000 && v.precision.getD 0 < 0x80000000

/-- A text up to the precision. -/
def cut (v : Conversion) (s : List Char) : List Char :=
  match v.precision with
  | some n => s.take n
  | none => s

/-- A text with blanks before it, or behind it, up to the least width. -/
def pad (v : Conversion) (s : List Char) : List Char :=
  let blanks := List.replicate (v.width.getD 0 - s.length) ' '
  if '-' ∈ v.flags then s ++ blanks else blanks ++ s

/-- A character as it is shown where there is only ASCII. -/
def inAscii (c : Char) : List Char :=
  if c.toNat < 0x80 then [c]
  else if c.toNat ≤ 0xff then '\\' :: 'x' :: hexPadded 2 c.toNat
  else if c.toNat ≤ 0xffff then '\\' :: 'u' :: hexPadded 4 c.toNat
  else '\\' :: 'U' :: hexPadded 8 c.toNat

/-- What a conversion with a letter makes of a text.  Letters for numbers make nothing of it. -/
def show? (v : Conversion) (letter : Char) (s : List Char) : Option (List Char) :=
  if v.isInRange then
    match letter with
    | 's' => some (v.pad (v.cut s))
    | 'r' => some (v.pad (v.cut (Quoted.chars (CodePoint.ofChars s))))
    | 'a' => some (v.pad (v.cut ((Quoted.chars (CodePoint.ofChars s)).flatMap inAscii)))
    | 'c' => if s.length = 1 then some (v.pad s) else none
    | _ => none
  else none

end Conversion

/-- Fills texts into the rest of a format, behind a conversion that has begun or behind none. -/
def fill : Option Conversion → List Char → List (List Char) → Option (List Char)
  | none, [], texts => if texts.isEmpty then some [] else none
  | some _, [], _ => none
  | none, c :: s, texts =>
    if c = '%' then fill (some {}) s texts else (fill none s texts).map (c :: ·)
  | some v, c :: s, texts =>
    if c = '%' ∧ v = {} then (fill none s texts).map ('%' :: ·)
    else
      match v.goOn? c with
      | some w => fill (some w) s texts
      | none => do
        let shown ← v.show? c (← texts.head?)
        (fill none s texts.tail).map (shown ++ ·)

/-- Fills texts into a format. -/
def filled? (format : String) (texts : List String) : Option String :=
  (fill none format.toList (texts.map String.toList)).map String.ofList

theorem filled?_eq_some_iff {format : String} {texts : List String} {s : List Char} :
    filled? format texts = some (String.ofList s) ↔
      fill none format.toList (texts.map String.toList) = some s := by
  rw [filled?, Option.map_eq_some_iff]
  constructor
  · rintro ⟨same, fills, equal⟩
    rwa [← String.ofList_injective equal]
  · exact fun fills => ⟨s, fills, rfl⟩

variable {v : Conversion} {c : Char} {d s out : List Char} {texts : List (List Char)}

/-! ## Formats as they should be -/

/-- What holds no percent sign stays as it is. -/
theorem fill_append (absent : '%' ∉ d) (s : List Char) (texts : List (List Char)) :
    fill none (d ++ s) texts = (fill none s texts).map (d ++ ·) := by
  induction d with
  | nil => simp
  | cons c d ih =>
    rw [List.cons_append, fill, if_neg (List.ne_of_not_mem_cons absent).symm,
      ih (List.not_mem_of_not_mem_cons absent), Option.map_map]
    rfl

/-- A text is filled in for a place as it is. -/
theorem fill_place (s : List Char) (text : List Char) (texts : List (List Char)) :
    fill none ('%' :: 's' :: s) (text :: texts) = (fill none s texts).map (text ++ ·) := by
  have letter : Conversion.goOn? {} 's' = none := by decide
  have shown : Conversion.show? {} 's' text = some text := by
    simp [Conversion.show?, Conversion.isInRange, Conversion.cut, Conversion.pad]
  rw [fill, if_pos rfl, fill, if_neg (by decide), letter]
  simp [shown]

/-- Nothing results if a place is left without a text. -/
theorem fill_place_nil (s : List Char) : fill none ('%' :: 's' :: s) [] = none := by
  have letter : Conversion.goOn? {} 's' = none := by decide
  rw [fill, if_pos rfl, fill, if_neg (by decide), letter]
  rfl

/-! ## Any formats -/

theorem goOn?_quote (v : Conversion) : v.goOn? '"' = none := by
  have notSize : '"' ∉ ['h', 'l', 'L'] := by decide
  have notFlag : '"' ∉ ['-', '+', ' ', '#', '0'] := by decide
  have notDigit : '"'.isDigit = false := by decide
  rw [Conversion.goOn?, if_neg notSize]
  cases v.precision <;> cases v.width <;> simp [notFlag, notDigit]

theorem show?_quote (v : Conversion) (text : List Char) : v.show? '"' text = none := by
  simp [Conversion.show?]

/-- What a character does in a conversion: it stands for a percent sign, or goes on with the conversion,
or is its letter. -/
theorem fill_some_cases (h : fill (some v) (c :: s) texts = some out) :
    (∃ rest, (c = '%' ∧ v = {}) ∧ fill none s texts = some rest ∧ out = '%' :: rest) ∨
    (∃ w, ¬(c = '%' ∧ v = {}) ∧ v.goOn? c = some w ∧ fill (some w) s texts = some out) ∨
    ∃ text others shown rest, ¬(c = '%' ∧ v = {}) ∧ v.goOn? c = none ∧ texts = text :: others ∧
      v.show? c text = some shown ∧ fill none s others = some rest ∧ out = shown ++ rest := by
  rw [fill] at h
  split at h
  · next percent =>
    obtain ⟨rest, later, rfl⟩ := Option.map_eq_some_iff.1 h
    exact .inl ⟨rest, percent, later, rfl⟩
  · next notPercent =>
    split at h
    · next w goesOn => exact .inr (.inl ⟨w, notPercent, goesOn, h⟩)
    · next letter =>
      obtain ⟨text, first, h⟩ := Option.bind_eq_some_iff.1 h
      obtain ⟨shown, shows, h⟩ := Option.bind_eq_some_iff.1 h
      obtain ⟨rest, later, rfl⟩ := Option.map_eq_some_iff.1 h
      obtain ⟨others, rfl⟩ := List.head?_eq_some_iff.1 first
      exact .inr (.inr ⟨text, others, shown, rest, notPercent, letter, rfl, shows, later, rfl⟩)

/-- **Nothing reaches over a double quote.**  What results has one in the same place: what stands before
it takes some of the texts, and what stands behind it takes the others. -/
theorem exists_of_fill_quote {v : Option Conversion} (h : fill v (d ++ '"' :: s) texts = some out) :
    ∃ before behind front back, texts = before ++ behind ∧ out = front ++ '"' :: back ∧
      fill v d before = some front ∧ fill none s behind = some back := by
  induction d generalizing v texts out with
  | nil =>
    rw [List.nil_append] at h
    -- A conversion that has begun neither goes on with a quote nor ends with one.
    cases v with
    | none =>
      have notPercent : '"' ≠ '%' := by decide
      rw [fill, if_neg notPercent] at h
      obtain ⟨back, later, rfl⟩ := Option.map_eq_some_iff.1 h
      exact ⟨[], texts, [], back, rfl, rfl, rfl, later⟩
    | some v =>
      rcases fill_some_cases h with ⟨-, ⟨percent, -⟩, -⟩ | ⟨w, -, goesOn, -⟩ |
        ⟨text, -, shown, -, -, -, -, shows, -⟩
      · exact absurd percent (by decide)
      · rw [goOn?_quote] at goesOn
        cases goesOn
      · rw [show?_quote] at shows
        cases shows
  | cons c d ih =>
    rw [List.cons_append] at h
    cases v with
    | none =>
      rw [fill] at h
      split at h
      · next percent =>
        obtain ⟨before, behind, front, back, given, same, first, second⟩ := ih h
        exact ⟨before, behind, front, back, given, same, by rwa [fill, if_pos percent], second⟩
      · next notPercent =>
        obtain ⟨rest, later, rfl⟩ := Option.map_eq_some_iff.1 h
        obtain ⟨before, behind, front, back, given, rfl, first, second⟩ := ih later
        exact ⟨before, behind, c :: front, back, given, rfl,
          by rw [fill, if_neg notPercent, first]; rfl, second⟩
    | some v =>
      rcases fill_some_cases h with ⟨rest, percent, later, rfl⟩ | ⟨w, notPercent, goesOn, later⟩ |
        ⟨text, others, shown, rest, notPercent, letter, rfl, shows, later, rfl⟩
      · obtain ⟨before, behind, front, back, given, rfl, first, second⟩ := ih later
        exact ⟨before, behind, '%' :: front, back, given, rfl,
          by rw [fill, if_pos percent, first]; rfl, second⟩
      · obtain ⟨before, behind, front, back, given, same, first, second⟩ := ih later
        exact ⟨before, behind, front, back, given, same,
          by rw [fill, if_neg notPercent, goesOn]; exact first, second⟩
      · obtain ⟨before, behind, front, back, rfl, rfl, first, second⟩ := ih later
        refine ⟨text :: before, behind, shown ++ front, back, rfl, by simp, ?_, second⟩
        rw [fill, if_neg notPercent, letter]
        simp [shows, first]

/-- A text is no longer than another, and shorter under a condition. -/
structure FallsShort (condition : Prop) (out meant : List Char) : Prop where
  le : out.length ≤ meant.length
  lt : condition → out.length < meant.length

theorem FallsShort.refl {condition : Prop} (never : ¬condition) (s : List Char) :
    FallsShort condition s s :=
  ⟨Nat.le_refl _, fun holds => absurd holds never⟩

theorem FallsShort.append {condition other : Prop} {meant : List Char}
    (h : FallsShort condition out meant) (d : List Char) (imp : other → condition) :
    FallsShort other (d ++ out) (d ++ meant) := by
  constructor
  · rw [List.length_append, List.length_append]
    exact Nat.add_le_add_left h.le _
  · intro holds
    rw [List.length_append, List.length_append]
    exact Nat.add_lt_add_left (h.lt (imp holds)) _

/-- **What takes no text gets shorter**, if there is any percent sign in it, and never gets longer. -/
theorem fallsShort_of_fill_nil {v : Option Conversion} (h : fill v d [] = some out) :
    FallsShort (v = none ∧ '%' ∈ d) out d := by
  induction d generalizing v out with
  | nil =>
    cases v with
    | none =>
      obtain rfl : [] = out := Option.some.inj h
      exact .refl (fun percent => absurd percent.2 List.not_mem_nil) []
    | some v => cases h
  | cons c d ih =>
    cases v with
    | none =>
      rw [fill] at h
      split at h
      · have short := Nat.lt_succ_of_le (ih h).le
        exact ⟨Nat.le_of_lt short, fun _ => short⟩
      · next notPercent =>
        obtain ⟨rest, later, rfl⟩ := Option.map_eq_some_iff.1 h
        refine (ih later).append [c] ?_
        rintro ⟨same, mem⟩
        exact ⟨same, List.mem_of_ne_of_mem (Ne.symm notPercent) mem⟩
    | some v =>
      -- Whatever comes of it, the percent sign that began the conversion is gone already.
      refine ⟨?_, fun percent => absurd percent.1 (Option.some_ne_none v)⟩
      rcases fill_some_cases h with ⟨rest, -, later, rfl⟩ | ⟨w, -, -, later⟩ |
        ⟨text, others, shown, rest, -, -, taken, -⟩
      · exact Nat.succ_le_succ (ih later).le
      · exact Nat.le_succ_of_le (ih later).le
      · cases taken

end EventRoster.Text.Format
