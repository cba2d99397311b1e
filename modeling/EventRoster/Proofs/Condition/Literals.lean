import EventRoster.Condition.Reader
import EventRoster.Condition.Written
import EventRoster.Proofs.Json.Strings
import EventRoster.Proofs.Number.Spelling
import EventRoster.Text.Digit

/-!
# The literals of conditions are read back as they are written

The reader of conditions finds the end of a string by a scan that knows nothing of escapes except
that a backslash takes the next code point with it.  `Scans` says of a piece of text that this scan
goes over it without stopping, as it does over the inside of every string.

* `scans_of_spells`: the scan goes over the inside of every string.
* `took_takeString` and `spells_of_takeString`: a string is read as what it spells between its quotes,
  and nothing else is read as a string.
* `settled_takeLiteral`: a scalar in writing is read back, if it can be at all, provided that the
  text does not go on with what could belong to it.  It can be if `Scalar.readable` says so.
-/

namespace EventRoster.Condition

open EventRoster.Text

/-! ## The scan for the closing quote -/

theorem scanString_quote (rest : List CodePoint) : scanString (.char '"' :: rest) = some ([], rest) := by
  rw [scanString.eq_def]
  exact if_pos rfl

theorem scanString_backslash (c : CodePoint) (rest : List CodePoint) :
    scanString (.char '\\' :: c :: rest) =
      (scanString rest).map fun (inside, after) => (.char '\\' :: c :: inside, after) := by
  rw [scanString.eq_def]
  rfl

theorem scanString_plain {c : CodePoint} (quote : c ≠ '"') (backslash : c ≠ '\\') (rest : List CodePoint) :
    scanString (c :: rest) = (scanString rest).map fun (inside, after) => (c :: inside, after) := by
  rw [scanString.eq_def]
  show (if c = '"' then _ else _) = _
  rw [if_neg quote, if_neg backslash]

/-- The scan for the closing quote goes over a piece of text without stopping in it. -/
def Scans (piece : List CodePoint) : Prop :=
  ∀ rest, scanString (piece ++ rest) =
    (scanString rest).map fun (inside, after) => (piece ++ inside, after)

theorem scans_nil : Scans [] := by
  intro rest
  show scanString rest = _
  cases scanString rest <;> rfl

theorem Scans.append {first second : List CodePoint} (h : Scans first) (h' : Scans second) :
    Scans (first ++ second) := by
  intro rest
  rw [List.append_assoc, h, h', Option.map_map]
  congr 1
  funext ⟨inside, after⟩
  show (first ++ (second ++ inside), after) = _
  rw [← List.append_assoc]

/-- A code point that is neither quote nor backslash is gone over. -/
theorem scans_singleton {c : CodePoint} (quote : c ≠ '"') (backslash : c ≠ '\\') : Scans [c] := by
  intro rest
  exact scanString_plain quote backslash rest

/-- A backslash takes any code point with it. -/
theorem scans_pair (c : CodePoint) : Scans [.char '\\', c] := by
  intro rest
  exact scanString_backslash c rest

/-- Characters that are neither quotes nor backslashes are gone over. -/
theorem scans_of_forall {piece : List CodePoint} (h : ∀ c ∈ piece, c ≠ '"' ∧ c ≠ '\\') :
    Scans piece := by
  induction piece with
  | nil => exact scans_nil
  | cons c piece ih =>
    obtain ⟨quote, backslash⟩ := h c List.mem_cons_self
    have tail := ih fun d hd => h d (List.mem_cons_of_mem _ hd)
    exact (scans_singleton quote backslash).append tail

/-- The scan stops at a quote behind a piece that it goes over, and nowhere before. -/
theorem Scans.scanString_eq {inside : List CodePoint} (h : Scans inside) (rest : List CodePoint) :
    scanString (inside ++ .char '"' :: rest) = some (inside, rest) := by
  rw [h, scanString_quote]
  show some (inside ++ [], rest) = _
  rw [List.append_nil]

/-- What the scan has gone over is the text up to a quote. -/
theorem eq_of_scanString {s inside after : List CodePoint} (h : scanString s = some (inside, after)) :
    s = inside ++ .char '"' :: after := by
  fun_induction scanString s generalizing inside after with
  | case1 => cases h
  | case2 => cases h; rfl
  | case3 => cases h
  | case4 d rest _ ih =>
    obtain ⟨⟨i, a⟩, scanned, eq⟩ := Option.map_eq_some_iff.1 h
    cases eq
    rw [ih scanned]
    rfl
  | case5 c rest _ _ ih =>
    obtain ⟨⟨i, a⟩, scanned, eq⟩ := Option.map_eq_some_iff.1 h
    cases eq
    rw [ih scanned]
    rfl

/-- The escape of a code unit is gone over: no hexadecimal digit is a quote or a backslash. -/
theorem scans_of_isUnit {piece : List CodePoint} {unit : CodePoint} (h : Json.Text.IsUnit piece unit) :
    Scans piece := by
  obtain ⟨a, b, c, d, rfl, value⟩ := h
  have digits : ∀ x ∈ [a, b, c, d], hexValue? x ≠ none := by
    intro x hx none
    simp only [ofHex?, List.foldlM_cons, List.foldlM_nil, Option.bind_eq_bind] at value
    simp only [List.mem_cons, List.not_mem_nil, or_false] at hx
    rcases hx with rfl | rfl | rfl | rfl <;> simp [none] at value
  refine (scans_pair 'u').append (scans_of_forall ?_)
  intro x hx
  obtain ⟨digit, member, rfl⟩ : ∃ y ∈ [a, b, c, d], CodePoint.char y = x := List.mem_map.1 hx
  have value := digits digit member
  constructor <;>
  · intro eq
    rw [CodePoint.char.inj eq] at value
    exact value rfl

/-- **The inside of a string is gone over**, with all its escapes. -/
theorem scans_of_spells {inside value : List CodePoint} (h : Json.Text.Spells inside value) :
    Scans inside := by
  induction h with
  | nil => exact scans_nil
  | plain quote backslash control more ih => exact (scans_singleton quote backslash).append ih
  | letter stands more ih => exact (scans_pair _).append ih
  | unit unit single more ih => exact (scans_of_isUnit unit).append ih
  | pair unit isHigh unit' isLow more ih =>
    exact (scans_of_isUnit unit).append ((scans_of_isUnit unit').append ih)

/-! ## Strings -/

/-- What a string spells between its quotes is read as one piece of JSON. -/
theorem readPiece_of_spells {inside value : List CodePoint} (h : Json.Text.Spells inside value) :
    readPiece (.char '"' :: (inside ++ [.char '"'])) = .ok (Text.ofList value) := by
  obtain ⟨shorter, reads⟩ := Json.Text.took_takeBody h ((inside ++ [CodePoint.char '"']).length + 1) []
  rw [readPiece, Json.takeString, if_pos rfl, reads]
  rfl

/-- A piece of JSON that was read as a string is one between its quotes. -/
theorem spells_of_readPiece {inside : List CodePoint} {value : Text}
    (h : readPiece (.char '"' :: (inside ++ [.char '"'])) = .ok value) :
    Json.Text.Spells inside value.toList := by
  unfold readPiece at h
  split at h
  · cases h
  · next string hstring =>
    split at h
    · next whole =>
      cases h
      rw [Json.takeString, if_pos rfl] at hstring
      split at hstring
      · cases hstring
      · next body hbody =>
        cases hstring
        obtain ⟨spelled, spells, eq⟩ := Json.Text.spells_of_takeBody ⟨body.shorter, hbody⟩
        have none : body.rest = [] := List.isEmpty_iff.1 whole
        rw [none] at eq
        have same : inside = spelled := List.append_cancel_right eq
        show Json.Text.Spells inside (Text.ofList body.value).toList
        rw [Text.toList_ofList]
        exact same.symm ▸ spells
    · cases h

/-- A piece that is no string is malformed. -/
theorem malformed_of_readPiece {inside : List CodePoint} {e : Json.Fault}
    (h : readPiece (.char '"' :: inside) = .error e) : ∃ problem left, e = .malformed problem left := by
  unfold readPiece at h
  split at h
  · next fault =>
    cases h
    rw [Json.takeString, if_pos rfl] at fault
    split at fault
    · next body =>
      cases fault
      exact Json.Text.malformed_of_takeBody body
    · cases fault
  · split at h
    · cases h
    · cases h
      exact ⟨_, _, rfl⟩

/-- **A string is read as what it spells**, whatever follows its closing quote. -/
theorem took_takeString {inside : List CodePoint} {value : Text}
    (h : Json.Text.Spells inside value.toList) (rest : List CodePoint) :
    Took (takeString (inside ++ .char '"' :: rest)) value rest := by
  have scan := (scans_of_spells h).scanString_eq rest
  unfold takeString
  split
  · next none => rw [none] at scan; cases scan
  · next inside after some =>
    rw [some] at scan
    cases scan
    rw [readPiece_of_spells h]
    simp only [Text.ofList_toList]
    exact ⟨_, rfl⟩

/-- **A string that was read is spelled** up to its closing quote. -/
theorem spells_of_takeString {s rest : List CodePoint} {value : Text}
    (h : Took (takeString s) value rest) :
    ∃ inside, Json.Text.Spells inside value.toList ∧ s = inside ++ .char '"' :: rest := by
  obtain ⟨shorter, h⟩ := h
  unfold takeString at h
  split at h
  · cases h
  · next inside after scanned =>
    split at h
    · cases h
    · next text piece =>
      cases h
      exact ⟨inside, spells_of_readPiece piece, eq_of_scanString scanned⟩

/-! ## Tokens -/

theorem skipBlank_cons {c : CodePoint} (h : isBlank c = false) (s : List CodePoint) :
    skipBlank (c :: s) = c :: s := by
  rw [skipBlank, List.dropWhile_cons_of_neg (by simp [h])]

section Next

variable {c : Char} {s u : List CodePoint}

theorem peek?_of_skipBlank {c : CodePoint} (h : skipBlank s = c :: u) :
    ∃ shorter, peek? s = some ⟨c, u, shorter⟩ := by
  have shorter : u.length < s.length := by
    have := skipBlank_length_le s
    rwa [h] at this
  refine ⟨shorter, ?_⟩
  unfold peek?
  split
  · next nil => rw [h] at nil; cases nil
  · next d rest cons =>
    rw [h] at cons
    cases cons
    rfl

theorem peek?_eq_none (h : skipBlank s = []) : peek? s = none := by
  unfold peek?
  split
  · rfl
  · next cons => rw [h] at cons; cases cons

/-- A character is taken if it is the first that is no blank. -/
theorem next?_of_skipBlank (h : skipBlank s = .char c :: u) :
    ∃ shorter, next? c s = some ⟨(), u, shorter⟩ := by
  obtain ⟨shorter, peeks⟩ := peek?_of_skipBlank h
  refine ⟨shorter, ?_⟩
  rw [next?, peeks]
  exact if_pos rfl

/-- A character is not taken if the first that is no blank is another one. -/
theorem next?_eq_none (h : ∀ u, skipBlank s ≠ .char c :: u) : next? c s = none := by
  rw [next?]
  cases eq : skipBlank s with
  | nil => rw [peek?_eq_none eq]
  | cons d u =>
    obtain ⟨shorter, peeks⟩ := peek?_of_skipBlank eq
    have ne : d ≠ c := by
      rintro rfl
      exact h u eq
    rw [peeks]
    exact if_neg ne

theorem next?_cons (h : isBlank c = false) (s : List CodePoint) :
    next? c (.char c :: s) = some ⟨(), s, Nat.lt_succ_self _⟩ := by
  obtain ⟨shorter, taken⟩ := next?_of_skipBlank (skipBlank_cons h s)
  exact taken

theorem next?_cons_of_ne {d : CodePoint} (h : isBlank d = false) (ne : d ≠ c) (s : List CodePoint) :
    next? c (d :: s) = none := by
  refine next?_eq_none ?_
  intro u eq
  rw [skipBlank_cons h] at eq
  exact ne (List.cons.inj eq).1

theorem expect_cons (h : isBlank c = false) (s : List CodePoint) :
    expect c (.char c :: s) = .ok ⟨(), s, Nat.lt_succ_self _⟩ := by
  rw [expect, next?_cons h]

end Next

/-- Visible ASCII characters are no blanks. -/
theorem isBlank_of_visible {c : CodePoint} (above : 0x20 < c.toNat) (below : c.toNat < 0x7f) :
    isBlank c = false := by
  cases c with
  | char c =>
    refine Bool.eq_false_iff.2 fun blank => ?_
    obtain ⟨r, hr, first, last⟩ := inRanges_iff.1 blank
    rw [CodePoint.toNat_char] at above below
    simp only [blankRanges, List.mem_cons, List.not_mem_nil, or_false] at hr
    rcases hr with rfl | rfl | rfl | rfl | rfl | rfl | rfl | rfl | rfl | rfl <;>
      simp only at first last <;> omega
  | surrogate n => rfl

theorem toNat_of_isLetter {c : CodePoint} (h : isLetter c = true) :
    (65 ≤ c.toNat ∧ c.toNat ≤ 90) ∨ (97 ≤ c.toNat ∧ c.toNat ≤ 122) := by
  cases c with
  | char c =>
    rw [isLetter, CodePoint.is, Bool.or_eq_true, Bool.and_eq_true, Bool.and_eq_true] at h
    rcases h with ⟨first, last⟩ | ⟨first, last⟩
    · exact .inl ⟨of_decide_eq_true first, of_decide_eq_true last⟩
    · exact .inr ⟨of_decide_eq_true first, of_decide_eq_true last⟩
  | surrogate n => cases h

/-- Letters are no blanks. -/
theorem isBlank_of_isLetter {c : CodePoint} (h : isLetter c = true) : isBlank c = false := by
  have range := toNat_of_isLetter h
  exact isBlank_of_visible (by omega) (by omega)

/-- Digits are no blanks. -/
theorem isBlank_of_isDigit {c : Char} (h : c.isDigit = true) : isBlank c = false := by
  have range := toNat_of_isDigit h
  exact isBlank_of_visible (by rw [CodePoint.toNat_char]; omega) (by rw [CodePoint.toNat_char]; omega)

/-- A word is taken whole if no letter follows it. -/
theorem takeWord?_of_skipBlank {s word rest : List CodePoint} (eq : skipBlank s = word ++ rest)
    (nonempty : word ≠ []) (letters : ∀ c ∈ word, isLetter c = true) (h : Bars isLetter rest) :
    ∃ shorter, takeWord? s = some ⟨word, rest, shorter⟩ := by
  obtain ⟨c, word, rfl⟩ := List.exists_cons_of_ne_nil nonempty
  have others : ∀ d ∈ word, isLetter d = true := fun d hd => letters d (List.mem_cons_of_mem _ hd)
  have run := takeWhile_append_of_bars others h
  have left := dropWhile_append_of_bars others h
  obtain ⟨shorter, peeks⟩ := peek?_of_skipBlank (u := word ++ rest) eq
  have less : rest.length < s.length := by
    rw [List.length_append] at shorter
    omega
  refine ⟨less, ?_⟩
  rw [takeWord?, peeks]
  simp only [if_pos (letters c List.mem_cons_self), run, left]

/-- A word at the very front of a text is taken whole. -/
theorem takeWord?_append {word rest : List CodePoint} (nonempty : word ≠ [])
    (letters : ∀ c ∈ word, isLetter c = true) (h : Bars isLetter rest) :
    ∃ shorter, takeWord? (word ++ rest) = some ⟨word, rest, shorter⟩ := by
  obtain ⟨c, more, eq⟩ := List.exists_cons_of_ne_nil nonempty
  have visible := isBlank_of_isLetter (letters c (by rw [eq]; exact List.mem_cons_self))
  refine takeWord?_of_skipBlank ?_ nonempty letters h
  rw [eq, List.cons_append, skipBlank_cons visible]

theorem takeWord?_cons_of_not {c : CodePoint} (blank : isBlank c = false) (letter : isLetter c = false)
    (s : List CodePoint) : takeWord? (c :: s) = none := by
  obtain ⟨shorter, peeks⟩ := peek?_of_skipBlank (skipBlank_cons blank s)
  rw [takeWord?, peeks]
  exact if_neg (Bool.eq_false_iff.1 letter)

/-! ## Scalars -/

/-- Whether a code point could belong to a literal before it. -/
def continues (c : CodePoint) : Bool :=
  c.is Number.goesOn || isLetter c

theorem bars_goesOn {rest : List CodePoint} (h : Bars continues rest) :
    Bars (CodePoint.is Number.goesOn) rest := by
  refine h.mono ?_
  intro c hc
  rw [continues, hc, Bool.true_or]

theorem bars_isLetter {rest : List CodePoint} (h : Bars continues rest) : Bars isLetter rest := by
  refine h.mono ?_
  intro c hc
  rw [continues, hc, Bool.or_true]

end EventRoster.Condition

/-- Whether the literal of a scalar can be read back.  An integer can if it is short enough, and a
binary64 number if it is finite. -/
def EventRoster.Scalar.readable : Scalar → Bool
  | .int n => Condition.digitCount n ≤ Number.digitLimit
  | .float x => x.isFinite
  | _ => true

namespace EventRoster.Condition

open EventRoster.Text

section Plain

variable {s rest : List CodePoint}

/-- A number begins with a digit, perhaps behind a minus sign. -/
theorem exists_digit_of_takeNumber? {number : Taken Number.Literal s}
    (h : Number.takeNumber? s = some number) : ∃ (d : Char) (t : List CodePoint), d.isDigit = true ∧
      (s = .char d :: t ∨ s = .char '-' :: .char d :: t) := by
  obtain ⟨text, written, eq⟩ := Number.isWrittenAs_of_takeNumber? h
  obtain ⟨d, t, digit, rfl | rfl⟩ := written.exists_eq_digit
  · exact ⟨d, t ++ number.rest, digit, .inl eq⟩
  · exact ⟨d, t ++ number.rest, digit, .inr eq⟩

/-- A literal of a number is read as its value, or refused if it has none. -/
theorem settled_takePlain_literal {l : Number.Literal} {text : List CodePoint}
    (spelled : l.IsWrittenAs text) (h : Bars continues rest) {good : Bool} {v : Scalar}
    (value : if good then ∃ x, l.value = .ok x ∧ ofNumber x = v else ∃ d, l.value = .error d) :
    Settled (takePlain (text ++ rest)) good v rest := by
  obtain ⟨shorter, reads⟩ := Number.takeNumber?_of_isWrittenAs spelled (bars_goesOn h)
  rw [takePlain, reads]
  cases good with
  | true =>
    obtain ⟨x, ok, rfl⟩ := value
    simp only [ok]
    exact ⟨_, rfl⟩
  | false =>
    obtain ⟨d, error⟩ := value
    simp only [error]
    exact ⟨_, rfl⟩

/-- A word that spells a scalar is read as it, and any other is refused. -/
theorem settled_takePlain_word {word : List CodePoint} (number : Number.takeNumber? (word ++ rest) = none)
    (nonempty : word ≠ []) (letters : ∀ c ∈ word, isLetter c = true) (h : Bars continues rest)
    {good : Bool} {v : Scalar} (value : ofWord? word = if good then some v else none) :
    Settled (takePlain (word ++ rest)) good v rest := by
  obtain ⟨shorter, reads⟩ := takeWord?_append nonempty letters (bars_isLetter h)
  rw [takePlain, number, reads]
  cases good <;>
  · simp only [value]
    exact ⟨_, rfl⟩

/-- A minus sign without a digit behind it begins no literal. -/
theorem takePlain_minus {c : CodePoint} (digit : c.is Char.isDigit = false) (s : List CodePoint) :
    ∃ e, takePlain (.char '-' :: c :: s) = .error e := by
  have number : Number.takeNumber? (.char '-' :: c :: s) = none := by
    refine Option.eq_none_iff_forall_ne_some.2 fun number takes => ?_
    obtain ⟨d, t, isDigit, eq | eq⟩ := exists_digit_of_takeNumber? takes
    · cases eq
      cases isDigit
    · cases eq
      rw [CodePoint.is, isDigit] at digit
      cases digit
  have word := takeWord?_cons_of_not (c := '-') (by decide) (by decide) (c :: s)
  rw [takePlain, number, word]
  exact ⟨_, rfl⟩

/-- A literal that is no string is read without its quote. -/
theorem settled_takeLiteral_of_plain {c : CodePoint} (blank : isBlank c = false) (quote : c ≠ '"')
    {good : Bool} {v : Scalar} (h : Settled (takePlain (c :: s)) good v rest) :
    Settled (takeLiteral (c :: s)) good v rest := by
  have same : Settled (takePlain (skipBlank (c :: s))) good v rest := by
    rwa [skipBlank_cons blank]
  rw [takeLiteral, next?_cons_of_ne blank quote]
  cases good with
  | true =>
    obtain ⟨shorter, reads⟩ := same
    simp only [reads]
    exact ⟨_, rfl⟩
  | false =>
    obtain ⟨e, fails⟩ := settled_false.1 same
    simp only [fails]
    exact ⟨_, rfl⟩

/-- The same where any literal may stand: no number begins like a string. -/
theorem settled_takeLiteral_literal {l : Number.Literal} {text : List CodePoint}
    (spelled : l.IsWrittenAs text) (h : Bars continues rest) {good : Bool} {v : Scalar}
    (value : if good then ∃ x, l.value = .ok x ∧ ofNumber x = v else ∃ d, l.value = .error d) :
    Settled (takeLiteral (text ++ rest)) good v rest := by
  have plain := settled_takePlain_literal spelled h value
  obtain ⟨d, s, digit, eq | eq⟩ := spelled.exists_eq_digit
  · have quote : CodePoint.char d ≠ '"' := by
      rintro ⟨⟩
      cases digit
    rw [eq, List.cons_append] at plain ⊢
    exact settled_takeLiteral_of_plain (isBlank_of_isDigit digit) quote plain
  · rw [eq, List.cons_append] at plain ⊢
    exact settled_takeLiteral_of_plain (by decide) (by decide) plain

/-- A word that spells a scalar is read as it, and any other is refused: no word begins like a number
or a string. -/
theorem settled_takeLiteral_word {word : List CodePoint} (nonempty : word ≠ [])
    (spelled : word.all isLetter = true) (h : Bars continues rest) {good : Bool} {v : Scalar}
    (value : ofWord? word = if good then some v else none) :
    Settled (takeLiteral (word ++ rest)) good v rest := by
  have letters := List.all_eq_true.1 spelled
  obtain ⟨c, more, eq⟩ := List.exists_cons_of_ne_nil nonempty
  have letter := letters c (by rw [eq]; exact List.mem_cons_self)
  have range := toNat_of_isLetter letter
  have ne : ∀ d : Char, d.toNat < 65 → c ≠ d := by
    rintro d small rfl
    rw [CodePoint.toNat_char] at range
    omega
  have number : Number.takeNumber? (word ++ rest) = none := by
    refine Option.eq_none_iff_forall_ne_some.2 fun number takes => ?_
    obtain ⟨d, t, digit, front | front⟩ := exists_digit_of_takeNumber? takes
    · have small := toNat_of_isDigit digit
      rw [eq, List.cons_append] at front
      exact ne d (by omega) (List.cons.inj front).1
    · rw [eq, List.cons_append] at front
      exact ne '-' (by decide) (List.cons.inj front).1
  have plain := settled_takePlain_word number nonempty letters h value
  rw [eq, List.cons_append] at plain ⊢
  exact settled_takeLiteral_of_plain (isBlank_of_isLetter letter) (ne '"' (by decide)) plain

end Plain

/-- An integer is read back if it is short enough. -/
theorem settled_takeLiteral_int (n : Int) {rest : List CodePoint} (h : Bars continues rest) :
    Settled (takeLiteral (CodePoint.ofChars (Number.intChars n) ++ rest)) (Scalar.int n).readable (.int n)
      rest := by
  have literal := (Number.Literal.isSpelledBy_chars (Number.wellFormed_ofInt n)).isWrittenAs
  rw [← Number.chars_ofInt]
  refine settled_takeLiteral_literal literal h ?_
  by_cases short : digitCount n ≤ Number.digitLimit
  · rw [Scalar.readable, decide_eq_true short]
    exact ⟨.int n, Number.value_ofInt short, rfl⟩
  · rw [Scalar.readable, decide_eq_false short]
    refine ⟨digitCount n, ?_⟩
    have integer : (Number.Literal.ofInt n).isInteger = true := rfl
    rw [Number.Literal.value, if_pos integer]
    exact if_pos (Nat.not_le.1 short)

/-- A binary64 number is read back if it is finite.  The word for the infinite numbers and the word
for NaN are no literals of conditions, although JSON knows them. -/
theorem settled_takeLiteral_float (x : Number.Binary64) {rest : List CodePoint}
    (h : Bars continues rest) :
    Settled (takeLiteral (CodePoint.ofChars (x.chars Number.jsonStyle) ++ rest)) (Scalar.float x).readable
      (.float x) rest := by
  cases x with
  | finite negative size =>
    obtain ⟨l, wf, chars, value⟩ := Number.exists_literal_size Number.jsonStyle negative size
    show Settled (takeLiteral
      (CodePoint.ofChars (Number.signChars negative ++ size.chars Number.jsonStyle) ++ rest)) true
      (.float (.finite negative size)) rest
    rw [← chars]
    exact settled_takeLiteral_literal ((Number.Literal.isSpelledBy_chars wf).isWrittenAs) h ⟨_, value, rfl⟩
  | infinite negative =>
    cases negative with
    | false =>
      show Settled (takeLiteral (CodePoint.ofString "Infinity" ++ rest)) false _ rest
      exact settled_takeLiteral_word (by decide) (by decide) h rfl
    | true =>
      have minus : CodePoint.ofString "-Infinity" ++ rest =
          .char '-' :: .char 'I' :: (CodePoint.ofString "nfinity" ++ rest) := rfl
      show Settled (takeLiteral (CodePoint.ofString "-Infinity" ++ rest)) false _ rest
      rw [minus]
      exact settled_takeLiteral_of_plain (by decide) (by decide)
        (settled_false.2 (takePlain_minus (by decide) _))
  | nan =>
    show Settled (takeLiteral (CodePoint.ofString "NaN" ++ rest)) false _ rest
    exact settled_takeLiteral_word (by decide) (by decide) h rfl

/-- A string is read as the text that it spells. -/
theorem settled_takeLiteral_string {inside : List CodePoint} {s : Text}
    (h : Json.Text.Spells inside s.toList) (rest : List CodePoint) :
    Settled (takeLiteral (.char '"' :: (inside ++ .char '"' :: rest))) true (.text s) rest := by
  obtain ⟨shorter, reads⟩ := took_takeString h rest
  have opened := next?_cons (c := '"') (by decide) (inside ++ .char '"' :: rest)
  rw [takeLiteral, opened]
  simp only [reads]
  exact ⟨_, rfl⟩

/-- **A scalar in writing is read back**, if it can be at all. -/
theorem settled_takeLiteral (v : Scalar) {rest : List CodePoint} (h : Bars continues rest) :
    Settled (takeLiteral (v.chars ++ rest)) v.readable v rest := by
  cases v with
  | null =>
    show Settled (takeLiteral (CodePoint.ofString "null" ++ rest)) true .null rest
    exact settled_takeLiteral_word (by decide) (by decide) h rfl
  | bool b =>
    cases b with
    | true =>
      show Settled (takeLiteral (CodePoint.ofString "true" ++ rest)) true (.bool true) rest
      exact settled_takeLiteral_word (by decide) (by decide) h rfl
    | false =>
      show Settled (takeLiteral (CodePoint.ofString "false" ++ rest)) true (.bool false) rest
      exact settled_takeLiteral_word (by decide) (by decide) h rfl
  | int n => exact settled_takeLiteral_int n h
  | float x => exact settled_takeLiteral_float x h
  | text s =>
    show Settled (takeLiteral (.char '"' :: (Json.Text.encode .unicode s.toList ++ [.char '"']) ++ rest)) true
      (.text s) rest
    rw [List.cons_append, List.append_assoc, List.singleton_append]
    exact settled_takeLiteral_string (Json.Text.spells_encode .unicode s.toList) rest

/-- The name of an intrinsic is read back. -/
theorem takeName_nameChars (name : Text) (rest : List CodePoint) :
    Took (takeName (nameChars name ++ rest)) name rest := by
  obtain ⟨shorter, reads⟩ := took_takeString (Json.Text.spells_encode .unicode name.toList) rest
  have opened := next?_cons (c := '"') (by decide)
    (Json.Text.encode .unicode name.toList ++ .char '"' :: rest)
  rw [nameChars, Json.Text.literal, List.cons_append, List.append_assoc, List.singleton_append,
    takeName, opened]
  simp only [reads]
  exact ⟨_, rfl⟩

end EventRoster.Condition
