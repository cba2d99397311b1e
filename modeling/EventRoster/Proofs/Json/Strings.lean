import EventRoster.Proofs.Json.Spelling
import EventRoster.Proofs.Text.Joined

/-!
# JSON strings are read back as they are written

The inside of a string is written code point by code point.  Where every code point may stand for itself,
what is written spells the string.  In ASCII a surrogate is written as the escape of its unit, and so is
each half of a character beyond U+FFFF.  The two cannot be told apart: where a high surrogate of the
string stands directly before a low one, their escapes spell the character of the pair.

* `ofHex?_hexPadded`: four digits spell the code unit that they were written for.
* `Spells.escape_append`: the escape of a code point, by itself or as a surrogate pair, spells it.
* `isLow_of_isUnit_prefix`: only what is written for a low surrogate can be the second half of a pair.
* `spells_encode`: a string in writing spells what it is read back as, in either set of characters.
* `encode_unicode_joined` and `encode_ascii_joined`: how a joined string is written.
-/

namespace EventRoster.Json.Text

open EventRoster.Text

/-- What a string in writing is read as. -/
def Charset.readBack : Charset → List CodePoint → List CodePoint
  | .unicode, s => s
  | .ascii, s => CodePoint.joined s

/-! ## Code units -/

/-- The four digits of a code unit. -/
theorem hexPadded_four (n : Nat) :
    hexPadded 4 n =
      [hexDigit (n / 4096 % 16), hexDigit (n / 256 % 16), hexDigit (n / 16 % 16),
        hexDigit (n % 16)] := by
  simp [hexPadded, List.range, List.range.loop]

/-- Four digits spell the code unit that they were written for. -/
theorem ofHex?_hexPadded {n : Nat} (hn : n < 65536) : ofHex? (hexPadded 4 n) = some n := by
  have digit : ∀ m : Nat, hexValue? (hexDigit (m % 16)) = some (m % 16) := fun m =>
    hexValue?_hexDigit (Nat.mod_lt m (by decide))
  simp only [hexPadded_four, ofHex?, List.foldlM_cons, List.foldlM_nil, digit, Option.map_some,
    Option.bind_eq_bind, Option.bind_some, Option.pure_def, Option.some.injEq]
  omega

/-- A code unit in writing is the escape of that unit. -/
theorem isUnit_unitEscape {n : Nat} (hn : n < 65536) : IsUnit (unitEscape n) (.ofNat n) := by
  have value := ofHex?_hexPadded hn
  rw [hexPadded_four] at value
  refine ⟨_, _, _, _, ?_, by rw [value]; rfl⟩
  rw [unitEscape, hexPadded_four]
  rfl

theorem IsUnit.length_eq {piece : List CodePoint} {c : CodePoint} (h : IsUnit piece c) :
    piece.length = 6 := by
  obtain ⟨a, b, d, e, rfl, -⟩ := h
  rfl

/-- An escape that stands at the front stands for the code unit that was written there. -/
theorem IsUnit.eq_of_prefix {piece written s : List CodePoint} {c d : CodePoint} (h : IsUnit piece c)
    (h' : IsUnit written d) (front : piece <+: written ++ s) : c = d := by
  have long : piece.length = written.length := h.length_eq.trans h'.length_eq.symm
  have same : piece = written := (List.prefix_of_prefix_length_le front (List.prefix_append _ _)
    (Nat.le_of_eq long)).eq_of_length long
  obtain ⟨a, b, e, f, shape, value⟩ := h
  obtain ⟨a', b', e', f', shape', value'⟩ := h'
  have digits := CodePoint.ofChars_injective (shape.symm.trans (same.trans shape'))
  simp only [List.cons.injEq, true_and, and_true] at digits
  obtain ⟨rfl, rfl, rfl, rfl⟩ := digits
  exact Option.some.inj (value.symm.trans value')

/-! ## What is written for a code point -/

/-- A code point inside a string is a letter behind a backslash, an escape, or stands for itself. -/
theorem encodePoint_cases (charset : Charset) (c : CodePoint) :
    (∃ l, letterEscape? l = some c ∧ encodePoint charset c = [.char '\\', l]) ∨
      (encodePoint charset c = escape c ∧ (c.toNat < 0x20 ∨ charset = .ascii)) ∨
      (encodePoint charset c = [c] ∧ c ≠ '"' ∧ c ≠ '\\' ∧ ¬c.toNat < 0x20 ∧
        ¬(charset = .ascii ∧ 0x7f ≤ c.toNat)) := by
  unfold encodePoint
  by_cases quote : c = '"'
  · exact .inl ⟨'"', by rw [quote]; rfl, if_pos quote⟩
  by_cases backslash : c = '\\'
  · exact .inl ⟨'\\', by rw [backslash]; rfl, by rw [if_neg quote, if_pos backslash]⟩
  rw [if_neg quote, if_neg backslash]
  by_cases feed : c = '\n'
  · exact .inl ⟨'n', by rw [feed]; rfl, if_pos feed⟩
  by_cases back : c = '\r'
  · exact .inl ⟨'r', by rw [back]; rfl, by rw [if_neg feed, if_pos back]⟩
  rw [if_neg feed, if_neg back]
  by_cases tab : c = '\t'
  · exact .inl ⟨'t', by rw [tab]; rfl, if_pos tab⟩
  by_cases form : c = '\x0c'
  · exact .inl ⟨'f', by rw [form]; rfl, by rw [if_neg tab, if_pos form]⟩
  rw [if_neg tab, if_neg form]
  by_cases bell : c = '\x08'
  · exact .inl ⟨'b', by rw [bell]; rfl, if_pos bell⟩
  rw [if_neg bell]
  by_cases control : c.toNat < 0x20
  · exact .inr (.inl ⟨if_pos control, .inl control⟩)
  rw [if_neg control]
  by_cases ascii : charset = .ascii ∧ 0x7f ≤ c.toNat
  · exact .inr (.inl ⟨if_pos ascii, .inr ascii.1⟩)
  · exact .inr (.inr ⟨if_neg ascii, quote, backslash, control, ascii⟩)

/-- Letters stand for characters of ASCII. -/
theorem toNat_lt_of_letterEscape? {l c : CodePoint} (h : letterEscape? l = some c) : c.toNat < 0x80 := by
  unfold letterEscape? at h
  split at h
  · next itself =>
    cases h
    rcases itself with rfl | rfl | rfl <;> decide
  · repeat' split at h
    all_goals first | (cases h; decide) | cases h

/-- Beyond ASCII a code point stands for itself if it may, and is escaped otherwise. -/
theorem encodePoint_of_le (charset : Charset) {c : CodePoint} (h : 0x80 ≤ c.toNat) :
    encodePoint charset c = if charset = .ascii then escape c else [c] := by
  rcases encodePoint_cases charset c with ⟨l, stands, -⟩ | ⟨eq, control | ascii⟩ | ⟨eq, -, -, -, other⟩
  · have small := toNat_lt_of_letterEscape? stands
    omega
  · omega
  · rw [eq, if_pos ascii]
  · rw [eq, if_neg fun ascii => other ⟨ascii, by omega⟩]

theorem encodePoint_unicode_of_le {c : CodePoint} (h : 0x80 ≤ c.toNat) :
    encodePoint .unicode c = [c] :=
  (encodePoint_of_le .unicode h).trans (if_neg Charset.noConfusion)

theorem encodePoint_ascii_of_le {c : CodePoint} (h : 0x80 ≤ c.toNat) :
    encodePoint .ascii c = escape c :=
  (encodePoint_of_le .ascii h).trans (if_pos rfl)

/-- What is written for a surrogate in ASCII is the escape of its unit. -/
theorem isUnit_encodePoint {c : CodePoint} (h : c.isHigh = true ∨ c.isLow = true) :
    IsUnit (encodePoint .ascii c) c := by
  have surrogate : 0xd800 ≤ c.toNat ∧ c.toNat < 0xe000 := by
    rw [CodePoint.isHigh_iff_toNat, CodePoint.isLow_iff_toNat] at h
    omega
  have unit := isUnit_unitEscape (n := c.toNat) (by omega)
  rw [encodePoint_ascii_of_le (by omega), escape, if_pos (by omega)]
  rwa [CodePoint.ofNat_toNat] at unit

/-- Letters stand for characters. -/
theorem isHigh_eq_false_of_letterEscape? {l c : CodePoint} (h : letterEscape? l = some c) :
    l.isHigh = false := by
  cases l with
  | char l => rfl
  | surrogate n => simp [letterEscape?] at h

/-! ## Strings in writing -/

section Encoding

variable {c d : CodePoint} {s value : List CodePoint}

/-- The escape of a code point spells it, unless it is put together with the escape behind it. -/
theorem Spells.escape_append (h : Spells s value)
    (single : c.isHigh = true → ∀ second low, IsUnit second low → second <+: s → low.isLow = false) :
    Spells (escape c ++ s) (c :: value) := by
  unfold escape
  split
  · next small =>
    have unit := isUnit_unitEscape (n := c.toNat) (by omega)
    rw [CodePoint.ofNat_toNat] at unit
    exact h.unit unit single
  · next large =>
    have beyond := Nat.not_lt.1 large
    obtain ⟨c, rfl⟩ := CodePoint.exists_eq_char_of_le_toNat beyond
    have bound := CodePoint.toNat_lt (.char c)
    rw [CodePoint.toNat_char] at beyond bound ⊢
    obtain ⟨high, low⟩ := CodePoint.isHigh_and_isLow_ofNat beyond
    have spelled := h.pair (isUnit_unitEscape (by omega)) high (isUnit_unitEscape (by omega)) low
    rwa [CodePoint.pair_ofNat beyond, ← List.append_assoc] at spelled

/-- What is written for a code point spells it, unless it is put together with the escape behind it. -/
theorem Spells.encodePoint_append (h : Spells s value) (charset : Charset)
    (single : charset = .ascii → c.isHigh = true → ∀ second low, IsUnit second low → second <+: s →
      low.isLow = false) :
    Spells (encodePoint charset c ++ s) (c :: value) := by
  rcases encodePoint_cases charset c with
    ⟨l, stands, eq⟩ | ⟨eq, why⟩ | ⟨eq, quote, backslash, control, -⟩
  · rw [eq]
    exact h.letter stands
  · rw [eq]
    refine h.escape_append fun high => ?_
    rcases why with control | ascii
    · have surrogate := (CodePoint.isHigh_iff_toNat.1 high).1
      omega
    · exact single ascii high
  · rw [eq]
    exact h.plain quote backslash control

/-- Only what is written for a low surrogate can be the second half of a pair. -/
theorem isLow_of_isUnit_prefix {piece : List CodePoint} (unit : IsUnit piece d)
    (front : piece <+: encodePoint .ascii c ++ s) (low : d.isLow = true) : c.isLow = true := by
  obtain ⟨a, b, e, f, shape, -⟩ := id unit
  rcases encodePoint_cases .ascii c with ⟨l, stands, eq⟩ | ⟨eq, -⟩ | ⟨eq, -, backslash, -⟩
  · rw [eq, shape] at front
    have same : CodePoint.char 'u' = l := (List.cons_prefix_cons.1 (List.cons_prefix_cons.1 front).2).1
    exact absurd same.symm (ne_of_letterEscape? stands)
  · rw [eq, escape] at front
    split at front
    · next small =>
      have same := unit.eq_of_prefix (isUnit_unitEscape (by omega)) front
      rw [CodePoint.ofNat_toNat] at same
      rwa [← same]
    · next large =>
      -- The first escape of a character beyond U+FFFF is the first half of a pair.
      obtain ⟨c, rfl⟩ := CodePoint.exists_eq_char_of_le_toNat (Nat.not_lt.1 large)
      have bound : (CodePoint.char c).toNat < 0x110000 := CodePoint.toNat_lt _
      rw [List.append_assoc] at front
      have same := unit.eq_of_prefix (isUnit_unitEscape (by omega)) front
      have high := (CodePoint.isHigh_and_isLow_ofNat (Nat.not_lt.1 large)).1
      rw [CodePoint.toNat_char] at same
      rw [← same, CodePoint.isHigh_iff_toNat] at high
      rw [CodePoint.isLow_iff_toNat] at low
      omega
  · rw [eq, shape] at front
    exact absurd (List.cons_prefix_cons.1 front).1.symm backslash

/-- **A string in writing spells what it is read back as**: itself, in ASCII with its surrogate pairs
joined. -/
theorem spells_encode (charset : Charset) (s : List CodePoint) :
    Spells (encode charset s) (charset.readBack s) := by
  cases charset with
  | unicode =>
    induction s with
    | nil => exact .nil
    | cons c s ih => exact ih.encodePoint_append .unicode fun ascii => Charset.noConfusion ascii
  | ascii =>
    show Spells (encode .ascii s) (CodePoint.joined s)
    fun_induction CodePoint.joined s with
    | case1 => exact .nil
    | case2 c =>
      refine Spells.nil.encodePoint_append .ascii fun _ _ second low unit front => ?_
      have := unit.length_eq
      rw [List.prefix_nil.1 front] at this
      cases this
    | case3 c d rest pair ih =>
      obtain ⟨high, low⟩ := Bool.and_eq_true_iff.1 pair
      exact ih.pair (isUnit_encodePoint (.inl high)) high (isUnit_encodePoint (.inr low)) low
    | case4 c d rest apart ih =>
      refine ih.encodePoint_append .ascii fun _ high second low unit front => ?_
      refine Bool.eq_false_iff.2 fun isLow => apart ?_
      exact Bool.and_eq_true_iff.2 ⟨high, isLow_of_isUnit_prefix unit front isLow⟩

/-! ## Joined strings -/

/-- Only a low surrogate is written with a low surrogate in front. -/
theorem isLow_of_mem_head? {charset : Charset} (h : d ∈ (encodePoint charset c ++ s).head?)
    (low : d.isLow = true) : c.isLow = true := by
  rcases encodePoint_cases charset c with ⟨l, -, eq⟩ | ⟨eq, -⟩ | ⟨eq, -⟩
  · rw [eq] at h
    cases h
    cases low
  · rw [eq, escape] at h
    split at h <;>
    · cases h
      cases low
  · rw [eq] at h
    cases h
    exact low

/-- No first half of a pair is written for anything else. -/
theorem isHigh_eq_false_of_mem_encodePoint (charset : Charset) (h : c.isHigh = false) :
    ∀ d ∈ encodePoint charset c, d.isHigh = false := by
  have unit : ∀ n, ∀ d ∈ unitEscape n, d.isHigh = false := by
    intro n
    exact CodePoint.isHigh_eq_false_of_mem_ofChars ('\\' :: 'u' :: hexPadded 4 n)
  rcases encodePoint_cases charset c with ⟨l, stands, eq⟩ | ⟨eq, -⟩ | ⟨eq, -⟩
  · rw [eq]
    rintro d (_ | ⟨_, _ | ⟨_, ⟨⟩⟩⟩)
    · rfl
    · exact isHigh_eq_false_of_letterEscape? stands
  · rw [eq, escape]
    split
    · exact unit _
    · intro d hd
      exact (List.mem_append.1 hd).elim (unit _ d) (unit _ d)
  · rw [eq]
    rintro d (_ | ⟨_, ⟨⟩⟩)
    exact h

theorem encode_cons (charset : Charset) (c : CodePoint) (s : List CodePoint) :
    encode charset (c :: s) = encodePoint charset c ++ encode charset s :=
  List.flatMap_cons

/-- What is written for a code point is joined by itself, unless it is the first half of a pair and the
second follows. -/
theorem joined_encodePoint_append (apart : c.isHigh = true → ∀ d ∈ s.head?, d.isLow = false) :
    CodePoint.joined (encodePoint .unicode c ++ s) = encodePoint .unicode c ++ CodePoint.joined s := by
  cases high : c.isHigh with
  | false =>
    exact CodePoint.joined_append_of_forall_isHigh_eq_false
      (isHigh_eq_false_of_mem_encodePoint .unicode high) s
  | true =>
    have surrogate := (CodePoint.isHigh_iff_toNat.1 high).1
    rw [encodePoint_unicode_of_le (by omega), CodePoint.joined_append (apart high)]
    rfl

/-- A joined string in writing is the string in writing, joined. -/
theorem encode_unicode_joined (s : List CodePoint) :
    encode .unicode (CodePoint.joined s) = CodePoint.joined (encode .unicode s) := by
  fun_induction CodePoint.joined s with
  | case1 => rfl
  | case2 c =>
    rw [encode_cons, joined_encodePoint_append fun _ => by rintro d ⟨⟩]
    rfl
  | case3 c d rest pair ih =>
    obtain ⟨high, low⟩ := Bool.and_eq_true_iff.1 pair
    have beyond := CodePoint.toNat_pair high low
    have first := (CodePoint.isHigh_iff_toNat.1 high).1
    have second := (CodePoint.isLow_iff_toNat.1 low).1
    rw [encode_cons, encode_cons, encode_cons, ih, encodePoint_unicode_of_le (by omega),
      encodePoint_unicode_of_le (c := c) (by omega), encodePoint_unicode_of_le (c := d) (by omega)]
    exact (if_pos pair).symm
  | case4 c d rest apart ih =>
    rw [encode_cons, ih, encode_cons .unicode c (d :: rest), joined_encodePoint_append]
    intro high e he
    refine Bool.eq_false_iff.2 fun low => apart ?_
    exact Bool.and_eq_true_iff.2 ⟨high, isLow_of_mem_head? he low⟩

/-- A joined string with its quotes. -/
theorem literal_unicode_joined (s : List CodePoint) :
    literal .unicode (CodePoint.joined s) = CodePoint.joined (literal .unicode s) := by
  rw [literal, literal, encode_unicode_joined, CodePoint.joined_cons_char,
    CodePoint.joined_append_cons_char]
  rfl

/-- In ASCII the character that a pair spells is written as the pair is. -/
theorem encodePoint_ascii_pair (high : c.isHigh = true) (low : d.isLow = true) :
    encodePoint .ascii (CodePoint.pair c d) = encodePoint .ascii c ++ encodePoint .ascii d := by
  have whole := CodePoint.toNat_pair high low
  rw [CodePoint.isHigh_iff_toNat] at high
  rw [CodePoint.isLow_iff_toNat] at low
  have first : 0xd800 + ((CodePoint.pair c d).toNat - 0x10000) / 0x400 = c.toNat := by omega
  have second : 0xdc00 + ((CodePoint.pair c d).toNat - 0x10000) % 0x400 = d.toNat := by omega
  rw [encodePoint_ascii_of_le (by omega), encodePoint_ascii_of_le (c := c) (by omega),
    encodePoint_ascii_of_le (c := d) (by omega), escape, escape, escape, if_neg (by omega),
    if_pos (by omega), if_pos (by omega), first, second]

/-- **In ASCII a joined string is written as the string is.** -/
theorem encode_ascii_joined (s : List CodePoint) :
    encode .ascii (CodePoint.joined s) = encode .ascii s := by
  fun_induction CodePoint.joined s with
  | case1 => rfl
  | case2 => rfl
  | case3 c d rest pair ih =>
    obtain ⟨high, low⟩ := Bool.and_eq_true_iff.1 pair
    rw [encode_cons, encode_cons, encode_cons, ih, encodePoint_ascii_pair high low, List.append_assoc]
  | case4 c d rest apart ih =>
    rw [encode_cons, ih, ← encode_cons]

end Encoding

end EventRoster.Json.Text
