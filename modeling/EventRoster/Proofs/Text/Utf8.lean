import EventRoster.Text.Utf8

/-!
# Text that was encoded

The bytes of a character are read as this character, whatever bytes follow, so that a text is read
back from its bytes.  A character of more than one byte is taken apart into groups of six bits.  The
bounds on its second byte keep out the forms that are too long, the surrogates and what is beyond
Unicode, none of which a character is encoded as.

* `decodeReplacing_encode`: a text is read back from its bytes.
-/

namespace EventRoster.Text.Utf8

variable {a b c d : UInt8} {rest : List UInt8}

/-! ## Bytes in their ranges -/

theorem isContinuation_iff : isContinuation b = true ↔ 128 ≤ b.toNat ∧ b.toNat < 192 := by
  rw [isContinuation, Bool.and_eq_true, decide_eq_true_eq, decide_eq_true_eq, UInt8.le_iff_toNat_le,
    UInt8.lt_iff_toNat_lt]
  rfl

/-- Which second bytes may follow a first one. -/
theorem fits_iff : fits a b = true ↔ (128 ≤ b.toNat ∧ b.toNat < 192) ∧
    (a.toNat = 224 → 160 ≤ b.toNat) ∧ (a.toNat = 237 → b.toNat < 160) ∧
    (a.toNat = 240 → 144 ≤ b.toNat) ∧ (a.toNat = 244 → b.toNat < 144) := by
  simp only [fits, Bool.and_eq_true, Bool.or_eq_true, isContinuation_iff, bne_iff_ne, ne_eq,
    decide_eq_true_eq, UInt8.le_iff_toNat_le, UInt8.lt_iff_toNat_lt, ← UInt8.toNat_inj,
    Decidable.imp_iff_not_or]
  exact ⟨fun ⟨⟨⟨⟨h, h₁⟩, h₂⟩, h₃⟩, h₄⟩ => ⟨h, h₁, h₂, h₃, h₄⟩,
    fun ⟨h, h₁, h₂, h₃, h₄⟩ => ⟨⟨⟨⟨h, h₁⟩, h₂⟩, h₃⟩, h₄⟩⟩

/-- Whether a byte is in a range, by its value. -/
theorem inRange_iff (low high : UInt8) :
    (decide (low ≤ a) && decide (a < high)) = true ↔ low.toNat ≤ a.toNat ∧ a.toNat < high.toNat := by
  rw [Bool.and_eq_true, decide_eq_true_eq, decide_eq_true_eq, UInt8.le_iff_toNat_le,
    UInt8.lt_iff_toNat_lt]

/-! ## The front of some bytes -/

/-- A byte that is not ASCII. -/
theorem not_lt_of_le (ge : 128 ≤ a.toNat) : ¬a < 0x80 :=
  fun h => absurd (UInt8.lt_iff_toNat_lt.1 h) (Nat.not_lt.2 ge)

/-- A byte above a range. -/
theorem not_inRange {low high : UInt8} (ge : high.toNat ≤ a.toNat) :
    ¬(decide (low ≤ a) && decide (a < high)) = true :=
  fun h => absurd ((inRange_iff low high).1 h).2 (Nat.not_lt.2 ge)

theorem step_one (h : a.toNat < 128) :
    step a rest = .char (Char.ofNat a.toNat) rest (Nat.lt_succ_self _) := by
  have one : a < 0x80 := UInt8.lt_iff_toNat_lt.2 h
  unfold step
  rw [if_pos one]

theorem step_two (ge : 194 ≤ a.toNat) (lt : a.toNat < 224) (second : isContinuation b = true) :
    step a (b :: rest) = .char (Char.ofNat (a.toNat % 32 * 64 + low b)) rest
      (by simp only [List.length_cons]; omega) := by
  have two : (decide (0xc2 ≤ a) && decide (a < 0xe0)) = true := (inRange_iff _ _).2 ⟨ge, lt⟩
  unfold step
  rw [if_neg (not_lt_of_le (by omega)), if_pos two]
  simp only [second, if_true]

theorem step_three (ge : 224 ≤ a.toNat) (lt : a.toNat < 240) (second : fits a b = true)
    (third : isContinuation c = true) :
    step a (b :: c :: rest) = .char (Char.ofNat (a.toNat % 16 * 4096 + low b * 64 + low c)) rest
      (by simp only [List.length_cons]; omega) := by
  have notTwo : ¬(decide (0xc2 ≤ a) && decide (a < 0xe0)) = true := not_inRange ge
  have three : (decide (0xe0 ≤ a) && decide (a < 0xf0)) = true := (inRange_iff _ _).2 ⟨ge, lt⟩
  unfold step
  rw [if_neg (not_lt_of_le (by omega)), if_neg notTwo, if_pos three]
  simp only [second, third, if_true]

theorem step_four (ge : 240 ≤ a.toNat) (lt : a.toNat < 245) (second : fits a b = true)
    (third : isContinuation c = true) (fourth : isContinuation d = true) :
    step a (b :: c :: d :: rest) =
      .char (Char.ofNat (a.toNat % 8 * 262144 + low b * 4096 + low c * 64 + low d)) rest
        (by simp only [List.length_cons]; omega) := by
  have notTwo : ¬(decide (0xc2 ≤ a) && decide (a < 0xe0)) = true :=
    not_inRange (Nat.le_trans (by decide) ge)
  have notThree : ¬(decide (0xe0 ≤ a) && decide (a < 0xf0)) = true := not_inRange ge
  have four : (decide (0xf0 ≤ a) && decide (a < 0xf5)) = true := (inRange_iff _ _).2 ⟨ge, lt⟩
  unfold step
  rw [if_neg (not_lt_of_le (by omega)), if_neg notTwo, if_neg notThree, if_pos four]
  simp only [second, third, fourth, if_true]

/-! ## Reading what was encoded -/

/-- The byte of a value has this value. -/
theorem toNat_ofNat {n : Nat} (h : n < 256) : (UInt8.ofNat n).toNat = n :=
  UInt8.toNat_ofNat_of_lt' h

theorem isContinuation_ofNat (n : Nat) : isContinuation (UInt8.ofNat (n % 64 + 128)) = true := by
  rw [isContinuation_iff, toNat_ofNat (by omega)]
  omega

/-- A continuation contributes the six bits that it was made of. -/
theorem low_ofNat (n : Nat) : low (UInt8.ofNat (n % 64 + 128)) = n % 64 := by
  rw [low, toNat_ofNat (by omega)]
  omega

section Value

variable {v : Nat} (rest : List UInt8)

theorem decodeReplacing_two (ge : 128 ≤ v) (lt : v < 2048) :
    decodeReplacing (UInt8.ofNat (v / 64 % 32 + 192) :: UInt8.ofNat (v % 64 + 128) :: rest) =
      Char.ofNat v :: decodeReplacing rest := by
  have first : (UInt8.ofNat (v / 64 % 32 + 192)).toNat = v / 64 % 32 + 192 := toNat_ofNat (by omega)
  have whole : (v / 64 % 32 + 192) % 32 * 64 + v % 64 = v := by omega
  rw [decodeReplacing, step_two (by omega) (by omega) (isContinuation_ofNat _)]
  dsimp only
  rw [first, low_ofNat, whole]

/-- The second of three bytes keeps out the surrogates. -/
theorem decodeReplacing_three (ge : 2048 ≤ v) (lt : v < 65536) (valid : v < 0xd800 ∨ 0xdfff < v) :
    decodeReplacing (UInt8.ofNat (v / 4096 % 16 + 224) :: UInt8.ofNat (v / 64 % 64 + 128) ::
      UInt8.ofNat (v % 64 + 128) :: rest) = Char.ofNat v :: decodeReplacing rest := by
  have first : (UInt8.ofNat (v / 4096 % 16 + 224)).toNat = v / 4096 % 16 + 224 :=
    toNat_ofNat (by omega)
  have second : (UInt8.ofNat (v / 64 % 64 + 128)).toNat = v / 64 % 64 + 128 :=
    toNat_ofNat (by omega)
  have follows :
      fits (UInt8.ofNat (v / 4096 % 16 + 224)) (UInt8.ofNat (v / 64 % 64 + 128)) = true := by
    rw [fits_iff, first, second]
    omega
  have whole : (v / 4096 % 16 + 224) % 16 * 4096 + v / 64 % 64 * 64 + v % 64 = v := by omega
  rw [decodeReplacing, step_three (by omega) (by omega) follows (isContinuation_ofNat _)]
  dsimp only
  rw [first, low_ofNat, low_ofNat, whole]

/-- The second of four bytes keeps out what is beyond Unicode. -/
theorem decodeReplacing_four (ge : 65536 ≤ v) (lt : v < 0x110000) :
    decodeReplacing (UInt8.ofNat (v / 262144 % 8 + 240) :: UInt8.ofNat (v / 4096 % 64 + 128) ::
      UInt8.ofNat (v / 64 % 64 + 128) :: UInt8.ofNat (v % 64 + 128) :: rest) =
        Char.ofNat v :: decodeReplacing rest := by
  have first : (UInt8.ofNat (v / 262144 % 8 + 240)).toNat = v / 262144 % 8 + 240 :=
    toNat_ofNat (by omega)
  have second : (UInt8.ofNat (v / 4096 % 64 + 128)).toNat = v / 4096 % 64 + 128 :=
    toNat_ofNat (by omega)
  have follows :
      fits (UInt8.ofNat (v / 262144 % 8 + 240)) (UInt8.ofNat (v / 4096 % 64 + 128)) = true := by
    rw [fits_iff, first, second]
    omega
  have whole : (v / 262144 % 8 + 240) % 8 * 262144 + v / 4096 % 64 * 4096 + v / 64 % 64 * 64 +
      v % 64 = v := by omega
  rw [decodeReplacing, step_four (by omega) (by omega) follows (isContinuation_ofNat _)
    (isContinuation_ofNat _)]
  dsimp only
  rw [first, low_ofNat, low_ofNat, low_ofNat, whole]

end Value

/-- A character of ASCII is one byte. -/
theorem utf8EncodeChar_of_ascii {c : Char} (h : c.toNat < 128) :
    String.utf8EncodeChar c = [UInt8.ofNat c.toNat] := by
  rw [String.utf8EncodeChar]
  exact if_pos (Nat.le_of_lt_succ h)

/-- **The bytes of a character are read as the character**, whatever follows. -/
theorem decodeReplacing_utf8EncodeChar (c : Char) (rest : List UInt8) :
    decodeReplacing (String.utf8EncodeChar c ++ rest) = c :: decodeReplacing rest := by
  have valid := CodePoint.toNat_char_lt_or_gt c
  have value : c.val.toNat = c.toNat := rfl
  have char := c.ofNat_toNat
  by_cases one : c.toNat ≤ 127
  · have first : (UInt8.ofNat c.toNat).toNat = c.toNat := toNat_ofNat (by omega)
    rw [utf8EncodeChar_of_ascii (by omega), List.singleton_append, decodeReplacing,
      step_one (by omega)]
    dsimp only
    rw [first, char]
  · rw [String.utf8EncodeChar]
    by_cases two : c.toNat ≤ 2047
    · simp only [value, one, two, if_true, if_false, List.cons_append, List.nil_append]
      rw [decodeReplacing_two rest (by omega) (by omega), char]
    · by_cases three : c.toNat ≤ 65535
      · simp only [value, one, two, three, if_true, if_false, List.cons_append, List.nil_append]
        rw [decodeReplacing_three rest (by omega) (by omega) (by omega), char]
      · simp only [value, one, two, three, if_false, List.cons_append, List.nil_append]
        rw [decodeReplacing_four rest (by omega) (by omega), char]

/-- **A text is read back from its bytes.** -/
theorem decodeReplacing_encode (s : List Char) : decodeReplacing (encode s) = s := by
  induction s with
  | nil => rw [encode, List.flatMap_nil, decodeReplacing]
  | cons c s ih =>
    rw [encode, List.flatMap_cons, decodeReplacing_utf8EncodeChar, ← encode, ih]

end EventRoster.Text.Utf8
