import EventRoster.Text.CodePoint

/-!
# Surrogate pairs in texts

A text that is written with escapes and read again comes back joined: every high surrogate directly
before a low one is the character that the two spell.  So a text comes back as it was exactly if it has no
such pair (`joined_eq_self_iff`).

Texts are joined piece by piece unless a pair stands across the seam (`joined_append`).
-/

namespace EventRoster.CodePoint

/-! ## Numbers of code points -/

/-- A code point is found by its number. -/
@[simp] theorem ofNat_toNat (c : CodePoint) : ofNat c.toNat = c := by
  cases c with
  | char c =>
    have valid := toNat_char_lt_or_gt c
    rw [toNat, ofNat, dif_neg (by omega), Char.ofNat_toNat]
  | surrogate n =>
    have less := n.isLt
    have back : 0xd800 + n.val - 0xd800 = n.val := Nat.add_sub_cancel_left ..
    rw [toNat, ofNat, dif_pos (by omega)]
    exact congrArg surrogate (Fin.ext back)

theorem isHigh_iff_toNat {c : CodePoint} : c.isHigh = true ↔ 0xd800 ≤ c.toNat ∧ c.toNat < 0xdc00 := by
  cases c with
  | char c =>
    have valid := toNat_char_lt_or_gt c
    simp only [isHigh, toNat, Bool.false_eq_true, false_iff]
    omega
  | surrogate n =>
    simp only [isHigh, toNat, decide_eq_true_eq, Fin.lt_def]
    omega

theorem isLow_iff_toNat {c : CodePoint} : c.isLow = true ↔ 0xdc00 ≤ c.toNat ∧ c.toNat < 0xe000 := by
  cases c with
  | char c =>
    have valid := toNat_char_lt_or_gt c
    simp only [isLow, toNat, Bool.false_eq_true, false_iff]
    omega
  | surrogate n =>
    have less := n.isLt
    simp only [isLow, toNat, decide_eq_true_eq, Fin.le_def]
    omega

theorem toNat_lt (c : CodePoint) : c.toNat < 0x110000 := by
  cases c with
  | char c =>
    have valid := toNat_char_lt_or_gt c
    rw [toNat]
    omega
  | surrogate n =>
    have less := n.isLt
    rw [toNat]
    omega

/-- Only characters lie beyond the surrogates. -/
theorem exists_eq_char_of_le_toNat {c : CodePoint} (h : 0x10000 ≤ c.toNat) : ∃ d, c = char d := by
  cases c with
  | char d => exact ⟨d, rfl⟩
  | surrogate n =>
    have less := n.isLt
    rw [toNat] at h
    omega

/-- The number of a surrogate is the one that it was made from. -/
theorem toNat_ofNat {n : Nat} (h : 0xd800 ≤ n ∧ n < 0xe000) : (ofNat n).toNat = n := by
  rw [ofNat, dif_pos h]
  show 0xd800 + (n - 0xd800) = n
  omega

/-- The halves of a character beyond U+FFFF are a high surrogate and a low one. -/
theorem isHigh_and_isLow_ofNat {c : Char} (h : 0x10000 ≤ c.toNat) :
    (ofNat (0xd800 + (c.toNat - 0x10000) / 0x400)).isHigh = true ∧
      (ofNat (0xdc00 + (c.toNat - 0x10000) % 0x400)).isLow = true := by
  have valid := toNat_char_lt_or_gt c
  rw [isHigh_iff_toNat, isLow_iff_toNat, toNat_ofNat (by omega), toNat_ofNat (by omega)]
  omega

/-- The number of the character that a pair spells. -/
theorem toNat_pair {high low : CodePoint} (h : high.isHigh = true) (h' : low.isLow = true) :
    (pair high low).toNat = 0x10000 + (high.toNat - 0xd800) * 0x400 + (low.toNat - 0xdc00) := by
  rw [isHigh_iff_toNat] at h
  rw [isLow_iff_toNat] at h'
  have valid : (0x10000 + (high.toNat - 0xd800) * 0x400 + (low.toNat - 0xdc00)).isValidChar :=
    .inr (by omega)
  rw [pair, Char.ofNat, dif_pos valid]
  rfl

/-- The halves of a character beyond U+FFFF spell it. -/
theorem pair_ofNat {c : Char} (h : 0x10000 ≤ c.toNat) :
    pair (ofNat (0xd800 + (c.toNat - 0x10000) / 0x400))
      (ofNat (0xdc00 + (c.toNat - 0x10000) % 0x400)) = c := by
  have valid := toNat_char_lt_or_gt c
  rw [pair, toNat_ofNat (by omega), toNat_ofNat (by omega)]
  have whole : 0x10000 + (0xd800 + (c.toNat - 0x10000) / 0x400 - 0xd800) * 0x400 +
      (0xdc00 + (c.toNat - 0x10000) % 0x400 - 0xdc00) = c.toNat := by
    omega
  rw [whole, Char.ofNat_toNat]

/-! ## Pairs -/

/-- A high surrogate stands directly before a low one. -/
def HasPair (s : List CodePoint) : Prop :=
  ∃ front high low back, s = front ++ high :: low :: back ∧ high.isHigh = true ∧ low.isLow = true

section Pairs

variable {c d : CodePoint} {s t : List CodePoint}

theorem not_hasPair_nil : ¬HasPair [] := by
  rintro ⟨front, high, low, back, eq, -⟩
  exact absurd (congrArg List.length eq) (by simp)

theorem not_hasPair_singleton : ¬HasPair [c] := by
  rintro ⟨front, high, low, back, eq, -⟩
  have length := congrArg List.length eq
  simp only [List.length_append, List.length_cons, List.length_nil] at length
  omega

theorem hasPair_cons_cons :
    HasPair (c :: d :: s) ↔ (c.isHigh = true ∧ d.isLow = true) ∨ HasPair (d :: s) := by
  constructor
  · rintro ⟨front, high, low, back, eq, isHigh, isLow⟩
    cases front with
    | nil =>
      cases eq
      exact .inl ⟨isHigh, isLow⟩
    | cons e front =>
      exact .inr ⟨front, high, low, back, (List.cons.inj eq).2, isHigh, isLow⟩
  · rintro (⟨isHigh, isLow⟩ | ⟨front, high, low, back, eq, isHigh, isLow⟩)
    · exact ⟨[], c, d, s, rfl, isHigh, isLow⟩
    · exact ⟨c :: front, high, low, back, congrArg (c :: ·) eq, isHigh, isLow⟩

theorem length_joined_le (s : List CodePoint) : (joined s).length ≤ s.length := by
  fun_induction joined s with
  | case1 => exact Nat.le_refl _
  | case2 => exact Nat.le_refl _
  | case3 c d rest _ ih => simp only [List.length_cons]; omega
  | case4 c d rest _ ih => simp only [List.length_cons] at ih ⊢; omega

/-- A text with a pair becomes shorter. -/
theorem length_joined_lt (h : HasPair s) : (joined s).length < s.length := by
  fun_induction joined s with
  | case1 => exact (not_hasPair_nil h).elim
  | case2 => exact (not_hasPair_singleton h).elim
  | case3 c d rest =>
    have := length_joined_le rest
    simp only [List.length_cons]
    omega
  | case4 c d rest apart ih =>
    have inner := (hasPair_cons_cons.1 h).resolve_left fun pair => apart (Bool.and_eq_true_iff.2 pair)
    have := ih inner
    simp only [List.length_cons] at this ⊢
    omega

/-- **A text comes back as it was** exactly if no high surrogate stands directly before a low one. -/
theorem joined_eq_self_iff : joined s = s ↔ ¬HasPair s := by
  refine ⟨fun same pair => ?_, fun none => ?_⟩
  · have less := length_joined_lt pair
    rw [same] at less
    exact Nat.lt_irrefl _ less
  · fun_induction joined s with
    | case1 => rfl
    | case2 => rfl
    | case3 c d rest pair => exact (none (hasPair_cons_cons.2 (.inl (Bool.and_eq_true_iff.1 pair)))).elim
    | case4 c d rest _ ih => rw [ih fun pair => none (hasPair_cons_cons.2 (.inr pair))]

example : joined [surrogate 0, surrogate 0, surrogate 0x400, surrogate 0] =
    [surrogate 0, char '𐀀', surrogate 0] := by
  decide

/-! ## Joining piece by piece -/

/-- What does not begin with the second half of a pair is joined by itself. -/
theorem joined_append (h : ∀ c ∈ t.head?, c.isLow = false) :
    joined (s ++ t) = joined s ++ joined t := by
  fun_induction joined s with
  | case1 => rfl
  | case2 c =>
    cases t with
    | nil => rfl
    | cons d t => simp [joined, h d rfl]
  | case3 c d rest pair ih =>
    rw [List.cons_append, List.cons_append, joined, if_pos pair, ih]
    rfl
  | case4 c d rest apart ih =>
    rw [List.cons_append, List.cons_append, joined, if_neg apart]
    exact congrArg (c :: ·) ih

theorem joined_cons_of_isHigh_eq_false (h : c.isHigh = false) : joined (c :: s) = c :: joined s := by
  cases s with
  | nil => rfl
  | cons d s => simp [joined, h]

theorem isHigh_eq_false_of_mem_ofChars (s : List Char) : ∀ c ∈ ofChars s, c.isHigh = false := by
  intro c hc
  obtain ⟨d, -, rfl⟩ := List.mem_map.1 hc
  rfl

/-- What has no first half of a pair is joined by itself, whatever stands behind it. -/
theorem joined_append_of_forall_isHigh_eq_false (h : ∀ c ∈ s, c.isHigh = false) (t : List CodePoint) :
    joined (s ++ t) = s ++ joined t := by
  induction s with
  | nil => rfl
  | cons c s ih =>
    rw [List.cons_append, joined_cons_of_isHigh_eq_false (h c List.mem_cons_self),
      ih fun d hd => h d (List.mem_cons_of_mem c hd)]
    rfl

theorem joined_cons_char (c : Char) (s : List CodePoint) : joined (char c :: s) = char c :: joined s :=
  joined_cons_of_isHigh_eq_false rfl

/-- What stands before a character is joined by itself. -/
theorem joined_append_cons_char (s t : List CodePoint) (c : Char) :
    joined (s ++ char c :: t) = joined s ++ char c :: joined t := by
  have next : ∀ d ∈ (char c :: t).head?, d.isLow = false := by
    rintro d ⟨⟩
    rfl
  rw [joined_append next, joined_cons_char]

theorem joined_ofString_append (word : String) (t : List CodePoint) :
    joined (ofString word ++ t) = ofString word ++ joined t :=
  joined_append_of_forall_isHigh_eq_false (isHigh_eq_false_of_mem_ofChars word.toList) t

@[simp] theorem joined_ofChars (s : List Char) : joined (ofChars s) = ofChars s := by
  have whole := joined_append_of_forall_isHigh_eq_false (isHigh_eq_false_of_mem_ofChars s) []
  rwa [List.append_nil, joined, List.append_nil] at whole

end Pairs

end EventRoster.CodePoint

/-! ## Texts -/

namespace EventRoster.Text

/-- A high surrogate stands directly before a low one in a text. -/
def HasPair (s : Text) : Prop :=
  CodePoint.HasPair s.toList

/-- A text comes back as it was exactly if it has no pair. -/
theorem joined_eq_self_iff {s : Text} : s.joined = s ↔ ¬s.HasPair := by
  rw [HasPair, ← CodePoint.joined_eq_self_iff]
  exact ⟨congrArg toList, toList_injective⟩

instance : DecidablePred HasPair := fun _ =>
  decidable_of_iff _ ((not_congr joined_eq_self_iff).trans Classical.not_not)

end EventRoster.Text
