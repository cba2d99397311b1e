import EventRoster.Json.Text
import EventRoster.Proofs.Text.Front

/-!
# What a JSON string spells

`Spells` says which code points the inside of a string stands for: most stand for themselves, a
backslash and a letter for one character, and the escape of a code unit for the code point of that unit,
be it a surrogate.  Two escapes in a row are one character if they are the halves of a surrogate pair,
and only then: a surrogate that stands for itself is never put together with another.

The reader goes over a string with one code point of foresight more than the string needs: an escape
has to have something behind it.  Inside a string the closing quote is there, so reading and spelling
are the same: `spells_of_takeBody` and `took_takeBody`.
-/

namespace EventRoster.Json.Text

open EventRoster.Text

/-- The escape of a code unit, by four hexadecimal digits of either case. -/
def IsUnit (piece : List CodePoint) (unit : CodePoint) : Prop :=
  ∃ a b c d : Char, piece = CodePoint.ofChars ['\\', 'u', a, b, c, d] ∧
    (ofHex? [a, b, c, d]).map CodePoint.ofNat = some unit

/-- The code points that the inside of a string stands for. -/
inductive Spells : List CodePoint → List CodePoint → Prop
  | nil : Spells [] []
  | plain {c : CodePoint} {s value : List CodePoint} (quote : c ≠ '"') (backslash : c ≠ '\\')
      (control : ¬c.toNat < 0x20) (more : Spells s value) : Spells (c :: s) (c :: value)
  | letter {l c : CodePoint} {s value : List CodePoint} (stands : letterEscape? l = some c)
      (more : Spells s value) : Spells (.char '\\' :: l :: s) (c :: value)
  | unit {piece : List CodePoint} {c : CodePoint} {s value : List CodePoint} (unit : IsUnit piece c)
      (single : c.isHigh = true → ∀ second low, IsUnit second low → second <+: s →
        low.isLow = false)
      (more : Spells s value) : Spells (piece ++ s) (c :: value)
  | pair {first second : List CodePoint} {high low : CodePoint} {s value : List CodePoint}
      (unit : IsUnit first high) (isHigh : high.isHigh = true)
      (unit' : IsUnit second low) (isLow : low.isLow = true)
      (more : Spells s value) : Spells (first ++ (second ++ s)) (.pair high low :: value)

/-! ## Code units -/

theorem takeUnit?_append {a b c d : Char} {unit : CodePoint}
    (h : (ofHex? [a, b, c, d]).map CodePoint.ofNat = some unit) {rest : List CodePoint}
    (some : rest ≠ []) :
    takeUnit? (.char a :: .char b :: .char c :: .char d :: rest) = .some (unit, rest) := by
  obtain ⟨e, rest, rfl⟩ := List.exists_cons_of_ne_nil some
  obtain ⟨n, value, rfl⟩ := Option.map_eq_some_iff.1 h
  rw [takeUnit?, value]
  rfl

theorem eq_of_takeUnit? {s rest : List CodePoint} {unit : CodePoint}
    (h : takeUnit? s = some (unit, rest)) :
    ∃ piece, IsUnit piece unit ∧ .char '\\' :: .char 'u' :: s = piece ++ rest ∧ rest ≠ [] := by
  unfold takeUnit? at h
  split at h
  · next a b c d e rest =>
    obtain ⟨m, value, eq⟩ := Option.map_eq_some_iff.1 h
    cases eq
    exact ⟨_, ⟨a, b, c, d, rfl, by rw [value]; rfl⟩, rfl, List.cons_ne_nil _ _⟩
  · cases h

/-- Behind the first half of a pair, any other escape is looked at, and taken if it is the second. -/
theorem takeLow?_append {piece : List CodePoint} {c : CodePoint} (unit : IsUnit piece c)
    {rest : List CodePoint} (some : rest ≠ []) :
    takeLow? (piece ++ rest) = .ok (if c.isLow then .some (c, rest) else none) := by
  obtain ⟨a, b, d, e, rfl, value⟩ := unit
  have long : ¬(.char a :: .char b :: .char d :: .char e :: rest).length < 5 := by
    have := List.length_pos_iff.2 some
    simp only [List.length_cons]
    omega
  show takeLow? (.char '\\' :: .char 'u' :: (.char a :: .char b :: .char d :: .char e :: rest)) = _
  rw [takeLow?, if_neg long, takeUnit?_append value some]
  by_cases low : c.isLow = true
  · rw [if_pos low]
    exact if_pos low
  · rw [if_neg low]
    exact if_neg low

theorem takeLow?_of_ne {c : CodePoint} (h : c ≠ '\\') (s : List CodePoint) :
    takeLow? (c :: s) = .ok none := by
  rw [takeLow?]
  rintro digits ⟨⟩
  exact h rfl

theorem takeLow?_letter {c : CodePoint} (h : c ≠ 'u') (s : List CodePoint) :
    takeLow? (.char '\\' :: c :: s) = .ok none := by
  rw [takeLow?]
  rintro digits ⟨⟩
  exact h rfl

/-- What was taken for a second half is one. -/
theorem eq_of_takeLow?_eq_some {s rest : List CodePoint} {low : CodePoint}
    (h : takeLow? s = .ok (some (low, rest))) :
    ∃ piece, IsUnit piece low ∧ low.isLow = true ∧ s = piece ++ rest := by
  unfold takeLow? at h
  split at h
  · split at h
    · cases h
    · split at h
      · cases h
      · next m left unit =>
        split at h
        · next low =>
          cases h
          obtain ⟨piece, isUnit, eq, -⟩ := eq_of_takeUnit? unit
          exact ⟨piece, isUnit, low, eq⟩
        · cases h
  · cases h

/-- No letter that stands for a character is the letter of a code unit. -/
theorem ne_of_letterEscape? {l c : CodePoint} (h : letterEscape? l = some c) : l ≠ 'u' := by
  rintro rfl
  cases h

/-! ## Spelled strings are read -/

section Reading

variable {opened : Nat} {c : CodePoint} {rest value left : List CodePoint}

/-- An escape that is read as a code point, before a rest that is read, is read with it. -/
theorem took_takeBody_escape {e : List CodePoint} (escape : Took (takeEscape opened (e ++ rest)) c rest)
    (h : Took (takeBody opened rest) value left) :
    Took (takeBody opened (.char '\\' :: (e ++ rest))) (c :: value) left := by
  obtain ⟨shorter, reads⟩ := escape
  obtain ⟨shorter', reads'⟩ := h
  rw [takeBody, if_neg (by decide), if_pos rfl, reads]
  simp only [reads']
  exact ⟨_, rfl⟩

/-- A letter escape is read as its character. -/
theorem took_takeEscape_letter {l : CodePoint} (h : letterEscape? l = some c) (rest : List CodePoint) :
    Took (takeEscape opened (l :: rest)) c rest := by
  rw [takeEscape, if_neg (ne_of_letterEscape? h), h]
  exact ⟨_, rfl⟩

/-- What is read of the escape of a code unit is read of the escape behind its backslash. -/
theorem took_takeEscape_of_takeUnicode {s : List CodePoint} (h : Took (takeUnicode s) c rest) :
    Took (takeEscape opened (.char 'u' :: s)) c rest := by
  obtain ⟨shorter, reads⟩ := h
  rw [takeEscape, if_pos rfl, reads]
  exact ⟨_, rfl⟩

/-- The escape of a code unit is read by itself, unless it is half of a pair. -/
theorem took_takeEscape_unit {a b d e : Char}
    (value : (ofHex? [a, b, d, e]).map CodePoint.ofNat = some c) (some : rest ≠ [])
    (single : c.isHigh = true → takeLow? rest = .ok none) :
    Took (takeEscape opened (.char 'u' :: .char a :: .char b :: .char d :: .char e :: rest)) c
      rest := by
  have unit := takeUnit?_append value some
  refine took_takeEscape_of_takeUnicode ?_
  unfold takeUnicode
  split
  · next none => rw [none] at unit; cases unit
  · next m left found =>
    rw [found] at unit
    cases unit
    split
    · next high =>
      have alone := single high
      split
      · next error => rw [error] at alone; cases alone
      · next found => rw [found] at alone; cases alone
      · exact ⟨_, rfl⟩
    · exact ⟨_, rfl⟩

/-- The escapes of a pair are read as one character. -/
theorem took_takeEscape_pair {a b d e : Char} {high low : CodePoint} {second : List CodePoint}
    (value : (ofHex? [a, b, d, e]).map CodePoint.ofNat = some high) (isHigh : high.isHigh = true)
    (unit : IsUnit second low) (isLow : low.isLow = true) (some : rest ≠ []) :
    Took (takeEscape opened
        (.char 'u' :: .char a :: .char b :: .char d :: .char e :: (second ++ rest)))
      (.pair high low) rest := by
  have more : second ++ rest ≠ [] := List.append_ne_nil_of_right_ne_nil _ some
  have first := takeUnit?_append value more
  have follows : takeLow? (second ++ rest) = .ok (.some (low, rest)) := by
    rw [takeLow?_append unit some, isLow]
    rfl
  refine took_takeEscape_of_takeUnicode ?_
  unfold takeUnicode
  split
  · next none => rw [none] at first; cases first
  · next m left found =>
    rw [found] at first
    cases first
    rw [if_pos isHigh]
    split
    · next error => rw [error] at follows; cases follows
    · next l left found =>
      rw [found] at follows
      obtain ⟨rfl, rfl⟩ := Prod.mk.inj (Option.some.inj (Except.ok.inj follows))
      exact ⟨_, rfl⟩
    · next none => rw [none] at follows; cases follows

/-- A spelled string that goes on with no second half of a pair is not taken to do so. -/
theorem Spells.takeLow?_eq_none {s : List CodePoint} (h : Spells s value)
    (single : ∀ second low, IsUnit second low → second <+: s → low.isLow = false)
    (rest : List CodePoint) :
    takeLow? (s ++ .char '"' :: rest) = .ok none := by
  have behind : ∀ t : List CodePoint, t ++ .char '"' :: rest ≠ [] := fun t =>
    List.append_ne_nil_of_right_ne_nil _ (List.cons_ne_nil _ _)
  cases h with
  | nil => exact takeLow?_of_ne (by decide) rest
  | plain quote backslash control more => exact takeLow?_of_ne backslash _
  | letter stands more => exact takeLow?_letter (ne_of_letterEscape? stands) _
  | unit unit _ more =>
    rw [List.append_assoc, takeLow?_append unit (behind _), single _ _ unit (List.prefix_append _ _)]
    rfl
  | pair unit isHigh unit' isLow more =>
    rw [List.append_assoc, takeLow?_append unit, single _ _ unit (List.prefix_append _ _)]
    · rfl
    · rw [List.append_assoc]
      exact List.append_ne_nil_of_right_ne_nil _ (behind _)

/-- **A spelled string is read** as the code points that it stands for, whatever follows its quote. -/
theorem took_takeBody {inside : List CodePoint} (h : Spells inside value) (opened : Nat)
    (rest : List CodePoint) : Took (takeBody opened (inside ++ .char '"' :: rest)) value rest := by
  have behind : ∀ t : List CodePoint, t ++ .char '"' :: rest ≠ [] := fun t =>
    List.append_ne_nil_of_right_ne_nil _ (List.cons_ne_nil _ _)
  induction h with
  | nil =>
    show Took (takeBody opened (.char '"' :: rest)) [] rest
    rw [takeBody, if_pos rfl]
    exact ⟨_, rfl⟩
  | plain quote backslash control more ih =>
    obtain ⟨shorter, reads⟩ := ih
    rw [List.cons_append, takeBody, if_neg quote, if_neg backslash, if_neg control, reads]
    exact ⟨_, rfl⟩
  | @letter l c s value stands more ih =>
    exact took_takeBody_escape (e := [l]) (took_takeEscape_letter stands _) ih
  | unit unit single more ih =>
    obtain ⟨a, b, c, d, rfl, value⟩ := unit
    exact took_takeBody_escape (e := ['u', a, b, c, d])
      (took_takeEscape_unit value (behind _) fun high => more.takeLow?_eq_none (single high) rest) ih
  | @pair first second high low s value unit isHigh unit' isLow more ih =>
    obtain ⟨a, b, c, d, rfl, value⟩ := unit
    have whole := took_takeBody_escape (e := .char 'u' :: .char a :: .char b :: .char c :: .char d :: second)
      (took_takeEscape_pair value isHigh unit' isLow (behind s)) ih
    rw [List.append_assoc, List.append_assoc]
    exact whole

end Reading

/-! ## Strings that are read are spelled -/

/-- A code unit that was read stands by itself or begins a pair. -/
theorem eq_of_takeUnicode {c : CodePoint} {s rest : List CodePoint} (h : Took (takeUnicode s) c rest) :
    (∃ piece, IsUnit piece c ∧ .char '\\' :: .char 'u' :: s = piece ++ rest ∧
        (c.isHigh = true → takeLow? rest = .ok none)) ∨
      ∃ first second high low, IsUnit first high ∧ high.isHigh = true ∧
        IsUnit second low ∧ low.isLow = true ∧
        .char '\\' :: .char 'u' :: s = first ++ (second ++ rest) ∧ c = .pair high low := by
  obtain ⟨shorter, h⟩ := h
  unfold takeUnicode at h
  split at h
  · cases h
  · next n left found =>
    obtain ⟨piece, unit, eq, -⟩ := eq_of_takeUnit? found
    split at h
    · next high =>
      split at h
      · cases h
      · next low left' hlow =>
        obtain ⟨value, rfl, -⟩ := Taken.mk.inj (Except.ok.inj h)
        obtain ⟨second, unit', isLow, rfl⟩ := eq_of_takeLow?_eq_some hlow
        exact .inr ⟨piece, second, n, low, unit, high, unit', isLow, eq, value.symm⟩
      · next none =>
        cases h
        exact .inl ⟨piece, unit, eq, fun _ => none⟩
    · next notHigh =>
      cases h
      exact .inl ⟨piece, unit, eq, fun high => absurd high notHigh⟩

/-- An escape that was read is a letter behind the backslash, or one or two code units. -/
theorem eq_of_takeEscape {opened : Nat} {c : CodePoint} {s rest : List CodePoint}
    (h : Took (takeEscape opened s) c rest) :
    (∃ l, letterEscape? l = some c ∧ s = l :: rest) ∨
      (∃ piece, IsUnit piece c ∧ .char '\\' :: s = piece ++ rest ∧
        (c.isHigh = true → takeLow? rest = .ok none)) ∨
      ∃ first second high low, IsUnit first high ∧ high.isHigh = true ∧
        IsUnit second low ∧ low.isLow = true ∧
        .char '\\' :: s = first ++ (second ++ rest) ∧ c = .pair high low := by
  obtain ⟨shorter, h⟩ := h
  unfold takeEscape at h
  split at h
  · cases h
  · next l s =>
    split at h
    · next isUnit =>
      subst isUnit
      split at h
      · cases h
      · next read hread =>
        have pair : read.toPair = (c, rest) := congrArg Taken.toPair (Except.ok.inj h)
        obtain ⟨rfl, rfl⟩ := Prod.mk.inj pair
        exact .inr (eq_of_takeUnicode ⟨read.shorter, hread⟩)
    · split at h
      · next d stands =>
        cases h
        exact .inl ⟨l, stands, rfl⟩
      · cases h

/-- An escape that was read is spelled with what is spelled behind it. -/
theorem exists_spells_of_takeEscape {opened : Nat} {c : CodePoint} {s rest inside value left : List CodePoint}
    (h : Took (takeEscape opened s) c rest) (eq : rest = inside ++ .char '"' :: left)
    (more : Spells inside value) :
    ∃ piece, Spells (piece ++ inside) (c :: value) ∧ .char '\\' :: s = piece ++ rest := by
  rcases eq_of_takeEscape h with ⟨l, stands, rfl⟩ | ⟨piece, unit, front, single⟩ |
    ⟨first, second, high, low, unit, isHigh, unit', isLow, front, same⟩
  · exact ⟨[.char '\\', l], .letter stands more, rfl⟩
  · refine ⟨piece, .unit unit ?_ more, front⟩
    -- A second half at the front of the rest would have been taken too.
    rintro high second low unit' ⟨tail, rfl⟩
    have alone := single high
    rw [eq, List.append_assoc, takeLow?_append unit'
      (List.append_ne_nil_of_right_ne_nil _ (List.cons_ne_nil _ _))] at alone
    refine Bool.eq_false_iff.2 fun isLow => ?_
    rw [if_pos isLow] at alone
    cases alone
  · refine ⟨first ++ second, ?_, front.trans (List.append_assoc ..).symm⟩
    rw [same, List.append_assoc]
    exact .pair unit isHigh unit' isLow more

/-- **A string that was read is spelled** up to its closing quote. -/
theorem spells_of_takeBody {opened : Nat} {s value rest : List CodePoint}
    (h : Took (takeBody opened s) value rest) :
    ∃ inside, Spells inside value ∧ s = inside ++ .char '"' :: rest := by
  obtain ⟨shorter, h⟩ := h
  induction hn : s.length using Nat.strongRecOn generalizing s value rest with | ind n ih
  subst hn
  cases s with
  | nil =>
    rw [takeBody] at h
    cases h
  | cons c s =>
    rw [takeBody] at h
    split at h
    · next quote =>
      cases h
      exact ⟨[], .nil, by rw [quote]; rfl⟩
    · next quote =>
      split at h
      · next backslash =>
        subst backslash
        split at h
        · cases h
        · next escaped hescaped =>
          split at h
          · cases h
          · next body hbody =>
            have less := Nat.lt_succ_of_lt escaped.shorter
            obtain ⟨inside, spells, eq⟩ := ih _ less body.shorter hbody rfl
            cases h
            obtain ⟨piece, spelled, front⟩ :=
              exists_spells_of_takeEscape ⟨escaped.shorter, hescaped⟩ eq spells
            refine ⟨piece ++ inside, spelled, ?_⟩
            rw [List.append_assoc]
            exact front.trans (congrArg (piece ++ ·) eq)
      · next backslash =>
        split at h
        · cases h
        · next control =>
          split at h
          · cases h
          · next body hbody =>
            obtain ⟨inside, spells, eq⟩ := ih _ (Nat.lt_succ_self _) body.shorter hbody rfl
            cases h
            exact ⟨c :: inside, .plain quote backslash control spells, congrArg (c :: ·) eq⟩

/-! ## Faults of strings -/

theorem malformed_of_takeLow? {s : List CodePoint} {e : Fault} (h : takeLow? s = .error e) :
    ∃ problem left, e = .malformed problem left := by
  unfold takeLow? at h
  split at h
  · split at h
    · cases h
    · split at h
      · cases h
        exact ⟨_, _, rfl⟩
      · split at h <;> cases h
  · cases h

theorem malformed_of_takeUnicode {s : List CodePoint} {e : Fault} (h : takeUnicode s = .error e) :
    ∃ problem left, e = .malformed problem left := by
  unfold takeUnicode at h
  split at h
  · cases h
    exact ⟨_, _, rfl⟩
  · split at h
    · split at h
      · next low =>
        cases h
        exact malformed_of_takeLow? low
      · cases h
      · cases h
    · cases h

theorem malformed_of_takeEscape {opened : Nat} {s : List CodePoint} {e : Fault}
    (h : takeEscape opened s = .error e) : ∃ problem left, e = .malformed problem left := by
  unfold takeEscape at h
  split at h
  · cases h
    exact ⟨_, _, rfl⟩
  · split at h
    · split at h
      · next unicode =>
        cases h
        exact malformed_of_takeUnicode unicode
      · cases h
    · split at h
      · cases h
      · cases h
        exact ⟨_, _, rfl⟩

/-- **What is no string is malformed**: no number is read inside a string. -/
theorem malformed_of_takeBody {opened : Nat} {s : List CodePoint} {e : Fault}
    (h : takeBody opened s = .error e) : ∃ problem left, e = .malformed problem left := by
  fun_induction takeBody opened s with
  | case1 => cases h; exact ⟨_, _, rfl⟩
  | case2 => cases h
  | case3 rest e' escaped => cases h; exact malformed_of_takeEscape escaped
  | case4 rest escaped _ e' body _ ih => cases h; exact ih body
  | case5 => cases h
  | case6 => cases h; exact ⟨_, _, rfl⟩
  | case7 c rest _ _ _ e' body ih => cases h; exact ih body
  | case8 => cases h

end EventRoster.Json.Text
