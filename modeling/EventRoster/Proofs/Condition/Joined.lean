import EventRoster.Proofs.Condition.Equality
import EventRoster.Proofs.Json.Strings

/-!
# Joined conditions

The text of a condition that is stored comes back joined: where a surrogate pair stands in one of its
strings, there is now the character that the pair spells.  Nothing else is changed, because every string
ends in a quote and all between two strings are characters.  So what comes back is the text of another
condition, the one whose strings are joined, and it can be read exactly if the first one can be.

* `text_joined`: the joined text is the text of the joined condition.
* `joined_eq_self_iff`: which conditions come back as they were.
* `reader_joined_text`: what is read from the joined text.
-/

namespace EventRoster

open EventRoster.CodePoint (joined_append joined_append_cons_char joined_cons_char joined_ofChars
  joined_ofString_append)

/-! ## Scalars -/

namespace Scalar

/-- A scalar whose text is joined. -/
def joined : Scalar → Scalar
  | text s => text s.joined
  | v => v

theorem chars_joined (v : Scalar) : v.joined.chars = CodePoint.joined v.chars := by
  cases v with
  | text s => exact Json.Text.literal_unicode_joined s.toList
  | null => exact (joined_ofChars _).symm
  | bool b => cases b <;> exact (joined_ofChars _).symm
  | int n => exact (joined_ofChars _).symm
  | float x => exact (joined_ofChars _).symm

theorem readable_joined (v : Scalar) : v.joined.readable = v.readable := by
  cases v with
  | text s => rfl
  | null | bool | int | float => rfl

end Scalar

/-! ## Conditions -/

namespace Condition

mutual

/-- A condition whose strings are joined. -/
def joined : Condition → Condition
  | constant value => constant value
  | not inner => not (joined inner)
  | all parts => all (joinedList parts)
  | any parts => any (joinedList parts)
  | intrinsic name first others => intrinsic name.joined first.joined (others.map Scalar.joined)

/-- Conditions whose strings are joined. -/
def joinedList : List Condition → List Condition
  | [] => []
  | part :: parts => joined part :: joinedList parts

end

/-- Nothing but a comma or the closing parenthesis stands behind a value. -/
theorem isLow_eq_false_of_mem_head?_othersChars (others : List Scalar) :
    ∀ c ∈ (othersChars others ++ [CodePoint.char ')']).head?, c.isLow = false := by
  cases others with
  | nil =>
    rintro c ⟨⟩
    rfl
  | cons v others =>
    rintro c ⟨⟩
    rfl

/-- Further values are joined one by one. -/
theorem othersChars_joined (others : List Scalar) :
    othersChars (others.map Scalar.joined) ++ [.char ')'] =
      CodePoint.joined (othersChars others ++ [.char ')']) := by
  induction others with
  | nil => rfl
  | cons v others ih =>
    rw [List.map_cons, othersChars_cons_append, othersChars_cons_append, joined_cons_char,
      joined_append (isLow_eq_false_of_mem_head?_othersChars others), ← ih, v.chars_joined]

theorem intrinsicChars_joined (name : Text) (first : Scalar) (others : List Scalar) :
    intrinsicChars name.joined first.joined (others.map Scalar.joined) =
      CodePoint.joined (intrinsicChars name first others) := by
  have quoted : nameChars name.joined = CodePoint.joined (nameChars name) :=
    Json.Text.literal_unicode_joined name.toList
  rw [← List.append_nil (intrinsicChars name.joined _ _), ← List.append_nil (intrinsicChars name first _)]
  cases others with
  | nil =>
    rw [List.map_nil, intrinsicChars_one, intrinsicChars_one, joined_ofString_append, joined_cons_char,
      joined_append_cons_char, joined_cons_char, List.append_nil, List.append_nil, quoted,
      first.chars_joined]
  | cons second others =>
    have rest := othersChars_joined (second :: others)
    rw [List.map_cons] at rest ⊢
    rw [intrinsicChars_several, intrinsicChars_several, joined_ofString_append, joined_cons_char,
      joined_append_cons_char, joined_append (isLow_eq_false_of_mem_head?_othersChars _), rest, quoted,
      first.chars_joined]

/-- What stands between a word and a parenthesis is joined by itself. -/
theorem enclosed_joined (opened : String) (inside : List CodePoint) :
    CodePoint.joined (CodePoint.ofString opened ++ inside ++ [.char ')']) =
      CodePoint.ofString opened ++ CodePoint.joined inside ++ [.char ')'] := by
  rw [joined_append_cons_char, joined_ofString_append]
  rfl

/-- Nothing but a comma stands behind a part. -/
theorem isLow_eq_false_of_mem_head?_restChars (parts : List Condition) :
    ∀ c ∈ (restChars parts).head?, c.isLow = false := by
  cases parts with
  | nil => rintro c ⟨⟩
  | cons part parts =>
    rintro c ⟨⟩
    rfl

mutual

/-- **A joined condition in writing** is the condition in writing, joined. -/
theorem chars_joined (c : Condition) : c.joined.chars = CodePoint.joined c.chars := by
  match c with
  | constant value => cases value <;> exact (joined_ofChars _).symm
  | not inner => rw [joined, chars, chars, chars_joined inner, enclosed_joined]
  | all parts => rw [joined, chars, chars, listChars_joined parts, enclosed_joined]
  | any parts => rw [joined, chars, chars, listChars_joined parts, enclosed_joined]
  | intrinsic name first others => exact intrinsicChars_joined name first others

theorem listChars_joined (parts : List Condition) :
    listChars (joinedList parts) = CodePoint.joined (listChars parts) := by
  match parts with
  | [] => rfl
  | part :: parts =>
    rw [joinedList, listChars, listChars, chars_joined part, restChars_joined parts,
      joined_append (isLow_eq_false_of_mem_head?_restChars parts)]

theorem restChars_joined (parts : List Condition) :
    restChars (joinedList parts) = CodePoint.joined (restChars parts) := by
  match parts with
  | [] => rfl
  | part :: parts =>
    rw [joinedList, restChars, restChars, chars_joined part, restChars_joined parts,
      joined_cons_char, joined_append (isLow_eq_false_of_mem_head?_restChars parts)]

end

/-! ## Texts -/

/-- **The joined text of a condition** is the text of the joined condition. -/
theorem text_joined (c : Condition) : c.joined.text = c.text.joined :=
  congrArg Text.ofList c.chars_joined

/-- **A condition comes back as it was** exactly if there is no pair in its text. -/
theorem joined_eq_self_iff {c : Condition} : c.joined = c ↔ ¬c.text.HasPair := by
  rw [← Text.joined_eq_self_iff, ← text_joined, text_injective.eq_iff]

/-! ## Values -/

mutual

theorem values_joined (c : Condition) : c.joined.values = c.values.map Scalar.joined := by
  match c with
  | constant value => rfl
  | not inner => exact values_joined inner
  | all parts => exact listValues_joined parts
  | any parts => exact listValues_joined parts
  | intrinsic name first others => rfl

theorem listValues_joined (parts : List Condition) :
    listValues (joinedList parts) = (listValues parts).map Scalar.joined := by
  match parts with
  | [] => rfl
  | part :: parts =>
    rw [joinedList, listValues, listValues, values_joined part, listValues_joined parts, List.map_append]

end

/-- The values of the joined condition can be read back exactly if those of the condition can be. -/
theorem forall_readable_joined_iff {c : Condition} :
    (∀ v ∈ c.joined.values, v.readable = true) ↔ ∀ v ∈ c.values, v.readable = true := by
  rw [values_joined, List.forall_mem_map]
  simp only [Scalar.readable_joined]

/-- **The joined text of a condition** is read as the joined condition, if its values can be read back. -/
theorem reader_joined_text {c : Condition} (h : ∀ v ∈ c.values, v.readable = true) :
    reader c.text.joined = .ok c.joined := by
  rw [← text_joined, reader, parse_text_eq_ok (forall_readable_joined_iff.2 h)]
  rfl

/-- Otherwise it is not read at all. -/
theorem exists_reader_joined_text_eq_error {c : Condition} {v : Scalar} (hv : v ∈ c.values)
    (h : v.readable = false) : ∃ failure, reader c.text.joined = .error failure := by
  have joined : v.joined ∈ c.joined.values := by
    rw [values_joined]
    exact List.mem_map_of_mem hv
  obtain ⟨refusal, fails⟩ := exists_parse_text_eq_error joined (v.readable_joined.trans h)
  rw [← text_joined, reader, fails]
  exact ⟨_, rfl⟩

end Condition

end EventRoster
