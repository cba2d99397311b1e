import EventRoster.Proofs.Condition.Image
import EventRoster.Proofs.Record.RoundTrip

/-!
# Which conditions survive being stored

A condition that was read is stored as its text, and every later read of the record reads that text
again.  This goes well unless a number in the condition overflows.  The literal `1e+999` is accepted
and stands for infinity; infinity is written as a word that JSON readers know and the reader of
conditions does not.  What is read is the joined condition, so it is the same one if there is no surrogate
pair in its text.

* `survives_iff_forall_not_overflows`: the exact condition, for the text and for the record.
* `parse_overflowingText`: a text that is accepted, but does not survive.
-/

namespace EventRoster.Record

open EventRoster.Condition

/-- The record of a condition that was read can be written. -/
theorem encode_of_isLiteral {s : Subscription} (h : ∀ v ∈ s.condition.values, IsLiteral v)
    (hint : digitCount s.expiresAt ≤ Number.digitLimit) : encode s = .ok (text s) :=
  encode_of_writable (writable_of_isLiteral h) hint

/-- It is decoded exactly if no number in the condition overflows, and then as the joined subscription. -/
theorem decode_text_eq_ok_iff_of_isLiteral {s r : Subscription} {n : Int}
    (literals : ∀ v ∈ s.condition.values, IsLiteral v)
    (hint : digitCount s.expiresAt ≤ Number.digitLimit)
    (whole : s.eventTtl.micros = n * Time.microsPerSecond) :
    decode reader s.name (.text (text s)) = .ok r ↔
      (∀ v ∈ s.condition.values, v.overflows = false) ∧ r = s.joined := by
  rw [decode_text_eq_ok_iff hint whole, forall_readable_iff literals]

/-! ## Overflow -/

/-- The literal `1e+999`. -/
def tooLarge : Number.Literal :=
  ⟨false, ['1'], [], some (false, ['9', '9', '9'])⟩

theorem wellFormed_tooLarge : tooLarge.WellFormed where
  whole := ⟨List.forall_mem_singleton.2 (by decide), .inr ⟨'1', [], rfl, by decide⟩⟩
  fraction := by
    intro c hc
    cases hc
  power := by
    rintro negative digits ⟨⟩
    exact ⟨List.cons_ne_nil _ _, List.all_eq_true.1 (by decide)⟩

/-- The condition that tests an intrinsic for infinity. -/
def overflowing : Condition :=
  .intrinsic "n" (.float (.infinite false)) []

/-- A text that spells it. -/
def overflowingText : Text :=
  "intrinsic(\"n\")=1e+999"

/-- A number literal of any size is accepted. -/
theorem parse_overflowingText : parse overflowingText = .ok overflowing := by
  have spelled := Number.Literal.isSpelledBy_chars wellFormed_tooLarge
  have literal : Text.Settled (takeLiteral (CodePoint.ofChars tooLarge.chars ++ [])) true
      (.float (.infinite false)) [] :=
    settled_takeLiteral_literal spelled.isWrittenAs Text.bars_nil ⟨.float (.infinite false), rfl, rfl⟩
  have chars : overflowingText.toList = CodePoint.ofString "intrinsic" ++ .char '(' ::
      (nameChars "n" ++ .char ')' :: .char '=' :: (CodePoint.ofChars tooLarge.chars ++ [])) := by
    decide
  obtain ⟨shorter, reads⟩ := settled_takeCondition_intrinsic (settled_takeIntrinsic_one "n" literal)
  rw [parse, chars, Condition.read, reads]
  rfl

/-! ## Survival -/

/-- **A condition that was read survives exactly if no number in it overflows.**  Its text is then
accepted once more and read as an equal condition, and the record of any subscription with that condition
can be decoded.  Otherwise neither can be read, although the record can always be written.  The condition
in the record is an equal one if no surrogate pair stands in the text besides. -/
theorem survives_iff_forall_not_overflows {t : Text} {c : Condition} (h : parse t = .ok c) :
    ((∃ d, parse c.text = .ok d ∧ (d == c) = true) ↔ ∀ v ∈ c.values, v.overflows = false) ∧
      ∀ (s : Subscription) (n : Int), s.condition = c →
        digitCount s.expiresAt ≤ Number.digitLimit → s.eventTtl.micros = n * Time.microsPerSecond →
        ∃ payload, encode s = .ok payload ∧
          ((∃ r, decode reader s.name (.text payload) = .ok r) ↔ ∀ v ∈ c.values, v.overflows = false) ∧
          ((∃ r, decode reader s.name (.text payload) = .ok r ∧ (r.condition == c) = true) ↔
            (∀ v ∈ c.values, v.overflows = false) ∧ ¬c.text.HasPair) := by
  have literals := isLiteral_of_parse h
  refine ⟨exists_parse_text_iff literals, ?_⟩
  rintro s n rfl hint whole
  refine ⟨text s, encode_of_isLiteral literals hint, ?_, ?_⟩
  · simp only [decode_text_eq_ok_iff_of_isLiteral literals hint whole, exists_and_left, exists_eq, and_true]
  · have same : (s.joined.condition == s.condition) = true ↔ ¬s.condition.text.HasPair :=
      beq_iff_eq.trans joined_eq_self_iff
    simp only [decode_text_eq_ok_iff_of_isLiteral literals hint whole, and_assoc, exists_and_left,
      exists_eq_left, same]

/-- The condition for survival at the text `intrinsic("n")=1e+999`, where it fails. -/
theorem survives_iff_overflowingText :
    parse overflowingText = .ok overflowing ∧
      ((∃ d, parse overflowing.text = .ok d ∧ (d == overflowing) = true) ↔
        ∀ v ∈ overflowing.values, v.overflows = false) ∧
      ∀ (s : Subscription) (n : Int), s.condition = overflowing →
        digitCount s.expiresAt ≤ Number.digitLimit → s.eventTtl.micros = n * Time.microsPerSecond →
        ∃ payload, encode s = .ok payload ∧
          ((∃ r, decode reader s.name (.text payload) = .ok r) ↔
            ∀ v ∈ overflowing.values, v.overflows = false) ∧
          ((∃ r, decode reader s.name (.text payload) = .ok r ∧
              (r.condition == overflowing) = true) ↔
            (∀ v ∈ overflowing.values, v.overflows = false) ∧ ¬overflowing.text.HasPair) :=
  ⟨parse_overflowingText, survives_iff_forall_not_overflows parse_overflowingText⟩

/-- **Not every accepted condition survives.**  The text `intrinsic("n")=1e+999` is accepted, and what
is written for its condition is not. -/
theorem not_survives_overflowingText :
    ∃ c, parse overflowingText = .ok c ∧ ¬∃ d, parse c.text = .ok d ∧ (d == c) = true := by
  refine ⟨overflowing, parse_overflowingText, ?_⟩
  rw [exists_parse_text_iff (isLiteral_of_parse parse_overflowingText)]
  intro finite
  cases finite _ List.mem_cons_self

end EventRoster.Record
