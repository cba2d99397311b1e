import EventRoster.Condition.Refused
import EventRoster.Proofs.Condition.Grammar

/-!
# How reading a condition ends

A text that is no condition is refused with an error that carries the text and the place where reading
stopped.  There is one other way to fail, which no caller expects: an integer with more digits than are
read is a fault of values.  `read_eq_longInteger_iff` says in words of the grammar when that happens,
and `settles_iff` that it is the only way in which reading does not end as it should.

Whether such an integer is met depends on what stands before it alone.  A text with a fault further on
does not get as far as being refused for it.
-/

namespace EventRoster.Condition

open EventRoster.Text EventRoster.Failure

/-! ## Where reading stops -/

/-- The reader stops within the text. -/
theorem left_le_of_read {s : List CodePoint} {complaint : Complaint} {left : Nat}
    (h : read s = .error (.misread complaint left)) : left ≤ s.length := by
  have explained := explains_takeCondition s
  rw [read_eq] at h
  match eq : outcome (takeCondition s) with
  | .error e =>
    rw [eq] at h explained
    cases h
    exact explained
  | .ok (c, rest) =>
    rw [eq] at h
    have less := length_lt_of_outcome eq
    have skipped := skipBlank_length_le rest
    change (if skipBlank rest = [] then _ else _) = _ at h
    split at h
    · cases h
    · cases h
      exact Nat.le_trans skipped (Nat.le_of_lt less)

/-- The reader stops at an integer with too many digits exactly if it meets one in a derived row. -/
theorem read_eq_longInteger_iff {s : List CodePoint} {n : Nat} :
    read s = .error (.longInteger n) ↔ ∃ tokens c, Derives tokens c ∧ Meets tokens s (.error n) := by
  rw [read_eq]
  constructor
  · intro h
    have explained := explains_takeCondition s
    match eq : outcome (takeCondition s) with
    | .error e =>
      rw [eq] at h explained
      cases h
      exact explained
    | .ok (c, rest) =>
      rw [eq] at h
      change (if skipBlank rest = [] then _ else _) = _ at h
      split at h <;> cases h
  · rintro ⟨tokens, c, derived, met⟩
    have stops : Ends (.error n) := by
      rintro _ ⟨⟩
    rw [derived.outcome_eq met stops]
    rfl

/-! ## Ends of reading -/

/-- Reading a text ends as it should: with a condition, or with an error of reading conditions that
carries the text and the place in it where reading stopped. -/
def Settles (t : Text) : Prop :=
  (∃ c, reader t = .ok c) ∨
    ∃ (f : Failure) (complaint : Complaint) (position left : Nat), reader t = .error f ∧
      f.error = Raised.parse complaint.message t position ∧
      read t.toList = .error (.misread complaint left) ∧ position + left = t.length

/-- What the reader returns, by what is read of the code points. -/
theorem reader_eq (t : Text) :
    reader t = (read t.toList).mapError fun fault => (fault.refuse t).failure := by
  rw [reader, parse]
  cases read t.toList <;> rfl

/-- Where an integer with too many digits is met, the text fails as a value. -/
theorem reader_eq_longInteger {t : Text} {tokens : List Text} {c : Condition} {n : Nat}
    (derived : Derives tokens c) (met : Meets tokens t.toList (.error n)) :
    reader t = .error (longInteger n) := by
  rw [reader_eq, read_eq_longInteger_iff.2 ⟨tokens, c, derived, met⟩]
  rfl

/-- A text is settled unless it is an integer with too many digits that stops its reader. -/
theorem settles_iff_read {t : Text} : Settles t ↔ ∀ n, read t.toList ≠ .error (.longInteger n) := by
  rw [Settles, reader_eq]
  match eq : read t.toList with
  | .ok c =>
    constructor
    · rintro - n ⟨⟩
    · intro
      exact .inl ⟨c, rfl⟩
  | .error (.misread complaint left) =>
    constructor
    · rintro - n ⟨⟩
    · intro
      have bound := left_le_of_read eq
      refine .inr ⟨_, complaint, t.length - left, left, rfl, ?_, rfl, Nat.sub_add_cancel bound⟩
      exact Misreading.failure_error ⟨t, complaint, t.length - left⟩
  | .error (.longInteger n) =>
    constructor
    · rintro (⟨c, ⟨⟩⟩ | ⟨f, complaint, position, left, -, -, ⟨⟩, -⟩)
    · intro other
      exact absurd rfl (other n)

/-- **Reading ends as it should exactly if it meets no integer with too many digits.**  If the text
goes on as a condition does up to such an integer, the failure is one of values; in every other case
there is a condition, or an error of reading conditions with the text and the place. -/
theorem settles_iff (t : Text) :
    Settles t ↔ ¬∃ tokens c n, Derives tokens c ∧ Meets tokens t.toList (.error n) := by
  rw [settles_iff_read]
  constructor
  · rintro other ⟨tokens, c, n, derived, met⟩
    exact other n (read_eq_longInteger_iff.2 ⟨tokens, c, derived, met⟩)
  · intro none n long
    obtain ⟨tokens, c, derived, met⟩ := read_eq_longInteger_iff.1 long
    exact none ⟨tokens, c, n, derived, met⟩

/-! ## An integer with too many digits -/

/-- Tokens without blanks. -/
theorem spaced_flatMap (tokens : List Text) (rest : List CodePoint) :
    Spaced tokens (tokens.flatMap Text.toList ++ rest) rest := by
  induction tokens with
  | nil => exact .nil
  | cons token tokens ih =>
    have row : Spaced (token :: tokens)
        ([] ++ (token.toList ++ (tokens.flatMap Text.toList ++ rest))) rest :=
      .cons (List.forall_mem_nil _) ih
    rwa [List.nil_append, ← List.append_assoc] at row

/-- A test against the integer of as many ones. -/
def testOfOnes (n : Nat) : Text :=
  .ofList (CodePoint.ofString "intrinsic(\"n\")=" ++ List.replicate n (.char '1'))

/-- A test against an integer with too many digits is read up to that integer. -/
theorem exists_meets_testOfOnes {n : Nat} (hn : Number.digitLimit < n) :
    ∃ tokens c, Derives tokens c ∧ Meets tokens (testOfOnes n).toList (.error n) := by
  have number := Number.isWrittenAs_ones (Nat.lt_of_le_of_lt (Nat.zero_le _) hn)
  have long := Number.isLong_ones hn
  let token : Text := .ofList (List.replicate n (.char '1'))
  have last : Meets [token] token.toList (.error n) := by
    have leads : (Number.ones n).Leads (token.toList ++ []) [] := by
      rw [List.append_nil]
      exact number.leads_nil
    have row : Meets [token] ([] ++ (token.toList ++ [])) (.error _) :=
      .long (List.forall_mem_nil _) number long leads
    rwa [Number.ones, List.length_replicate, List.append_nil] at row
  have named : IsString "\"n\"" "n" :=
    ⟨[.char 'n'], rfl, .plain (by decide) (by decide) (by decide) .nil⟩
  let front : List Text := ["intrinsic", "(", "\"n\"", ")", "="]
  have short : ∀ token ∈ front, ¬IsLong token := by
    have plain : ∀ token ∈ front, beginsNumber token.toList = false := by decide
    exact fun token h => not_isLong (plain token h)
  refine ⟨_, _, .equals named (.number number), ?_⟩
  have chars : (testOfOnes n).toList =
      front.flatMap Text.toList ++ List.replicate n (.char '1') := by
    have flat : CodePoint.ofString "intrinsic(\"n\")=" = front.flatMap Text.toList := by decide
    rw [← flat]
    rfl
  rw [chars]
  exact (spaced_flatMap front _).meets short last

/-- A test against an integer of 4301 digits fails as a value. -/
theorem not_settles_testOfOnes : ¬Settles (testOfOnes 4301) := by
  obtain ⟨tokens, c, met⟩ := exists_meets_testOfOnes (n := 4301) (by decide)
  exact fun settled => settles_iff_read.1 settled 4301 (read_eq_longInteger_iff.2 ⟨tokens, c, met⟩)

end EventRoster.Condition
