import EventRoster.Proofs.Json.Members
import EventRoster.Proofs.Number.Spelling

/-!
# Integers that stop the reader of JSON

An integer with too many digits is a fault of its own, which hides whatever is wrong further on.  It
is reported only where such an integer stands among the tokens of the text (`longIn_of_readText`): not in
a string, and not as the end of a number that goes on to the left.  The proof goes over the readers with
one statement for each result: what is left stands behind whole tokens, or the integer does.

The integers that are read are therefore short (`Padded.isShort_of_mem`).
-/

namespace EventRoster.Json

open EventRoster.Text

/-! ## Tokens -/

/-- The tokens of a single code point. -/
def marks : List CodePoint :=
  ['[', ']', '{', '}', ':', ',']

/-- What is left of a text behind some of its tokens, blanks counted among them. -/
inductive Leaves : List CodePoint → List CodePoint → Prop
  | all (s : List CodePoint) : Leaves s s
  | blank {c : CodePoint} {s left : List CodePoint} (space : isSpace c = true) (more : Leaves s left) :
    Leaves (c :: s) left
  | mark {c : CodePoint} {s left : List CodePoint} (listed : c ∈ marks) (more : Leaves s left) :
    Leaves (c :: s) left
  | word {word s left : List CodePoint} {v : Json} (listed : (word, v) ∈ words) (more : Leaves s left) :
    Leaves (word ++ s) left
  | string {inside value s left : List CodePoint} (spelled : Text.Spells inside value)
      (more : Leaves s left) : Leaves (.char '"' :: (inside ++ .char '"' :: s)) left
  | number {l : Number.Literal} {s rest left : List CodePoint} (leads : l.Leads s rest)
      (more : Leaves rest left) : Leaves s left

/-- Whether an integer with some number of digits, which are too many, is a token of a text. -/
def LongIn (s : List CodePoint) (n : Nat) : Prop :=
  ∃ (l : Number.Literal) (back rest : List CodePoint), Leaves s back ∧ l.Leads back rest ∧ l.IsLong ∧
    l.whole.length = n

section Tokens

variable {s t u : List CodePoint} {n : Nat}

theorem Leaves.trans (h : Leaves s t) (h' : Leaves t u) : Leaves s u := by
  induction h with
  | all => exact h'
  | blank space _ ih => exact .blank space (ih h')
  | mark listed _ ih => exact .mark listed (ih h')
  | word listed _ ih => exact .word listed (ih h')
  | string spelled _ ih => exact .string spelled (ih h')
  | number leads _ ih => exact .number leads (ih h')

theorem IsBlank.leaves {a : List CodePoint} (h : IsBlank a) (s : List CodePoint) : Leaves (a ++ s) s := by
  induction a with
  | nil => exact .all s
  | cons c a ih =>
    obtain ⟨space, blank⟩ := List.forall_mem_cons.1 h
    exact .blank space (ih blank)

theorem leaves_skipSpace (s : List CodePoint) : Leaves s (skipSpace s) := by
  obtain ⟨a, blank, eq⟩ := exists_isBlank_append_skipSpace s
  rw [eq, skipSpace_append blank (bars_skipSpace s)]
  exact blank.leaves _

/-- A token of what is left is a token of the whole text. -/
theorem LongIn.of_leaves (h : LongIn t n) (leaves : Leaves s t) : LongIn s n := by
  obtain ⟨l, back, rest, left, leads, long⟩ := h
  exact ⟨l, back, rest, leaves.trans left, leads, long⟩

theorem Leaves.length_le (h : Leaves s t) : t.length ≤ s.length := by
  induction h with
  | all => exact Nat.le_refl _
  | blank _ _ ih | mark _ _ ih => exact Nat.le_succ_of_le ih
  | word _ _ ih =>
    rw [List.length_append]
    exact Nat.le_trans ih (Nat.le_add_left _ _)
  | string _ _ ih =>
    simp only [List.length_cons, List.length_append]
    omega
  | number leads _ ih =>
    obtain ⟨text, -, rfl⟩ := leads.written
    rw [List.length_append]
    exact Nat.le_trans ih (Nat.le_add_left _ _)

/-- A text with no more code points than an integer may have digits has no integer with too many. -/
theorem not_longIn_of_length_le (h : s.length ≤ Number.digitLimit) : ¬LongIn s n := by
  rintro ⟨l, back, rest, leaves, leads, ⟨-, long⟩, -⟩
  obtain ⟨text, written, rfl⟩ := leads.written
  have bound := leaves.length_le
  have digits := written.length_whole_le
  rw [List.length_append] at bound
  omega

end Tokens

/-- What a reader leaves stands behind whole tokens, and an integer that stops it is a token. -/
def Within {α : Type} {s : List CodePoint} : Except Fault (Taken α s) → Prop
  | .ok taken => Leaves s taken.rest
  | .error (.longInteger n) => LongIn s n
  | .error (.malformed _ _) => True

section Readers

variable {α : Type} {s : List CodePoint}

theorem Within.leaves {result : Except Fault (Taken α s)} (h : Within result) {taken : Taken α s}
    (eq : result = .ok taken) : Leaves s taken.rest := by
  rw [eq] at h
  exact h

/-- A fault behind the front of a text is one of the whole text. -/
theorem Within.of_error {β : Type} {t : List CodePoint} {result : Except Fault (Taken α s)}
    (h : Within result) {e : Fault} (eq : result = .error e) (leaves : Leaves t s) :
    Within (.error e : Except Fault (Taken β t)) := by
  rw [eq] at h
  cases e with
  | malformed problem left => trivial
  | longInteger n => exact h.of_leaves leaves

/-- A mark that was found behind blanks is a token. -/
theorem leaves_of_nextChar? {next : Taken CodePoint s} (h : nextChar? s = some next)
    (listed : next.value ∈ marks) : Leaves s next.rest := by
  obtain ⟨a, blank, eq⟩ := exists_of_nextChar? h
  have behind := (blank.leaves (next.value :: next.rest)).trans (.mark listed (.all _))
  rwa [← eq] at behind

theorem leaves_of_takeEmpty? {close : CodePoint} (listed : close ∈ marks) {closed : Taken Unit s}
    (h : takeEmpty? close s = some closed) : Leaves s closed.rest := by
  obtain ⟨a, blank, eq⟩ := exists_of_takeEmpty? h
  have behind := (blank.leaves (close :: closed.rest)).trans (.mark listed (.all _))
  rwa [← eq] at behind

theorem within_takeColon (s : List CodePoint) : Within (takeColon s) := by
  unfold takeColon
  split
  · trivial
  · next next peeked =>
    split
    · next colon =>
      have behind := leaves_of_nextChar? peeked (by rw [colon]; decide)
      exact behind.trans (leaves_skipSpace _)
    · trivial

theorem within_takeSeparator {close : CodePoint} (listed : close ∈ marks) (s : List CodePoint) :
    Within (takeSeparator close s) := by
  unfold takeSeparator
  split
  · trivial
  · next next peeked =>
    split
    · next closes => exact leaves_of_nextChar? peeked (by rwa [closes])
    · split
      · next comma =>
        have behind := leaves_of_nextChar? peeked (by rw [comma]; decide)
        exact behind.trans (leaves_skipSpace _)
      · trivial

theorem within_takeString (missing : Problem) (s : List CodePoint) : Within (takeString missing s) := by
  unfold takeString
  split
  · trivial
  · next c rest =>
    split
    · next quote =>
      split
      · next e fault =>
        obtain ⟨problem, left, rfl⟩ := Text.malformed_of_takeBody fault
        trivial
      · next body taken =>
        obtain ⟨inside, spelled, eq⟩ := Text.spells_of_takeBody ⟨body.shorter, taken⟩
        have behind := Leaves.string spelled (.all body.rest)
        rwa [← eq, ← quote] at behind
    · trivial

theorem leaves_of_takeWord? {rest : List CodePoint} {v : Json} (h : takeWord? s = some (v, rest)) :
    Leaves s rest := by
  obtain ⟨⟨word, value⟩, listed, found⟩ := List.exists_of_findSome?_eq_some h
  obtain ⟨left, after, eq⟩ := Option.map_eq_some_iff.1 found
  cases eq
  rw [after?_eq_some_iff] at after
  rw [after]
  exact .word listed (.all _)

theorem within_takeScalar (s : List CodePoint) : Within (takeScalar s) := by
  unfold takeScalar
  split
  · next value rest word => exact leaves_of_takeWord? word
  · split
    · trivial
    · next number taken =>
      have leads := Number.takeNumber?_eq_some_iff.1 ⟨number.shorter, taken⟩
      split
      · next digits error =>
        obtain ⟨long, length⟩ := Number.Literal.isLong_of_value_eq_error error
        exact ⟨number.value, s, number.rest, .all s, leads, long, length⟩
      · exact .number leads (.all _)

mutual

/-- **What reading a value leaves** stands behind whole tokens, and so does what stops it. -/
theorem within_takeValue (s : List CodePoint) : Within (takeValue s) := by
  unfold takeValue
  split
  · trivial
  · next c rest =>
    have inside : (skipSpace rest).length < (c :: rest).length :=
      Nat.lt_succ_of_le (skipSpace_length_le rest)
    have opened : ∀ {d : CodePoint}, d ∈ marks → c = d → Leaves (c :: rest) rest := by
      rintro d listed rfl
      exact .mark listed (.all rest)
    simp only
    split
    · split
      · next fault => exact (within_takeString _ _).of_error fault (.all _)
      · next string taken => exact (within_takeString _ _).leaves taken
    · split
      · next bracket =>
        have front := opened (d := '[') (by decide) bracket
        have behind := front.trans (leaves_skipSpace rest)
        split
        · next closed taken => exact front.trans (leaves_of_takeEmpty? (by decide) taken)
        · split
          · next fault => exact (within_takeItems _).of_error fault behind
          · next items taken => exact behind.trans ((within_takeItems _).leaves taken)
      · split
        · next brace =>
          have front := opened (d := '{') (by decide) brace
          have behind := front.trans (leaves_skipSpace rest)
          split
          · next closed taken => exact front.trans (leaves_of_takeEmpty? (by decide) taken)
          · split
            · next fault => exact (within_takeMembers [] _).of_error fault behind
            · next members taken => exact behind.trans ((within_takeMembers [] _).leaves taken)
        · exact within_takeScalar (c :: rest)
termination_by (s.length, 1)

theorem within_takeItems (s : List CodePoint) : Within (takeItems s) := by
  have separator : ∀ t, Within (takeSeparator ']' t) := within_takeSeparator (by decide)
  unfold takeItems
  split
  · next fault => exact (within_takeValue s).of_error fault (.all s)
  · next item taken =>
    have behind := (within_takeValue s).leaves taken
    split
    · next fault => exact (separator _).of_error fault behind
    · next next separated =>
      have behind' := behind.trans ((separator _).leaves separated)
      have shorter := Nat.lt_trans next.shorter item.shorter
      simp only
      split
      · exact behind'
      · split
        · next fault => exact (within_takeItems _).of_error fault behind'
        · next items taken' =>
          have left := (within_takeItems _).leaves taken'
          exact behind'.trans left
termination_by (s.length, 2)

theorem within_takeMembers (bound : Members) (s : List CodePoint) : Within (takeMembers bound s) := by
  have separator : ∀ t, Within (takeSeparator '}' t) := within_takeSeparator (by decide)
  unfold takeMembers
  split
  · next fault => exact (within_takeString _ s).of_error fault (.all s)
  · next name taken =>
    have behind := (within_takeString _ s).leaves taken
    split
    · next fault => exact (within_takeColon _).of_error fault behind
    · next colon taken' =>
      have behind' := behind.trans ((within_takeColon _).leaves taken')
      have shorter' := Nat.lt_trans colon.shorter name.shorter
      simp only
      split
      · next fault => exact (within_takeValue _).of_error fault behind'
      · next value taken'' =>
        have behind'' := behind'.trans ((within_takeValue _).leaves taken'')
        split
        · next fault => exact (separator _).of_error fault behind''
        · next next separated =>
          have last := behind''.trans ((separator _).leaves separated)
          have shorter := Nat.lt_trans (Nat.lt_trans next.shorter value.shorter) shorter'
          split
          · exact last
          · split
            · next fault => exact (within_takeMembers _ _).of_error fault last
            · next members more => exact last.trans ((within_takeMembers _ _).leaves more)
termination_by (s.length, 2)

end

end Readers

/-! ## Whole texts -/

/-- **The integer that stops the reader of JSON is a token of the text.** -/
theorem longIn_of_readText {s : List CodePoint} {n : Nat} (h : readText s = .error (.longInteger n)) :
    LongIn s n := by
  unfold readText read at h
  split at h
  · cases h
  · split at h
    · next fault =>
      cases h
      have within := within_takeValue (skipSpace s)
      rw [fault] at within
      exact within.of_leaves (leaves_skipSpace s)
    · split at h <;> cases h

/-- A text that is an integer with too many digits stops the reader. -/
theorem readText_of_isLong {l : Number.Literal} {text : List CodePoint} (spelled : l.IsWrittenAs text)
    (long : l.IsLong) : readText text = .error (.longInteger l.whole.length) := by
  obtain ⟨value, word, space⟩ := takeValue_number spelled []
  rw [List.append_nil] at value word space
  obtain ⟨shorter, taken⟩ := Number.takeNumber?_eq_some_iff.2 spelled.leads_nil
  have stops : takeValue (skipSpace text) = .error (.longInteger l.whole.length) := by
    rw [skipSpace_of_bars space, value, takeScalar]
    split
    · next found => rw [word] at found; cases found
    · rw [taken]
      simp only [Number.Literal.value_of_isLong long]
  have mark : ∀ rest, text ≠ .char '\ufeff' :: rest := by
    rintro rest rfl
    obtain ⟨d, s, digit, eq | eq⟩ := spelled.exists_eq_digit
    · cases eq
      cases digit
    · cases eq
  rw [readText]
  · rw [read, stops]
  · exact fun rest eq => mark rest eq

/-! ## Integers that are read -/

/-- If the value is an integer, it has no more digits than a text may have. -/
def IsShort (v : Json) : Prop :=
  ∀ n, v = .int n → (Number.natChars n.natAbs).length ≤ Number.digitLimit

section Read

variable {s : List CodePoint}

theorem Denotes.isShort {v : Json} (h : Denotes s v) : v.IsShort := by
  rintro n rfl
  generalize integer : Json.int n = v at h
  cases h with
  | text | emptyArray | array | emptyObject | object => cases integer
  | word listed =>
    subst integer
    simp [words] at listed
  | @number l value spelling spelled valued =>
    cases value with
    | float x => cases integer
    | int m =>
      cases integer
      exact Number.Literal.length_le_of_value_eq_int spelled.wellFormed valued

theorem Padded.isShort {v : Json} (h : Padded s v) : v.IsShort := by
  obtain ⟨-, value, -⟩ := h
  exact value.isShort

theorem Written.isShort {s : List CodePoint} {ms : Members} (h : Written s ms) :
    ∀ m ∈ ms, m.2.IsShort := by
  cases h with
  | last named value => exact List.forall_mem_singleton.2 value.isShort
  | more named value members => exact List.forall_mem_cons.2 ⟨value.isShort, members.isShort⟩

/-- What holds of all values of an object, and of one that is bound, holds of all values then. -/
theorem forall_mem_bind {p : Json → Prop} {members : Members} (name : Text) {v : Json}
    (h : ∀ m ∈ members, p m.2) (hv : p v) : ∀ m ∈ bind members name v, p m.2 := by
  induction members with
  | nil => exact List.forall_mem_singleton.2 hv
  | cons head rest ih =>
    obtain ⟨first, others⟩ := List.forall_mem_cons.1 h
    rw [bind]
    split
    · exact List.forall_mem_cons.2 ⟨hv, others⟩
    · exact List.forall_mem_cons.2 ⟨first, ih others⟩

theorem forall_mem_merge {p : Json → Prop} {base members : Members} (h : ∀ m ∈ base, p m.2)
    (h' : ∀ m ∈ members, p m.2) : ∀ m ∈ merge base members, p m.2 := by
  induction members generalizing base with
  | nil => exact h
  | cons head rest ih =>
    obtain ⟨first, others⟩ := List.forall_mem_cons.1 h'
    exact ih (forall_mem_bind head.1 h first) others

/-- **Every integer in an object that was read is short.** -/
theorem Padded.isShort_of_mem {bound : Members} (h : Padded s (.object bound)) :
    ∀ m ∈ bound, m.2.IsShort := by
  obtain ⟨members, object, rfl⟩ := padded_object_iff.1 h
  refine forall_mem_merge (List.forall_mem_nil _) ?_
  cases object with
  | empty => exact List.forall_mem_nil _
  | some leading written trailing => exact written.isShort

end Read

end EventRoster.Json
