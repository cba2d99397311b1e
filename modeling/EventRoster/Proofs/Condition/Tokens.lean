import EventRoster.Proofs.Condition.Literals
import Mathlib.Data.List.DropRight

/-!
# The tokens of conditions

A condition is spelled by tokens with blanks before each of them: words, marks, strings and numbers.
A token is a text, and a row of tokens is laid out in code points by `Spaced`.

A reader of conditions does not always get to the end of a row.  An integer with too many digits stops
it, and nothing behind that integer is looked at.  `Meets` is the layout as far as a reader can see it,
and it comes with what the reader is to find: the rest of the text, or the number of the digits.  Every
reader is then described by two facts about the rows of its tokens.

* `Explains`: whatever the reader returns, some row of tokens asks for it, unless it complains about a
  place within its text.
* `answer`: for every row of its tokens, the reader returns what the row asks for.

Both are put together from those of the parts of a reader, by `Explains.bind` and `bind_eq_answer`.
-/

namespace EventRoster.Condition

open EventRoster.Text

/-! ## Literals and names -/

/-- A token that is a string. -/
def IsString (token name : Text) : Prop :=
  ∃ inside, token.toList = .char '"' :: (inside ++ [.char '"']) ∧ Json.Text.Spells inside name.toList

/-- The scalar that a token denotes. -/
inductive Denotes : Text → Scalar → Prop
  | nullWord : Denotes "null" .null
  | falseWord : Denotes "false" (.bool false)
  | trueWord : Denotes "true" (.bool true)
  | number {token : Text} {l : Number.Literal} (spelled : l.IsWrittenAs token.toList) :
    Denotes token (ofNumber l.number)
  | text {token name : Text} (string : IsString token name) : Denotes token (.text name)

/-- Whether a token is an integer with too many digits. -/
def IsLong (token : Text) : Prop :=
  ∃ l : Number.Literal, l.IsWrittenAs token.toList ∧ l.IsLong

/-- Whether some code points begin like a number. -/
def beginsNumber (s : List CodePoint) : Bool :=
  s.head?.any (·.is fun c => c.isDigit || c == '-')

/-- What begins like no number is no integer with too many digits. -/
theorem not_isLong {token : Text} (h : beginsNumber token.toList = false) : ¬IsLong token := by
  rintro ⟨l, spelled, -⟩
  obtain ⟨d, s, digit, eq | eq⟩ := spelled.exists_eq_digit
  · rw [eq, beginsNumber] at h
    simp [CodePoint.is, digit] at h
  · rw [eq] at h
    cases h

theorem IsString.not_isLong {token name : Text} (h : IsString token name) : ¬IsLong token := by
  obtain ⟨inside, eq, -⟩ := h
  refine Condition.not_isLong ?_
  rw [eq]
  rfl

/-! ## Rows of tokens -/

/-- A text consists of some tokens, with blanks before each of them, and a rest. -/
inductive Spaced : List Text → List CodePoint → List CodePoint → Prop
  | nil {rest : List CodePoint} : Spaced [] rest rest
  | cons {blanks s rest : List CodePoint} {token : Text} {tokens : List Text}
      (blank : ∀ c ∈ blanks, isBlank c = true) (more : Spaced tokens s rest) :
    Spaced (token :: tokens) (blanks ++ (token.toList ++ s)) rest

/-- A text begins with some tokens, with blanks before each of them, up to the first of them that is
an integer with too many digits.  What is found is the rest behind the tokens, or the number of those
digits. -/
inductive Meets : List Text → List CodePoint → Except Nat (List CodePoint) → Prop
  | nil {rest : List CodePoint} : Meets [] rest (.ok rest)
  | cons {blanks s : List CodePoint} {token : Text} {tokens : List Text}
      {found : Except Nat (List CodePoint)} (blank : ∀ c ∈ blanks, isBlank c = true)
      (short : ¬IsLong token) (more : Meets tokens s found) :
    Meets (token :: tokens) (blanks ++ (token.toList ++ s)) found
  | long {blanks rest : List CodePoint} {token : Text} {tokens : List Text} {l : Number.Literal}
      (blank : ∀ c ∈ blanks, isBlank c = true) (spelled : l.IsWrittenAs token.toList)
      (long : l.IsLong) (leads : l.Leads (token.toList ++ rest) rest) :
    Meets (token :: tokens) (blanks ++ (token.toList ++ rest)) (.error l.whole.length)

section Rows

variable {tokens more : List Text} {token : Text} {s u rest : List CodePoint}
  {found : Except Nat (List CodePoint)} {n : Nat}

theorem Spaced.length_le (h : Spaced tokens s rest) : rest.length ≤ s.length := by
  induction h with
  | nil => exact Nat.le_refl _
  | cons blank more ih =>
    simp only [List.length_append]
    omega

theorem Spaced.append (h : Spaced tokens s u) (h' : Spaced more u rest) :
    Spaced (tokens ++ more) s rest := by
  induction h with
  | nil => exact h'
  | cons blank _ ih => exact .cons blank (ih h')

/-- Without an integer with too many digits, a row is met as it is laid out. -/
theorem Spaced.meets (h : Spaced tokens s u) (short : ∀ token ∈ tokens, ¬IsLong token)
    (h' : Meets more u found) : Meets (tokens ++ more) s found := by
  induction h with
  | nil => exact h'
  | cons blank _ ih =>
    obtain ⟨first, others⟩ := List.forall_mem_cons.1 short
    exact .cons blank first (ih others h')

theorem meets_ok_iff :
    Meets tokens s (.ok rest) ↔ Spaced tokens s rest ∧ ∀ token ∈ tokens, ¬IsLong token := by
  constructor
  · intro h
    generalize eq : Except.ok rest = found at h
    induction h with
    | nil =>
      cases eq
      exact ⟨.nil, List.forall_mem_nil _⟩
    | cons blank short _ ih =>
      obtain ⟨spaced, others⟩ := ih eq
      exact ⟨.cons blank spaced, List.forall_mem_cons.2 ⟨short, others⟩⟩
    | long => cases eq
  · rintro ⟨spaced, short⟩
    have h := spaced.meets short .nil
    rwa [List.append_nil] at h

/-- A row that is met without end begins with one that is met to its end. -/
theorem Meets.append_error (h : Meets tokens s (.error n)) (more : List Text) :
    Meets (tokens ++ more) s (.error n) := by
  generalize eq : Except.error n = found at h
  induction h with
  | nil => cases eq
  | cons blank short _ ih => exact .cons blank short (ih eq)
  | long blank spelled long leads => exact .long blank spelled long leads

/-- Two rows in a row are met one after the other, if the first is met to its end. -/
theorem Meets.of_append (h : Meets (tokens ++ more) s found) :
    (∃ u, Meets tokens s (.ok u) ∧ Meets more u found) ∨
      ∃ n, found = .error n ∧ Meets tokens s (.error n) := by
  induction tokens generalizing s with
  | nil => exact .inl ⟨s, .nil, h⟩
  | cons token tokens ih =>
    cases h with
    | cons blank short rest =>
      rcases ih rest with ⟨u, first, second⟩ | ⟨n, rfl, first⟩
      · exact .inl ⟨u, .cons blank short first, second⟩
      · exact .inr ⟨n, rfl, .cons blank short first⟩
    | long blank spelled long leads => exact .inr ⟨_, rfl, .long blank spelled long leads⟩

/-! ## One token -/

theorem skipBlank_append {blanks : List CodePoint} (blank : ∀ c ∈ blanks, isBlank c = true) :
    skipBlank (blanks ++ s) = skipBlank s :=
  List.dropWhile_append_of_pos blank

theorem exists_eq_append_skipBlank (s : List CodePoint) :
    ∃ blanks, (∀ c ∈ blanks, isBlank c = true) ∧ s = blanks ++ skipBlank s :=
  ⟨s.takeWhile isBlank, fun c hc => List.all_eq_true.1 List.all_takeWhile c hc,
    List.takeWhile_append_dropWhile.symm⟩

theorem skipBlank_skipBlank (s : List CodePoint) : skipBlank (skipBlank s) = skipBlank s :=
  List.dropWhile_idempotent _ s

/-- A token that is found behind the blanks is laid out there. -/
theorem spaced_of_skipBlank (h : skipBlank s = token.toList ++ u) : Spaced [token] s u := by
  obtain ⟨blanks, blank, eq⟩ := exists_eq_append_skipBlank s
  rw [eq, h]
  exact .cons blank .nil

theorem Meets.of_skipBlank (h : skipBlank s = token.toList ++ u) (short : ¬IsLong token)
    (more : Meets tokens u found) : Meets (token :: tokens) s found := by
  obtain ⟨blanks, blank, eq⟩ := exists_eq_append_skipBlank s
  rw [eq, h]
  exact .cons blank short more

theorem Meets.of_skipBlank_long {l : Number.Literal} (h : skipBlank s = token.toList ++ u)
    (spelled : l.IsWrittenAs token.toList) (long : l.IsLong)
    (leads : l.Leads (token.toList ++ u) u) :
    Meets (token :: tokens) s (.error l.whole.length) := by
  obtain ⟨blanks, blank, eq⟩ := exists_eq_append_skipBlank s
  rw [eq, h]
  exact .long blank spelled long leads

/-- A token that begins with no blank is found behind the blanks. -/
theorem Meets.skipBlank_eq (h : Meets (token :: tokens) s found)
    (visible : Bars isBlank token.toList) (nonempty : token.toList ≠ []) (short : ¬IsLong token) :
    ∃ u, skipBlank s = token.toList ++ u ∧ Meets tokens u found := by
  cases h with
  | @cons blanks u token tokens found blank _ more =>
    refine ⟨u, ?_, more⟩
    obtain ⟨c, cs, eq⟩ := List.exists_cons_of_ne_nil nonempty
    rw [eq] at visible ⊢
    rw [skipBlank_append blank, List.cons_append, skipBlank_cons (bars_cons.1 visible)]
  | long blank spelled long leads => exact absurd ⟨_, spelled, long⟩ short

/-- The marks between words and literals. -/
def IsMark (c : Char) : Prop :=
  c ∈ ['(', ')', ',', ':', '=']

instance : DecidablePred IsMark := fun c =>
  inferInstanceAs (Decidable (c ∈ ['(', ')', ',', ':', '=']))

theorem IsMark.plain {c : Char} (h : IsMark c) :
    isBlank c = false ∧ continues c = false ∧ ¬IsLong (Text.singleton c) := by
  have all : ['(', ')', ',', ':', '='].all (fun d : Char =>
      !isBlank d && !continues d && !beginsNumber [.char d]) = true := by decide
  have plain := List.all_eq_true.1 all c h
  simp only [Bool.and_eq_true, Bool.not_eq_true'] at plain
  obtain ⟨⟨visible, ends⟩, number⟩ := plain
  exact ⟨visible, ends, not_isLong (by rwa [Text.toList_singleton])⟩

/-- A row that begins with a mark is met behind that mark. -/
theorem Meets.mark {c : Char} (isMark : IsMark c) (h : Meets (Text.singleton c :: tokens) s found) :
    ∃ u, skipBlank s = .char c :: u ∧ Meets tokens u found := by
  obtain ⟨visible, -, short⟩ := isMark.plain
  have eq := h.skipBlank_eq (by rw [Text.toList_singleton]; exact bars_cons.2 visible)
    (by rw [Text.toList_singleton]; exact List.cons_ne_nil _ _) short
  rwa [Text.toList_singleton] at eq

theorem meets_mark {c : Char} (isMark : IsMark c) (h : skipBlank s = .char c :: u)
    (more : Meets tokens u found) : Meets (Text.singleton c :: tokens) s found := by
  refine .of_skipBlank ?_ isMark.plain.2.2 more
  rwa [Text.toList_singleton]

/-- No blank could belong to a literal before it. -/
theorem continues_of_isBlank {c : CodePoint} (h : isBlank c = true) : continues c = false := by
  refine Bool.eq_false_iff.2 fun cont => ?_
  have visible : isBlank c = false := by
    cases c with
    | char c =>
      simp only [continues, CodePoint.is, Number.goesOn, Bool.or_eq_true, beq_iff_eq] at cont
      rcases cont with (((digit | rfl) | rfl) | rfl) | letter
      · exact isBlank_of_isDigit digit
      · decide
      · decide
      · decide
      · exact isBlank_of_isLetter letter
    | surrogate n => rfl
  rw [visible] at h
  cases h

/-- Blanks and what ends a literal end a literal. -/
theorem bars_continues_append {blanks : List CodePoint} (blank : ∀ c ∈ blanks, isBlank c = true)
    (h : Bars continues s) : Bars continues (blanks ++ s) := by
  cases blanks with
  | nil => exact h
  | cons c blanks => exact bars_cons.2 (continues_of_isBlank (blank c List.mem_cons_self))

/-- A mark ends the literal before it, with blanks between them or not. -/
theorem Meets.bars {c : Char} (isMark : IsMark c)
    (h : Meets (Text.singleton c :: tokens) s found) : Bars continues s := by
  obtain ⟨u, eq, -⟩ := h.mark isMark
  obtain ⟨blanks, blank, split⟩ := exists_eq_append_skipBlank s
  rw [split, eq]
  exact bars_continues_append blank (bars_cons.2 isMark.plain.2.1)

end Rows

/-! ## What a reader returns -/

section Outcomes

variable {α β : Type} {s : List CodePoint}

/-- What a reading step returns: a value with the rest of the text, or a fault. -/
def outcome (step : Step α s) : Except Fault (α × List CodePoint) :=
  step.map Taken.toPair

theorem outcome_eq_ok_iff {step : Step α s} {a : α} {rest : List CodePoint} :
    outcome step = .ok (a, rest) ↔ Took step a rest := by
  cases step with
  | error e =>
    constructor
    · intro h
      cases h
    · rintro ⟨shorter, h⟩
      cases h
  | ok taken =>
    constructor
    · intro h
      cases h
      exact ⟨taken.shorter, rfl⟩
    · rintro ⟨shorter, h⟩
      cases h
      rfl

/-- A step that returns a value has gone on in the text. -/
theorem length_lt_of_outcome {step : Step α s} {a : α} {rest : List CodePoint}
    (h : outcome step = .ok (a, rest)) : rest.length < s.length := by
  obtain ⟨shorter, -⟩ := outcome_eq_ok_iff.1 h
  exact shorter

/-- What a reader of a value is to return, by what its row of tokens finds. -/
def answer (a : α) : Except Nat (List CodePoint) → Except Fault (α × List CodePoint)
  | .ok rest => .ok (a, rest)
  | .error n => .error (.longInteger n)

theorem map_answer (g : α → β) (a : α) (found : Except Nat (List CodePoint)) :
    (answer a found).map (Prod.map g id) = answer (g a) found := by
  cases found <;> rfl

/-- What is found ends the literal before it. -/
def Ends (found : Except Nat (List CodePoint)) : Prop :=
  ∀ rest, found = .ok rest → Bars continues rest

/-- Whatever a reader returns is asked for by some row of tokens that its grammar has, unless it is a
complaint, and that has its place in the text. -/
def Explains (D : List Text → α → Prop) (s : List CodePoint) : Except Fault (α × List CodePoint) → Prop
  | .ok (a, rest) => ∃ tokens, D tokens a ∧ Meets tokens s (.ok rest)
  | .error (.longInteger n) => ∃ tokens a, D tokens a ∧ Meets tokens s (.error n)
  | .error (.misread _ left) => left ≤ s.length

variable {D : List Text → α → Prop} {E : List Text → β → Prop}
  {x : Except Fault (α × List CodePoint)} {f : α × List CodePoint → Except Fault (β × List CodePoint)}

/-- **Two readers, one after the other.**  Every row of the first has to begin a row of both, because
the first may stop at an integer with too many digits. -/
theorem Explains.bind (h : Explains D s x)
    (completes : ∀ tokens a, D tokens a → ∃ more b, E (tokens ++ more) b)
    (next : ∀ tokens a rest, x = .ok (a, rest) → D tokens a →
      Explains (fun more b => E (tokens ++ more) b) rest (f (a, rest))) :
    Explains E s (x.bind f) := by
  match x with
  | .ok (a, rest) =>
    obtain ⟨tokens, derives, met⟩ := h
    obtain ⟨spaced, short⟩ := meets_ok_iff.1 met
    have second := next tokens a rest rfl derives
    show Explains E s (f (a, rest))
    match f (a, rest), second with
    | .ok (b, rest'), ⟨more, derives', met'⟩ =>
      exact ⟨tokens ++ more, derives', spaced.meets short met'⟩
    | .error (.longInteger n), ⟨more, b, derives', met'⟩ =>
      exact ⟨tokens ++ more, b, derives', spaced.meets short met'⟩
    | .error (.misread complaint left), bound => exact Nat.le_trans bound spaced.length_le
  | .error (.longInteger n) =>
    obtain ⟨tokens, a, derives, met⟩ := h
    obtain ⟨more, b, derives'⟩ := completes tokens a derives
    exact ⟨tokens ++ more, b, derives', met.append_error more⟩
  | .error (.misread complaint left) => exact h

/-- A reader whose value is changed. -/
theorem Explains.map {g : α → β} (h : Explains D s x) (derives : ∀ tokens a, D tokens a → E tokens (g a)) :
    Explains E s (x.map (Prod.map g id)) := by
  match x with
  | .ok (a, rest) =>
    obtain ⟨tokens, derived, met⟩ := h
    exact ⟨tokens, derives tokens a derived, met⟩
  | .error (.longInteger n) =>
    obtain ⟨tokens, a, derived, met⟩ := h
    exact ⟨tokens, g a, derives tokens a derived, met⟩
  | .error (.misread complaint left) => exact h

/-- A reader behind some tokens. -/
theorem Explains.behind {front : List Text} {u : List CodePoint} {D' : List Text → α → Prop}
    (spaced : Spaced front s u) (short : ∀ token ∈ front, ¬IsLong token) (h : Explains D u x)
    (derives : ∀ tokens a, D tokens a → D' (front ++ tokens) a) : Explains D' s x := by
  match x with
  | .ok (a, rest) =>
    obtain ⟨tokens, derived, met⟩ := h
    exact ⟨front ++ tokens, derives tokens a derived, spaced.meets short met⟩
  | .error (.longInteger n) =>
    obtain ⟨tokens, a, derived, met⟩ := h
    exact ⟨front ++ tokens, a, derives tokens a derived, spaced.meets short met⟩
  | .error (.misread complaint left) => exact Nat.le_trans h spaced.length_le

/-- A reader behind a mark. -/
theorem Explains.mark {c : Char} {u : List CodePoint} (isMark : IsMark c) (front : skipBlank s = .char c :: u)
    (h : Explains (fun tokens a => D (Text.singleton c :: tokens) a) u x) : Explains D s x := by
  have spaced : Spaced [Text.singleton c] s u :=
    spaced_of_skipBlank (by rwa [Text.toList_singleton])
  have short : ∀ token ∈ [Text.singleton c], ¬IsLong token :=
    List.forall_mem_singleton.2 isMark.plain.2.2
  exact h.behind spaced short fun _ _ derived => derived

/-- **Two readers, one after the other**, return what a row of both asks for. -/
theorem bind_eq_answer {tokens more : List Text} {found : Except Nat (List CodePoint)} {a : α} {b : β}
    (h : Meets (tokens ++ more) s found)
    (first : ∀ found', Meets tokens s found' → Ends found' → x = answer a found')
    (ends : ∀ u, Meets more u found → Bars continues u)
    (next : ∀ u, Meets more u found → f (a, u) = answer b found) :
    x.bind f = answer b found := by
  rcases h.of_append with ⟨u, met, met'⟩ | ⟨n, rfl, met⟩
  · have stops : Ends (.ok u) := by
      rintro _ ⟨⟩
      exact ends u met'
    rw [first (.ok u) met stops]
    exact next u met'
  · have stops : Ends (.error n) := by
      rintro _ ⟨⟩
    rw [first (.error n) met stops]
    rfl

end Outcomes

/-! ## Reading one token -/

/-- Rows of one token. -/
def One {α : Type} (D : Text → α → Prop) (tokens : List Text) (a : α) : Prop :=
  ∃ token, tokens = [token] ∧ D token a

section Single

variable {token : Text} {tokens : List Text} {s u rest : List CodePoint} {c : Char} {v : Scalar}
  {found : Except Nat (List CodePoint)}

theorem outcome_expect (h : skipBlank s = .char c :: u) : outcome (expect c s) = .ok ((), u) := by
  obtain ⟨shorter, taken⟩ := next?_of_skipBlank h
  rw [expect, taken]
  rfl

theorem outcome_expect_eq_error (h : ∀ u, skipBlank s ≠ .char c :: u) :
    outcome (expect c s) = .error (misreadAt (.expected c) s) := by
  rw [expect, next?_eq_none h]
  rfl

/-- A mark that has to come next is asked for. -/
theorem explains_expect (isMark : IsMark c) (s : List CodePoint) :
    Explains (fun tokens _ => tokens = [Text.singleton c]) s (outcome (expect c s)) := by
  by_cases h : ∃ u, skipBlank s = .char c :: u
  · obtain ⟨u, eq⟩ := h
    rw [outcome_expect eq]
    exact ⟨_, rfl, meets_mark isMark eq .nil⟩
  · rw [outcome_expect_eq_error fun u eq => h ⟨u, eq⟩]
    exact skipBlank_length_le s

/-- A string behind its opening quote is asked for by a token. -/
theorem explains_takeString (h : skipBlank s = .char '"' :: u) :
    Explains (One IsString) s (outcome (takeString u)) := by
  cases taken : takeString u with
  | error e =>
    have bound : (skipBlank s).length ≤ s.length := skipBlank_length_le s
    rw [h] at bound
    unfold takeString at taken
    split at taken
    · cases taken
      exact bound
    · split at taken
      · next fault =>
        obtain ⟨problem, left, rfl⟩ := malformed_of_readPiece fault
        cases taken
        exact bound
      · cases taken
  | ok string =>
    obtain ⟨inside, spells, eq⟩ := spells_of_takeString ⟨string.shorter, taken⟩
    have isString : IsString (Text.ofList (.char '"' :: (inside ++ [.char '"']))) string.value :=
      ⟨inside, rfl, spells⟩
    refine ⟨_, ⟨_, rfl, isString⟩, .of_skipBlank ?_ isString.not_isLong .nil⟩
    rw [h, Text.toList_ofList, List.cons_append, List.append_assoc]
    exact congrArg (.char '"' :: ·) eq

theorem outcome_takeName (h : skipBlank s = .char '"' :: u) :
    outcome (takeName s) = outcome (takeString u) := by
  obtain ⟨shorter, opened⟩ := next?_of_skipBlank h
  rw [takeName, opened]
  simp only
  cases takeString u <;> rfl

/-- A name that has to come next is asked for. -/
theorem explains_takeName (s : List CodePoint) : Explains (One IsString) s (outcome (takeName s)) := by
  by_cases h : ∃ u, skipBlank s = .char '"' :: u
  · obtain ⟨u, eq⟩ := h
    rw [outcome_takeName eq]
    exact explains_takeString eq
  · rw [takeName, next?_eq_none fun u eq => h ⟨u, eq⟩]
    exact skipBlank_length_le s

theorem skipBlank_of_peek? {taken : Taken CodePoint s} (h : peek? s = some taken) :
    skipBlank s = taken.value :: taken.rest := by
  unfold peek? at h
  split at h
  · cases h
  · next eq =>
    cases h
    exact eq

/-- What is taken as a word consists of letters. -/
theorem skipBlank_of_takeWord? {taken : Taken (List CodePoint) s} (h : takeWord? s = some taken) :
    taken.value ≠ [] ∧ (∀ c ∈ taken.value, isLetter c = true) ∧
      skipBlank s = taken.value ++ taken.rest := by
  unfold takeWord? at h
  split at h
  · cases h
  · next first peeked =>
    split at h
    · next letter =>
      cases h
      refine ⟨List.cons_ne_nil _ _, ?_, ?_⟩
      · exact List.forall_mem_cons.2
          ⟨letter, fun c hc => List.all_eq_true.1 List.all_takeWhile c hc⟩
      · rw [skipBlank_of_peek? peeked, List.cons_append, List.takeWhile_append_dropWhile]
    · cases h

/-- The words that denote scalars. -/
theorem denotes_of_ofWord? {word : List CodePoint} (h : ofWord? word = some v) :
    Denotes (Text.ofList word) v := by
  unfold ofWord? at h
  split at h
  · next eq =>
    cases h
    rw [eq]
    exact .trueWord
  · split at h
    · next eq =>
      cases h
      rw [eq]
      exact .falseWord
    · split at h
      · next eq =>
        cases h
        rw [eq]
        exact .nullWord
      · cases h

/-- A token of letters is no number. -/
theorem not_isLong_of_letters {word : List CodePoint} (letters : ∀ c ∈ word, isLetter c = true) :
    ¬IsLong (Text.ofList word) := by
  refine not_isLong ?_
  rw [Text.toList_ofList]
  cases word with
  | nil => rfl
  | cons c word =>
    have range := toNat_of_isLetter (letters c List.mem_cons_self)
    cases c with
    | char c =>
      rw [CodePoint.toNat_char] at range
      refine Bool.or_eq_false_iff.2 ⟨Bool.eq_false_iff.2 fun digit => ?_, ?_⟩
      · have := toNat_of_isDigit digit
        omega
      · refine beq_eq_false_iff_ne.2 ?_
        rintro rfl
        exact absurd range (by decide)
    | surrogate n => rfl

/-- A number or word that has to come next is asked for. -/
theorem explains_takePlain (s : List CodePoint) :
    Explains (One Denotes) s (outcome (takePlain (skipBlank s))) := by
  have bound : (skipBlank (skipBlank s)).length ≤ s.length := by
    rw [skipBlank_skipBlank]
    exact skipBlank_length_le s
  unfold takePlain
  split
  · next number taken =>
    obtain ⟨l, rest, shorter⟩ := number
    have leads := Number.takeNumber?_eq_some_iff.1 ⟨shorter, taken⟩
    obtain ⟨text, spelled, eq⟩ := leads.written
    have isNumber : l.IsWrittenAs (Text.ofList text).toList := by
      rwa [Text.toList_ofList]
    have front : skipBlank s = (Text.ofList text).toList ++ rest := by
      rwa [Text.toList_ofList]
    by_cases long : l.IsLong
    · rw [Number.Literal.value_of_isLong long]
      refine ⟨_, _, ⟨_, rfl, .number isNumber⟩, ?_⟩
      rw [front] at leads
      exact .of_skipBlank_long front isNumber long leads
    · rw [Number.Literal.value_of_not_isLong long]
      refine ⟨_, ⟨_, rfl, .number isNumber⟩, .of_skipBlank front ?_ .nil⟩
      rintro ⟨l, spelled', long'⟩
      exact long (spelled'.unique isNumber ▸ long')
  · split
    · exact bound
    · next word taken =>
      obtain ⟨-, letters, eq⟩ := skipBlank_of_takeWord? taken
      split
      · exact bound
      · next value denoted =>
        refine ⟨_, ⟨_, rfl, denotes_of_ofWord? denoted⟩,
          .of_skipBlank ?_ (not_isLong_of_letters letters) .nil⟩
        rw [Text.toList_ofList]
        exact (skipBlank_skipBlank s).symm.trans eq

theorem outcome_takeLiteral_of_string (h : skipBlank s = .char '"' :: u) :
    outcome (takeLiteral s) = (outcome (takeString u)).map (Prod.map .text id) := by
  obtain ⟨shorter, opened⟩ := next?_of_skipBlank h
  rw [takeLiteral, opened]
  simp only
  cases takeString u <;> rfl

theorem outcome_takeLiteral_of_plain (h : ∀ u, skipBlank s ≠ .char '"' :: u) :
    outcome (takeLiteral s) = outcome (takePlain (skipBlank s)) := by
  rw [takeLiteral, next?_eq_none h]
  simp only
  cases takePlain (skipBlank s) <;> rfl

/-- **A literal that has to come next is asked for.** -/
theorem explains_takeLiteral (s : List CodePoint) :
    Explains (One Denotes) s (outcome (takeLiteral s)) := by
  by_cases h : ∃ u, skipBlank s = .char '"' :: u
  · obtain ⟨u, eq⟩ := h
    rw [outcome_takeLiteral_of_string eq]
    refine (explains_takeString eq).map ?_
    rintro tokens name ⟨token, rfl, isString⟩
    exact ⟨token, rfl, .text isString⟩
  · rw [outcome_takeLiteral_of_plain fun u eq => h ⟨u, eq⟩]
    exact explains_takePlain s

/-- A token that is met alone is found behind the blanks, with what was found behind it. -/
theorem Meets.single (h : Meets [token] s found) (visible : Bars isBlank token.toList)
    (nonempty : token.toList ≠ []) :
    ∃ u, skipBlank s = token.toList ++ u ∧ ((¬IsLong token ∧ found = .ok u) ∨
      ∃ l : Number.Literal, l.IsWrittenAs token.toList ∧ l.IsLong ∧ l.Leads (token.toList ++ u) u ∧
        found = .error l.whole.length) := by
  obtain ⟨c, cs, eq⟩ := List.exists_cons_of_ne_nil nonempty
  have skip : ∀ blanks u : List CodePoint, (∀ c ∈ blanks, isBlank c = true) →
      skipBlank (blanks ++ (token.toList ++ u)) = token.toList ++ u := by
    intro blanks u blank
    rw [eq] at visible ⊢
    rw [skipBlank_append blank, List.cons_append, skipBlank_cons (bars_cons.1 visible)]
  cases h with
  | cons blank short more =>
    cases more
    exact ⟨_, skip _ _ blank, .inl ⟨short, rfl⟩⟩
  | long blank spelled long leads =>
    exact ⟨_, skip _ _ blank, .inr ⟨_, spelled, long, leads, rfl⟩⟩

/-- A string is returned where a row asks for it. -/
theorem IsString.outcome_eq {name : Text} (h : IsString token name) (met : Meets [token] s found) :
    ∃ u, skipBlank s = .char '"' :: u ∧ outcome (takeString u) = answer name found := by
  obtain ⟨inside, eq, spells⟩ := h
  obtain ⟨rest, front, ⟨-, rfl⟩ | ⟨l, spelled, -⟩⟩ := met.single
    (by rw [eq]; exact bars_cons.2 (by decide)) (by rw [eq]; exact List.cons_ne_nil _ _)
  · refine ⟨inside ++ .char '"' :: rest, ?_, ?_⟩
    · rw [front, eq, List.cons_append, List.append_assoc]
      rfl
    · exact outcome_eq_ok_iff.2 (took_takeString spells rest)
  · obtain ⟨d, cs, digit, number | number⟩ := spelled.exists_eq_digit
    · rw [eq] at number
      cases number
      cases digit
    · rw [eq] at number
      cases number

/-- A name is returned where a row asks for it. -/
theorem outcome_takeName_eq {name : Text} (h : IsString token name) (met : Meets [token] s found) :
    outcome (takeName s) = answer name found := by
  obtain ⟨u, front, returns⟩ := h.outcome_eq met
  rw [outcome_takeName front, returns]

/-- Blanks before a literal change nothing. -/
theorem outcome_takeLiteral_skipBlank (s : List CodePoint) :
    outcome (takeLiteral (skipBlank s)) = outcome (takeLiteral s) := by
  have same := skipBlank_skipBlank s
  by_cases h : ∃ u, skipBlank s = .char '"' :: u
  · obtain ⟨u, eq⟩ := h
    rw [outcome_takeLiteral_of_string eq, outcome_takeLiteral_of_string (same.trans eq)]
  · rw [outcome_takeLiteral_of_plain fun u eq => h ⟨u, eq⟩,
      outcome_takeLiteral_of_plain fun u eq => h ⟨u, same.symm.trans eq⟩, same]

/-- An integer with too many digits stops the reader, whatever is behind it. -/
theorem outcome_takePlain_of_isLong {l : Number.Literal} (leads : l.Leads s rest)
    (long : l.IsLong) : outcome (takePlain s) = .error (.longInteger l.whole.length) := by
  obtain ⟨shorter, taken⟩ := Number.takeNumber?_eq_some_iff.2 leads
  rw [takePlain, taken]
  simp only [Number.Literal.value_of_isLong long]
  rfl

/-- A word is returned where a row asks for it, if it ends there. -/
theorem outcome_takeLiteral_word (nonempty : token.toList ≠ [])
    (letters : token.toList.all isLetter = true) (value : ofWord? token.toList = some v)
    (met : Meets [token] s found) (ends : Ends found) :
    outcome (takeLiteral s) = answer v found := by
  obtain ⟨c, cs, eq⟩ := List.exists_cons_of_ne_nil nonempty
  have letter := List.all_eq_true.1 letters
  have first := letter c (by rw [eq]; exact List.mem_cons_self)
  have visible : Bars isBlank token.toList := by
    rw [eq]
    exact bars_cons.2 (isBlank_of_isLetter first)
  obtain ⟨rest, front, ⟨-, rfl⟩ | ⟨l, spelled, long, -⟩⟩ := met.single visible nonempty
  · have reads : Settled (takeLiteral (token.toList ++ rest)) true v rest :=
      settled_takeLiteral_word nonempty letters (ends rest rfl) value
    rw [← outcome_takeLiteral_skipBlank, front]
    exact outcome_eq_ok_iff.2 reads
  · have short := not_isLong_of_letters letter
    rw [Text.ofList_toList] at short
    exact absurd ⟨l, spelled, long⟩ short

/-- A number is returned where a row asks for it, if it ends there. -/
theorem outcome_takeLiteral_number {l : Number.Literal} (spelled : l.IsWrittenAs token.toList)
    (met : Meets [token] s found) (ends : Ends found) :
    outcome (takeLiteral s) = answer (ofNumber l.number) found := by
  obtain ⟨c, cs, eq, visible, quote⟩ :
      ∃ c cs, token.toList = c :: cs ∧ isBlank c = false ∧ c ≠ '"' := by
    obtain ⟨d, cs, digit, eq | eq⟩ := spelled.exists_eq_digit
    · refine ⟨d, cs, eq, isBlank_of_isDigit digit, ?_⟩
      rintro ⟨⟩
      cases digit
    · exact ⟨'-', .char d :: cs, eq, by decide, by decide⟩
  obtain ⟨rest, front, ⟨short, rfl⟩ | ⟨l', spelled', long, leads, rfl⟩⟩ := met.single
    (by rw [eq]; exact bars_cons.2 visible) (by rw [eq]; exact List.cons_ne_nil _ _)
  · have value := Number.Literal.value_of_not_isLong fun long => short ⟨l, spelled, long⟩
    have reads : Settled (takeLiteral (token.toList ++ rest)) true (ofNumber l.number) rest :=
      settled_takeLiteral_literal spelled (ends rest rfl) ⟨l.number, value, rfl⟩
    rw [← outcome_takeLiteral_skipBlank, front]
    exact outcome_eq_ok_iff.2 reads
  · have plain : ∀ u, skipBlank s ≠ .char '"' :: u := by
      intro u string
      rw [front, eq] at string
      exact quote (List.cons.inj string).1
    rw [outcome_takeLiteral_of_plain plain, front]
    exact outcome_takePlain_of_isLong leads long

/-- **A literal is returned where a row asks for it**, if it ends there. -/
theorem Denotes.outcome_eq (h : Denotes token v) (met : Meets [token] s found)
    (ends : Ends found) : outcome (takeLiteral s) = answer v found := by
  cases h with
  | nullWord => exact outcome_takeLiteral_word (by decide) (by decide) rfl met ends
  | falseWord => exact outcome_takeLiteral_word (by decide) (by decide) rfl met ends
  | trueWord => exact outcome_takeLiteral_word (by decide) (by decide) rfl met ends
  | number spelled => exact outcome_takeLiteral_number spelled met ends
  | text string =>
    obtain ⟨u, front, returns⟩ := string.outcome_eq met
    rw [outcome_takeLiteral_of_string front, returns]
    cases found <;> rfl

end Single

end EventRoster.Condition
