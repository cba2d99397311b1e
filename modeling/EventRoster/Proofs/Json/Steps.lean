import EventRoster.Json.Read
import EventRoster.Proofs.Json.Spelling
import EventRoster.Proofs.Number.Spelling

/-!
# The steps of the readers of JSON

What each reader of JSON takes off the front of a text, and leaves of it, as an equivalence: a colon, a
separator or a string with the blanks around it, and a value, items or members with the steps that they
consist of.  The readers call each other only through these.
-/

namespace EventRoster.Json

open EventRoster.Text

/-- Some blanks, or none. -/
def IsBlank (s : List CodePoint) : Prop :=
  ∀ c ∈ s, isSpace c = true

/-! ## Blanks -/

theorem skipSpace_of_bars {s : List CodePoint} (h : Bars isSpace s) : skipSpace s = s := by
  have none : ∀ c ∈ ([] : List CodePoint), isSpace c = true := by
    intro c hc
    cases hc
  exact dropWhile_append_of_bars none h

section Blanks

variable {a b s : List CodePoint} {c : CodePoint}

theorem IsBlank.nil : IsBlank [] :=
  List.forall_mem_nil _

theorem IsBlank.append (h : IsBlank a) (h' : IsBlank b) : IsBlank (a ++ b) :=
  List.forall_mem_append.2 ⟨h, h'⟩

theorem skipSpace_append (h : IsBlank a) (bars : Bars isSpace s) : skipSpace (a ++ s) = s :=
  dropWhile_append_of_bars h bars

theorem bars_skipSpace (s : List CodePoint) : Bars isSpace (skipSpace s) := by
  intro c hc
  have front := List.head?_dropWhile_not isSpace s
  rw [show (s.dropWhile isSpace).head? = some c from hc] at front
  exact front

/-- A text is the blanks that it begins with and what is left without them. -/
theorem exists_isBlank_append_skipSpace (s : List CodePoint) : ∃ a, IsBlank a ∧ s = a ++ skipSpace s :=
  ⟨s.takeWhile isSpace, fun c hc => List.all_eq_true.1 List.all_takeWhile c hc,
    List.takeWhile_append_dropWhile.symm⟩

/-- What may follow a number may follow blanks behind it. -/
theorem bars_goesOn_append (h : IsBlank a) (bars : Bars (CodePoint.is Number.goesOn) s) :
    Bars (CodePoint.is Number.goesOn) (a ++ s) := by
  cases a with
  | nil => exact bars
  | cons c a =>
    have space := h c List.mem_cons_self
    rw [List.cons_append, bars_cons]
    simp only [isSpace, Bool.or_eq_true, decide_eq_true_eq] at space
    obtain ((rfl | rfl) | rfl) | rfl := space <;> decide

end Blanks

/-! ## The steps of the readers -/

section Steps

variable {s rest : List CodePoint} {v : Json}

/-- A mark behind blanks is the next character. -/
theorem nextChar?_append {a : List CodePoint} {c : CodePoint} (h : IsBlank a) (visible : isSpace c = false)
    (s : List CodePoint) : ∃ shorter, nextChar? (a ++ c :: s) = some ⟨c, s, shorter⟩ := by
  have skip : skipSpace (a ++ c :: s) = c :: s := skipSpace_append h (bars_cons.2 visible)
  have shorter : s.length < (a ++ c :: s).length := by
    rw [List.length_append, List.length_cons]
    omega
  unfold nextChar?
  split
  · next none => rw [skip] at none; cases none
  · next d left front =>
    rw [skip] at front
    cases front
    exact ⟨shorter, rfl⟩

theorem exists_of_nextChar? {next : Taken CodePoint s} (h : nextChar? s = some next) :
    ∃ a, IsBlank a ∧ s = a ++ next.value :: next.rest := by
  obtain ⟨a, blank, eq⟩ := exists_isBlank_append_skipSpace s
  unfold nextChar? at h
  split at h
  · cases h
  · next c rest front =>
    cases h
    rw [front] at eq
    exact ⟨a, blank, eq⟩

/-- An array or object is closed at once if the closing character is the next. -/
theorem takeEmpty?_append (close : CodePoint) {a : List CodePoint} {c : CodePoint} (h : IsBlank a)
    (visible : isSpace c = false) (s : List CodePoint) :
    ∃ shorter, takeEmpty? close (a ++ c :: s) =
      if c = close then some ⟨(), s, shorter⟩ else none := by
  obtain ⟨shorter, peeked⟩ := nextChar?_append h visible s
  unfold takeEmpty?
  rw [peeked]
  exact ⟨shorter, rfl⟩

theorem exists_of_takeEmpty? {close : CodePoint} {closed : Taken Unit s}
    (h : takeEmpty? close s = some closed) : ∃ a, IsBlank a ∧ s = a ++ close :: closed.rest := by
  unfold takeEmpty? at h
  split at h
  · cases h
  · next next peeked =>
    split at h
    · next closes =>
      cases h
      rw [← closes]
      exact exists_of_nextChar? peeked
    · cases h

/-- The colon behind a name is taken with the blanks around it. -/
theorem took_takeColon_iff :
    Took (takeColon s) () rest ↔
      ∃ a b, IsBlank a ∧ IsBlank b ∧ Bars isSpace rest ∧ s = a ++ .char ':' :: (b ++ rest) := by
  constructor
  · rintro ⟨shorter, h⟩
    unfold takeColon at h
    split at h
    · cases h
    · next next peeked =>
      obtain ⟨a, blank, eq⟩ := exists_of_nextChar? peeked
      obtain ⟨b, blank', eq'⟩ := exists_isBlank_append_skipSpace next.rest
      split at h
      · next colon =>
        rw [colon, eq'] at eq
        cases h
        exact ⟨a, b, blank, blank', bars_skipSpace _, eq⟩
      · cases h
  · rintro ⟨a, b, blank, blank', bars, rfl⟩
    obtain ⟨shorter, peeked⟩ := nextChar?_append blank (c := ':') (by decide) (b ++ rest)
    have skip := skipSpace_append blank' bars
    unfold takeColon
    rw [peeked]
    simp only [skip, if_true]
    exact ⟨_, rfl⟩

/-- A separator is the closing character or a comma, with blanks around it. -/
theorem exists_of_takeSeparator {close : CodePoint} {closed : Bool}
    (h : Took (takeSeparator close s) closed rest) :
    ∃ a, IsBlank a ∧ if closed then s = a ++ close :: rest
      else ∃ b, IsBlank b ∧ s = a ++ .char ',' :: (b ++ rest) := by
  obtain ⟨shorter, h⟩ := h
  unfold takeSeparator at h
  split at h
  · cases h
  · next next peeked =>
    obtain ⟨a, blank, eq⟩ := exists_of_nextChar? peeked
    refine ⟨a, blank, ?_⟩
    split at h
    · next closes =>
      rw [closes] at eq
      cases h
      exact eq
    · split at h
      · next comma =>
        obtain ⟨b, blank', eq'⟩ := exists_isBlank_append_skipSpace next.rest
        rw [comma, eq'] at eq
        cases h
        exact ⟨b, blank', eq⟩
      · cases h

theorem took_takeSeparator_close {close : CodePoint} (visible : isSpace close = false) {a : List CodePoint}
    (blank : IsBlank a) (rest : List CodePoint) :
    Took (takeSeparator close (a ++ close :: rest)) true rest := by
  obtain ⟨shorter, peeked⟩ := nextChar?_append blank visible rest
  unfold takeSeparator
  rw [peeked]
  exact ⟨shorter, if_pos rfl⟩

theorem took_takeSeparator_comma {close : CodePoint} (other : close ≠ ',') {a : List CodePoint}
    (blank : IsBlank a) (t : List CodePoint) :
    Took (takeSeparator close (a ++ .char ',' :: t)) false (skipSpace t) := by
  obtain ⟨shorter, peeked⟩ := nextChar?_append blank (c := ',') (by decide) t
  unfold takeSeparator
  rw [peeked]
  simp only [if_neg (Ne.symm other), if_true]
  exact ⟨_, rfl⟩

/-- A string is taken as what it spells. -/
theorem took_takeString_iff {missing : Problem} {name : Text} :
    Took (takeString missing s) name rest ↔
      ∃ inside value, Text.Spells inside value ∧ name = Text.ofList value ∧
        s = .char '"' :: (inside ++ .char '"' :: rest) := by
  constructor
  · rintro ⟨shorter, h⟩
    unfold takeString at h
    split at h
    · cases h
    · next c left =>
      split at h
      · next quote =>
        split at h
        · cases h
        · next body reads =>
          obtain ⟨inside, spelled, eq⟩ := Text.spells_of_takeBody ⟨body.shorter, reads⟩
          have front : c :: left = .char '"' :: (inside ++ .char '"' :: body.rest) :=
            congr (congrArg _ quote) eq
          cases h
          exact ⟨inside, body.value, spelled, rfl, front⟩
      · cases h
  · rintro ⟨inside, value, spelled, rfl, rfl⟩
    obtain ⟨shorter, reads⟩ := Text.took_takeBody spelled ((inside ++ .char '"' :: rest).length + 1) rest
    rw [takeString, if_pos rfl, reads]
    exact ⟨Nat.lt_succ_of_lt shorter, rfl⟩

/-- The items of an array are the first of them and the others. -/
theorem took_takeItems_iff {vs : List Json} :
    Took (takeItems s) vs rest ↔
      ∃ v behind closed left, Took (takeValue s) v behind ∧
        Took (takeSeparator ']' behind) closed left ∧
        if closed then vs = [v] ∧ rest = left
        else ∃ more, Took (takeItems left) more rest ∧ vs = v :: more := by
  constructor
  · rintro ⟨shorter, h⟩
    unfold takeItems at h
    split at h
    · cases h
    · next item reads =>
      split at h
      · cases h
      · next next separated =>
        refine ⟨item.value, item.rest, next.value, next.rest, ⟨item.shorter, reads⟩,
          ⟨next.shorter, separated⟩, ?_⟩
        simp only at h
        split at h
        · next closed =>
          rw [if_pos closed]
          cases h
          exact ⟨rfl, rfl⟩
        · next more =>
          rw [if_neg more]
          split at h
          · cases h
          · next items reads' =>
            cases h
            exact ⟨items.value, ⟨items.shorter, reads'⟩, rfl⟩
  · rintro ⟨v, behind, closed, left, ⟨h₁, item⟩, ⟨h₂, separated⟩, h⟩
    rw [takeItems, item]
    simp only [separated]
    cases closed with
    | true =>
      obtain ⟨rfl, rfl⟩ := h
      exact ⟨_, rfl⟩
    | false =>
      obtain ⟨more, ⟨h₃, items⟩, rfl⟩ := h
      simp only [items, Bool.false_eq_true, if_false]
      exact ⟨_, rfl⟩

/-- The members of an object are the first of them and the others, which are bound after it. -/
theorem took_takeMembers_iff {bound members : Members} :
    Took (takeMembers bound s) members rest ↔
      ∃ name afterName afterColon v behind closed left,
        Took (takeString .expectingName s) name afterName ∧
        Took (takeColon afterName) () afterColon ∧ Took (takeValue afterColon) v behind ∧
        Took (takeSeparator '}' behind) closed left ∧
        if closed then members = bind bound name v ∧ rest = left
        else Took (takeMembers (bind bound name v) left) members rest := by
  constructor
  · rintro ⟨shorter, h⟩
    unfold takeMembers at h
    split at h
    · cases h
    · next name reads =>
      split at h
      · cases h
      · next colon reads' =>
        simp only at h
        split at h
        · cases h
        · next value reads'' =>
          split at h
          · cases h
          · next next separated =>
            refine ⟨name.value, name.rest, colon.rest, value.value, value.rest, next.value, next.rest,
              ⟨name.shorter, reads⟩, ⟨colon.shorter, reads'⟩, ⟨value.shorter, reads''⟩,
              ⟨next.shorter, separated⟩, ?_⟩
            split at h
            · next closed =>
              rw [if_pos closed]
              cases h
              exact ⟨rfl, rfl⟩
            · next more =>
              rw [if_neg more]
              split at h
              · cases h
              · next members continued =>
                cases h
                exact ⟨members.shorter, continued⟩
  · rintro ⟨name, afterName, afterColon, v, behind, closed, left, ⟨h₁, named⟩, ⟨h₂, colon⟩, ⟨h₃, value⟩,
      ⟨h₄, separated⟩, h⟩
    rw [takeMembers, named]
    simp only [colon, value, separated]
    cases closed with
    | true =>
      obtain ⟨rfl, rfl⟩ := h
      exact ⟨_, rfl⟩
    | false =>
      obtain ⟨h₅, reads⟩ := h
      simp only [reads, Bool.false_eq_true, if_false]
      exact ⟨_, rfl⟩

/-- What begins with a quote is read as a string. -/
theorem took_takeValue_quote_iff :
    Took (takeValue (.char '"' :: s)) v rest ↔
      ∃ name, Took (takeString .expectingValue (.char '"' :: s)) name rest ∧ v = .text name := by
  rw [takeValue, if_pos rfl]
  cases takeString .expectingValue (.char '"' :: s) with
  | error e =>
    constructor
    · rintro ⟨shorter, ⟨⟩⟩
    · rintro ⟨name, ⟨shorter, ⟨⟩⟩, -⟩
  | ok string =>
    constructor
    · rintro ⟨shorter, h⟩
      cases h
      exact ⟨string.value, ⟨string.shorter, rfl⟩, rfl⟩
    · rintro ⟨name, ⟨shorter, h⟩, rfl⟩
      cases h
      exact ⟨_, rfl⟩

/-- What begins with a bracket is read as an array. -/
theorem took_takeValue_bracket_iff :
    Took (takeValue (.char '[' :: s)) v rest ↔
      match takeEmpty? ']' s with
      | some closed => v = .array [] ∧ rest = closed.rest
      | none => ∃ vs, Took (takeItems (skipSpace s)) vs rest ∧ v = .array vs := by
  have quote : CodePoint.char '[' ≠ '"' := by decide
  rw [takeValue, if_neg quote, if_pos rfl]
  cases takeEmpty? ']' s with
  | some closed =>
    constructor
    · rintro ⟨shorter, h⟩
      cases h
      exact ⟨rfl, rfl⟩
    · rintro ⟨rfl, rfl⟩
      exact ⟨_, rfl⟩
  | none =>
    cases takeItems (skipSpace s) with
    | error e =>
      constructor
      · rintro ⟨shorter, ⟨⟩⟩
      · rintro ⟨vs, ⟨shorter, ⟨⟩⟩, -⟩
    | ok items =>
      constructor
      · rintro ⟨shorter, h⟩
        cases h
        exact ⟨items.value, ⟨items.shorter, rfl⟩, rfl⟩
      · rintro ⟨vs, ⟨shorter, h⟩, rfl⟩
        cases h
        exact ⟨_, rfl⟩

/-- What begins with a brace is read as an object. -/
theorem took_takeValue_brace_iff :
    Took (takeValue (.char '{' :: s)) v rest ↔
      match takeEmpty? '}' s with
      | some closed => v = .object [] ∧ rest = closed.rest
      | none => ∃ members, Took (takeMembers [] (skipSpace s)) members rest ∧ v = .object members := by
  have quote : CodePoint.char '{' ≠ '"' := by decide
  have bracket : CodePoint.char '{' ≠ '[' := by decide
  rw [takeValue, if_neg quote, if_neg bracket, if_pos rfl]
  cases takeEmpty? '}' s with
  | some closed =>
    constructor
    · rintro ⟨shorter, h⟩
      cases h
      exact ⟨rfl, rfl⟩
    · rintro ⟨rfl, rfl⟩
      exact ⟨_, rfl⟩
  | none =>
    cases takeMembers [] (skipSpace s) with
    | error e =>
      constructor
      · rintro ⟨shorter, ⟨⟩⟩
      · rintro ⟨ms, ⟨shorter, ⟨⟩⟩, -⟩
    | ok members =>
      constructor
      · rintro ⟨shorter, h⟩
        cases h
        exact ⟨members.value, ⟨members.shorter, rfl⟩, rfl⟩
      · rintro ⟨ms, ⟨shorter, h⟩, rfl⟩
        cases h
        exact ⟨_, rfl⟩

/-- A value that begins like no string, array or object is a word or a number. -/
theorem takeValue_eq_takeScalar {c : CodePoint} (string : c ≠ '"') (array : c ≠ '[') (object : c ≠ '{')
    (s : List CodePoint) : takeValue (c :: s) = takeScalar (c :: s) := by
  rw [takeValue, if_neg string, if_neg array, if_neg object]

/-- A digit begins no word. -/
theorem takeWord?_digit {d : Char} (h : d.isDigit = true) (s : List CodePoint) :
    takeWord? (.char d :: s) = none ∧ takeWord? (.char '-' :: .char d :: s) = none := by
  have ne : ∀ c : Char, c.isDigit = false → ¬c = d := by
    rintro c letter rfl
    rw [h] at letter
    cases letter
  have n := ne 'n' (by decide)
  have t := ne 't' (by decide)
  have f := ne 'f' (by decide)
  have nan := ne 'N' (by decide)
  have infinity := ne 'I' (by decide)
  have minus := ne '-' (by decide)
  constructor
  · simp [takeWord?, words, after?, CodePoint.ofString, n, t, f, nan, infinity, minus]
  · simp [takeWord?, words, after?, CodePoint.ofString, infinity]

/-- What begins like a number is read as a scalar, and as no word. -/
theorem takeValue_number {l : Number.Literal} {text : List CodePoint} (spelled : l.IsWrittenAs text)
    (rest : List CodePoint) :
    takeValue (text ++ rest) = takeScalar (text ++ rest) ∧ takeWord? (text ++ rest) = none ∧
      Bars isSpace (text ++ rest) := by
  obtain ⟨d, s, digit, rfl | rfl⟩ := spelled.exists_eq_digit
  · have ne : ∀ c : Char, c.isDigit = false → CodePoint.char d ≠ c := by
      rintro c letter eq
      rw [← CodePoint.char.inj eq, digit] at letter
      cases letter
    refine ⟨?_, (takeWord?_digit digit _).1, bars_cons.2 (by simp [isSpace, ne])⟩
    exact takeValue_eq_takeScalar (ne _ (by decide)) (ne _ (by decide)) (ne _ (by decide)) _
  · refine ⟨?_, (takeWord?_digit digit _).2, bars_cons.2 (by decide)⟩
    exact takeValue_eq_takeScalar (by decide) (by decide) (by decide) _

end Steps

end EventRoster.Json
