import EventRoster.Proofs.Json.Steps

/-!
# The grammar of JSON

`Denotes` says which texts spell which values, `Padded` the same with blanks around the value, and
`Written` which texts are the members of an object, in the order and as often as they are written there.
An object binds each name to the value of its last member.

The reader of JSON accepts exactly what the grammar derives (`readText_eq_ok_iff`), with the value that is
derived.  What is read is derived by recursion along the readers; what is derived is read by recursion
along the derivation, with any text behind it that does not go on with what could belong to a number.
-/

namespace EventRoster.Json

open EventRoster.Text

/-- A name in an object, with blanks around it. -/
inductive IsName : List CodePoint → Text → Prop
  | mk {before inside value after : List CodePoint} (leading : IsBlank before)
      (spelled : Text.Spells inside value) (trailing : IsBlank after) :
    IsName (before ++ .char '"' :: (inside ++ .char '"' :: after)) (Text.ofList value)

mutual

/-- The texts of values. -/
inductive Denotes : List CodePoint → Json → Prop
  | word {s : List CodePoint} {v : Json} (listed : (s, v) ∈ words) : Denotes s v
  | number {l : Number.Literal} {n : Number.Value} {s : List CodePoint} (spelled : l.IsWrittenAs s)
      (valued : l.value = .ok n) : Denotes s (ofNumber n)
  | text {inside value : List CodePoint} (spelled : Text.Spells inside value) :
    Denotes (.char '"' :: (inside ++ [.char '"'])) (.text (Text.ofList value))
  | emptyArray {s : List CodePoint} (blank : IsBlank s) :
    Denotes (.char '[' :: (s ++ [.char ']'])) (.array [])
  | array {s : List CodePoint} {vs : List Json} (items : Items s vs) :
    Denotes (.char '[' :: (s ++ [.char ']'])) (.array vs)
  | emptyObject {s : List CodePoint} (blank : IsBlank s) :
    Denotes (.char '{' :: (s ++ [.char '}'])) (.object [])
  | object {s : List CodePoint} {ms : Members} (members : Written s ms) :
    Denotes (.char '{' :: (s ++ [.char '}'])) (.object (merge [] ms))

/-- The texts of values with blanks around them. -/
inductive Padded : List CodePoint → Json → Prop
  | mk {before t after : List CodePoint} {v : Json} (leading : IsBlank before) (value : Denotes t v)
      (trailing : IsBlank after) : Padded (before ++ (t ++ after)) v

/-- The texts of one or more values with commas between them. -/
inductive Items : List CodePoint → List Json → Prop
  | last {s : List CodePoint} {v : Json} (item : Padded s v) : Items s [v]
  | more {s t : List CodePoint} {v : Json} {vs : List Json} (item : Padded s v) (items : Items t vs) :
    Items (s ++ .char ',' :: t) (v :: vs)

/-- The texts of one or more members with commas between them. -/
inductive Written : List CodePoint → Members → Prop
  | last {n s : List CodePoint} {name : Text} {v : Json} (named : IsName n name) (value : Padded s v) :
    Written (n ++ .char ':' :: s) [(name, v)]
  | more {n s t : List CodePoint} {name : Text} {v : Json} {ms : Members} (named : IsName n name)
      (value : Padded s v) (members : Written t ms) :
    Written (n ++ .char ':' :: (s ++ .char ',' :: t)) ((name, v) :: ms)

end

/-! ## Blanks in front -/

section Blanks

variable {a s : List CodePoint}

theorem Padded.append_left {v : Json} (h : IsBlank a) (padded : Padded s v) : Padded (a ++ s) v := by
  obtain ⟨leading, value, trailing⟩ := padded
  rw [← List.append_assoc]
  exact .mk (h.append leading) value trailing

theorem Items.append_left {vs : List Json} (h : IsBlank a) (items : Items s vs) :
    Items (a ++ s) vs := by
  cases items with
  | last item => exact .last (item.append_left h)
  | more item items =>
    rw [← List.append_assoc]
    exact .more (item.append_left h) items

theorem IsName.append_left {name : Text} (h : IsBlank a) (named : IsName s name) :
    IsName (a ++ s) name := by
  obtain ⟨leading, spelled, trailing⟩ := named
  rw [← List.append_assoc]
  exact .mk (h.append leading) spelled trailing

theorem Written.append_left {ms : Members} (h : IsBlank a) (members : Written s ms) :
    Written (a ++ s) ms := by
  cases members with
  | last named value =>
    rw [← List.append_assoc]
    exact .last (named.append_left h) value
  | more named value members =>
    rw [← List.append_assoc]
    exact .more (named.append_left h) value members

end Blanks

/-! ## What is read is derived -/

section Sound

theorem denotes_of_takeScalar {s rest : List CodePoint} {v : Json} (h : Took (takeScalar s) v rest) :
    ∃ t, Denotes t v ∧ s = t ++ rest := by
  obtain ⟨shorter, h⟩ := h
  unfold takeScalar at h
  split at h
  · next value left found =>
    cases h
    obtain ⟨⟨word, v⟩, listed, front⟩ := List.exists_of_findSome?_eq_some found
    obtain ⟨left, behind, eq⟩ := Option.map_eq_some_iff.1 front
    cases eq
    exact ⟨word, .word listed, after?_eq_some_iff.1 behind⟩
  · split at h
    · cases h
    · next literal taken =>
      obtain ⟨t, spelled, eq⟩ :=
        (Number.takeNumber?_eq_some_iff.1 ⟨literal.shorter, taken⟩).written
      split at h
      · cases h
      · next n valued =>
        cases h
        exact ⟨t, .number spelled valued, eq⟩

mutual

/-- **A value that is read is derived** from what was taken. -/
theorem denotes_of_takeValue {s rest : List CodePoint} {v : Json} (h : Took (takeValue s) v rest) :
    ∃ t, Denotes t v ∧ s = t ++ rest := by
  cases s with
  | nil =>
    rw [takeValue] at h
    obtain ⟨shorter, ⟨⟩⟩ := h
  | cons c s =>
    have inside : (skipSpace s).length < (c :: s).length :=
      Nat.lt_succ_of_le (skipSpace_length_le s)
    obtain ⟨a, blank, eq⟩ := exists_isBlank_append_skipSpace s
    by_cases quote : c = '"'
    · subst quote
      obtain ⟨name, string, rfl⟩ := took_takeValue_quote_iff.1 h
      obtain ⟨inside, value, spelled, rfl, front⟩ := took_takeString_iff.1 string
      refine ⟨.char '"' :: (inside ++ [.char '"']), .text spelled, ?_⟩
      rw [front, List.cons_append, List.append_assoc, List.singleton_append]
    by_cases bracket : c = '['
    · subst bracket
      replace h := took_takeValue_bracket_iff.1 h
      split at h
      · next closed empty =>
        obtain ⟨rfl, left⟩ := h
        obtain ⟨b, blank', eq'⟩ := exists_of_takeEmpty? empty
        rw [← left] at eq'
        refine ⟨.char '[' :: (b ++ [.char ']']), .emptyArray blank', ?_⟩
        rw [eq', List.cons_append, List.append_assoc, List.singleton_append]
      · obtain ⟨vs, reads, rfl⟩ := h
        obtain ⟨t, items, front⟩ := items_of_takeItems reads
        refine ⟨.char '[' :: (a ++ t ++ [.char ']']), .array (items.append_left blank), ?_⟩
        rw [eq, front]
        simp only [List.cons_append, List.append_assoc, List.nil_append]
    by_cases brace : c = '{'
    · subst brace
      replace h := took_takeValue_brace_iff.1 h
      split at h
      · next closed empty =>
        obtain ⟨rfl, left⟩ := h
        obtain ⟨b, blank', eq'⟩ := exists_of_takeEmpty? empty
        rw [← left] at eq'
        refine ⟨.char '{' :: (b ++ [.char '}']), .emptyObject blank', ?_⟩
        rw [eq', List.cons_append, List.append_assoc, List.singleton_append]
      · obtain ⟨members, reads, rfl⟩ := h
        obtain ⟨t, ms, written, rfl, front⟩ := written_of_takeMembers reads
        refine ⟨.char '{' :: (a ++ t ++ [.char '}']), .object (written.append_left blank), ?_⟩
        rw [eq, front]
        simp only [List.cons_append, List.append_assoc, List.nil_append]
    rw [takeValue_eq_takeScalar quote bracket brace] at h
    exact denotes_of_takeScalar h
termination_by (s.length, 1)

theorem items_of_takeItems {s rest : List CodePoint} {vs : List Json} (h : Took (takeItems s) vs rest) :
    ∃ t, Items t vs ∧ s = t ++ .char ']' :: rest := by
  obtain ⟨v, behind, closed, left, item, separated, others⟩ := took_takeItems_iff.1 h
  have shorter := Nat.lt_trans separated.shorter item.shorter
  obtain ⟨t, derived, rfl⟩ := denotes_of_takeValue item
  obtain ⟨a, blank, mark⟩ := exists_of_takeSeparator separated
  have padded : Padded (t ++ a) v := .mk .nil derived blank
  cases closed with
  | true =>
    obtain ⟨rfl, rfl⟩ := others
    rw [if_pos rfl] at mark
    refine ⟨t ++ a, .last padded, ?_⟩
    rw [mark, List.append_assoc]
  | false =>
    obtain ⟨more, reads, rfl⟩ := others
    rw [if_neg Bool.false_ne_true] at mark
    obtain ⟨b, blank', -, rfl⟩ := mark
    obtain ⟨t', items, rfl⟩ := items_of_takeItems reads
    refine ⟨t ++ a ++ .char ',' :: (b ++ t'), .more padded (items.append_left blank'), ?_⟩
    simp only [List.append_assoc, List.cons_append]
termination_by (s.length, 2)

theorem written_of_takeMembers {s rest : List CodePoint} {bound members : Members}
    (h : Took (takeMembers bound s) members rest) :
    ∃ t ms, Written t ms ∧ members = merge bound ms ∧ s = t ++ .char '}' :: rest := by
  obtain ⟨name, afterName, afterColon, v, behind, closed, left, named, colon, item, separated, others⟩ :=
    took_takeMembers_iff.1 h
  have inner := Nat.lt_trans colon.shorter named.shorter
  have shorter := Nat.lt_trans (Nat.lt_trans separated.shorter item.shorter) inner
  obtain ⟨inside, value, spelled, rfl, rfl⟩ := took_takeString_iff.1 named
  obtain ⟨a, b, blankA, blankB, -, rfl⟩ := took_takeColon_iff.1 colon
  obtain ⟨t, derived, rfl⟩ := denotes_of_takeValue item
  obtain ⟨c, blankC, mark⟩ := exists_of_takeSeparator separated
  have isName : IsName (.char '"' :: (inside ++ .char '"' :: a)) (Text.ofList value) :=
    @IsName.mk [] inside value a .nil spelled blankA
  have padded : Padded (b ++ (t ++ c)) v := .mk blankB derived blankC
  cases closed with
  | true =>
    obtain ⟨rfl, rfl⟩ := others
    rw [if_pos rfl] at mark
    refine ⟨_, _, .last isName padded, rfl, ?_⟩
    rw [mark]
    simp only [List.append_assoc, List.cons_append]
  | false =>
    rw [if_neg Bool.false_ne_true] at mark
    obtain ⟨d, blankD, rfl⟩ := mark
    obtain ⟨t', ms, written, rfl, rfl⟩ := written_of_takeMembers others
    refine ⟨_, _, .more isName padded (written.append_left blankD), rfl, ?_⟩
    simp only [List.append_assoc, List.cons_append]
termination_by (s.length, 2)

end

end Sound

/-! ## What is derived is read -/

section Complete

variable {s t rest : List CodePoint} {v : Json}

theorem took_takeScalar_of_word (h : takeWord? s = some (v, rest)) : Took (takeScalar s) v rest := by
  unfold takeScalar
  split
  · next value left found =>
    rw [h] at found
    cases found
    exact ⟨_, rfl⟩
  · next none => rw [h] at none; cases none

/-- A word is taken, and does not begin like a string, array or object. -/
theorem took_takeValue_word (listed : (t, v) ∈ words) (rest : List CodePoint) :
    Took (takeValue (t ++ rest)) v rest := by
  have reads : ∀ (c : CodePoint) (u : List CodePoint), c ≠ '"' → c ≠ '[' → c ≠ '{' →
      takeWord? (c :: u) = some (v, rest) → Took (takeValue (c :: u)) v rest := by
    intro c u quote bracket brace word
    rw [takeValue_eq_takeScalar quote bracket brace]
    exact took_takeScalar_of_word word
  simp only [words, List.mem_cons, List.not_mem_nil, or_false, Prod.mk.injEq] at listed
  obtain ⟨rfl, rfl⟩ | ⟨rfl, rfl⟩ | ⟨rfl, rfl⟩ | ⟨rfl, rfl⟩ | ⟨rfl, rfl⟩ | ⟨rfl, rfl⟩ := listed <;>
    exact reads _ _ (by decide) (by decide) (by decide) rfl

/-- A number is taken if what follows could not belong to it. -/
theorem took_takeValue_number {l : Number.Literal} {n : Number.Value} (spelled : l.IsWrittenAs t)
    (valued : l.value = .ok n) (bars : Bars (CodePoint.is Number.goesOn) rest) :
    Took (takeValue (t ++ rest)) (ofNumber n) rest := by
  obtain ⟨scalar, word, -⟩ := takeValue_number spelled rest
  obtain ⟨shorter, taken⟩ := Number.takeNumber?_of_isWrittenAs spelled bars
  rw [scalar, takeScalar]
  split
  · next found => rw [word] at found; cases found
  · rw [taken]
    simp only [valued]
    exact ⟨_, rfl⟩

/-- A value begins with a character that is no blank, closes no array and is no byte order mark. -/
theorem Denotes.front (h : Denotes t v) :
    ∃ c u, t = c :: u ∧ isSpace c = false ∧ c ≠ ']' ∧ c ≠ '\ufeff' := by
  cases h with
  | word listed =>
    simp only [words, List.mem_cons, List.not_mem_nil, or_false, Prod.mk.injEq] at listed
    obtain ⟨rfl, rfl⟩ | ⟨rfl, rfl⟩ | ⟨rfl, rfl⟩ | ⟨rfl, rfl⟩ | ⟨rfl, rfl⟩ | ⟨rfl, rfl⟩ := listed <;>
      exact ⟨_, _, rfl, by decide, by decide, by decide⟩
  | number spelled valued =>
    have space := (takeValue_number spelled []).2.2
    rw [List.append_nil] at space
    obtain ⟨d, u, digit, rfl | rfl⟩ := spelled.exists_eq_digit
    · refine ⟨d, u, rfl, bars_cons.1 space, ?_, ?_⟩
      · rintro ⟨⟩
        cases digit
      · rintro ⟨⟩
        cases digit
    · exact ⟨'-', d :: u, rfl, by decide, by decide, by decide⟩
  | text | emptyArray | array | emptyObject | object =>
    exact ⟨_, _, rfl, by decide, by decide, by decide⟩

theorem Denotes.bars (h : Denotes t v) (rest : List CodePoint) : Bars isSpace (t ++ rest) := by
  obtain ⟨c, u, rfl, visible, -, -⟩ := h.front
  exact bars_cons.2 visible

/-- Items do not begin like the end of the array. -/
theorem Items.takeEmpty?_eq_none {vs : List Json} (h : Items s vs) (rest : List CodePoint) :
    takeEmpty? ']' (s ++ rest) = none := by
  have padded : ∀ {p : List CodePoint} {w : Json}, Padded p w → ∀ u, takeEmpty? ']' (p ++ u) = none := by
    rintro _ _ ⟨leading, value, trailing⟩ u
    obtain ⟨c, t, rfl, visible, other, -⟩ := value.front
    rw [List.append_assoc, List.append_assoc, List.cons_append]
    obtain ⟨shorter, empty⟩ := takeEmpty?_append ']' leading visible _
    rw [empty, if_neg other]
  cases h with
  | last item => exact padded item rest
  | more item items =>
    rw [List.append_assoc]
    exact padded item _

/-- Members begin with the quote of a name. -/
theorem IsName.takeEmpty?_eq_none {name : Text} (h : IsName s name) (rest : List CodePoint) :
    takeEmpty? '}' (s ++ rest) = none := by
  obtain ⟨leading, spelled, trailing⟩ := h
  rw [List.append_assoc, List.cons_append]
  obtain ⟨shorter, empty⟩ := takeEmpty?_append '}' leading (c := '"') (by decide) _
  rw [empty]
  exact if_neg (by decide)

theorem Written.takeEmpty?_eq_none {ms : Members} (h : Written s ms) (rest : List CodePoint) :
    takeEmpty? '}' (s ++ rest) = none := by
  cases h with
  | last named value =>
    rw [List.append_assoc]
    exact named.takeEmpty?_eq_none _
  | more named value members =>
    rw [List.append_assoc]
    exact named.takeEmpty?_eq_none _

/-- A name is taken with its colon. -/
theorem IsName.took {name : Text} (h : IsName s name) (rest : List CodePoint) :
    ∃ behind, Took (takeString .expectingName (skipSpace (s ++ .char ':' :: rest))) name behind ∧
      Took (takeColon behind) () (skipSpace rest) := by
  obtain @⟨before, inside, value, after, leading, spelled, trailing⟩ := h
  obtain ⟨b, blank, eq⟩ := exists_isBlank_append_skipSpace rest
  refine ⟨after ++ .char ':' :: rest, ?_, ?_⟩
  · rw [List.append_assoc, List.cons_append, skipSpace_append leading (bars_cons.2 (by decide))]
    refine took_takeString_iff.2 ⟨inside, value, spelled, rfl, ?_⟩
    rw [List.append_assoc, List.cons_append]
  · refine took_takeColon_iff.2 ⟨after, b, trailing, blank, bars_skipSpace rest, ?_⟩
    rw [← eq]

mutual

/-- **A value that is derived is read**, if what follows could not belong to a number. -/
theorem Denotes.took {t : List CodePoint} {v : Json} (h : Denotes t v) (rest : List CodePoint)
    (bars : Bars (CodePoint.is Number.goesOn) rest) : Took (takeValue (t ++ rest)) v rest := by
  match h with
  | .word listed => exact took_takeValue_word listed rest
  | .number spelled valued => exact took_takeValue_number spelled valued bars
  | .text spelled =>
    rw [List.cons_append, List.append_assoc, List.singleton_append]
    exact took_takeValue_quote_iff.2 ⟨_, took_takeString_iff.2 ⟨_, _, spelled, rfl, rfl⟩, rfl⟩
  | .emptyArray blank =>
    rw [List.cons_append, List.append_assoc, List.singleton_append]
    obtain ⟨shorter, empty⟩ := takeEmpty?_append ']' blank (c := ']') (by decide) rest
    refine took_takeValue_bracket_iff.2 ?_
    rw [empty]
    exact ⟨rfl, rfl⟩
  | .array items =>
    rw [List.cons_append, List.append_assoc, List.singleton_append]
    refine took_takeValue_bracket_iff.2 ?_
    rw [items.takeEmpty?_eq_none]
    exact ⟨_, items.took rest, rfl⟩
  | .emptyObject blank =>
    rw [List.cons_append, List.append_assoc, List.singleton_append]
    obtain ⟨shorter, empty⟩ := takeEmpty?_append '}' blank (c := '}') (by decide) rest
    refine took_takeValue_brace_iff.2 ?_
    rw [empty]
    exact ⟨rfl, rfl⟩
  | .object members =>
    rw [List.cons_append, List.append_assoc, List.singleton_append]
    refine took_takeValue_brace_iff.2 ?_
    rw [members.takeEmpty?_eq_none]
    exact ⟨_, members.took [] rest, rfl⟩

theorem Padded.took {s : List CodePoint} {v : Json} (h : Padded s v) (rest : List CodePoint)
    (bars : Bars (CodePoint.is Number.goesOn) rest) :
    ∃ b, IsBlank b ∧ Took (takeValue (skipSpace (s ++ rest))) v (b ++ rest) := by
  match h with
  | .mk leading value trailing =>
    refine ⟨_, trailing, ?_⟩
    rw [List.append_assoc, List.append_assoc, skipSpace_append leading (value.bars _)]
    exact value.took _ (bars_goesOn_append trailing bars)

theorem Items.took {s : List CodePoint} {vs : List Json} (h : Items s vs) (rest : List CodePoint) :
    Took (takeItems (skipSpace (s ++ .char ']' :: rest))) vs rest := by
  match h with
  | .last item =>
    obtain ⟨b, blank, took⟩ := item.took (.char ']' :: rest) (bars_cons.2 (by decide))
    have closed := took_takeSeparator_close (by decide : isSpace ']' = false) blank rest
    exact took_takeItems_iff.2 ⟨_, _, _, _, took, closed, rfl, rfl⟩
  | .more (t := t) item items =>
    obtain ⟨b, blank, took⟩ := item.took (.char ',' :: (t ++ .char ']' :: rest)) (bars_cons.2 (by decide))
    have comma := took_takeSeparator_comma (by decide : CodePoint.char ']' ≠ ',') blank
      (t ++ .char ']' :: rest)
    rw [List.append_assoc, List.cons_append]
    exact took_takeItems_iff.2 ⟨_, _, _, _, took, comma, _, items.took rest, rfl⟩

theorem Written.took {s : List CodePoint} {ms : Members} (h : Written s ms) (bound : Members)
    (rest : List CodePoint) :
    Took (takeMembers bound (skipSpace (s ++ .char '}' :: rest))) (merge bound ms) rest := by
  match h with
  | .last (s := s) named item =>
    obtain ⟨behind, name, colon⟩ := named.took (s ++ .char '}' :: rest)
    obtain ⟨b, blank, took⟩ := item.took (.char '}' :: rest) (bars_cons.2 (by decide))
    have closed := took_takeSeparator_close (by decide : isSpace '}' = false) blank rest
    rw [List.append_assoc, List.cons_append]
    exact took_takeMembers_iff.2 ⟨_, _, _, _, _, _, _, name, colon, took, closed, rfl, rfl⟩
  | .more (s := s) (t := t) named item members =>
    obtain ⟨behind, name, colon⟩ := named.took (s ++ .char ',' :: (t ++ .char '}' :: rest))
    obtain ⟨b, blank, took⟩ := item.took (.char ',' :: (t ++ .char '}' :: rest)) (bars_cons.2 (by decide))
    have comma := took_takeSeparator_comma (by decide : CodePoint.char '}' ≠ ',') blank
      (t ++ .char '}' :: rest)
    rw [List.append_assoc, List.cons_append, List.append_assoc, List.cons_append]
    exact took_takeMembers_iff.2
      ⟨_, _, _, _, _, _, _, name, colon, took, comma, members.took _ rest⟩

end

end Complete

/-! ## Whole texts -/

section Whole

variable {s : List CodePoint} {v : Json}

theorem read_eq_ok_iff : read s = .ok v ↔ Padded s v := by
  constructor
  · intro h
    unfold read at h
    split at h
    · cases h
    · next value reads =>
      obtain ⟨a, blank, eq⟩ := exists_isBlank_append_skipSpace s
      obtain ⟨t, derived, front⟩ := denotes_of_takeValue ⟨value.shorter, reads⟩
      obtain ⟨b, blank', eq'⟩ := exists_isBlank_append_skipSpace value.rest
      split at h
      · next none =>
        cases h
        rw [none, List.append_nil] at eq'
        have padded := Padded.mk blank derived blank'
        rw [← eq', ← front, ← eq] at padded
        exact padded
      · cases h
  · intro h
    obtain ⟨b, blank, shorter, reads⟩ := h.took [] bars_nil
    have nothing := skipSpace_append blank (s := []) bars_nil
    have reads := Took.of_eq (f := takeValue) ⟨shorter, reads⟩
      (congrArg skipSpace (List.append_nil s).symm)
    obtain ⟨shorter, reads⟩ := reads
    rw [read, reads]
    simp only [nothing]

/-- No value begins with a byte order mark. -/
theorem Padded.ne_mark (h : Padded s v) (u : List CodePoint) : s ≠ .char '\ufeff' :: u := by
  cases h with
  | @mk before t after v leading value trailing =>
    intro eq
    cases before with
    | nil =>
      obtain ⟨c, rest, rfl, -, -, other⟩ := value.front
      cases eq
      exact other rfl
    | cons c before =>
      have space := leading c List.mem_cons_self
      cases eq
      exact absurd space (by decide)

/-- **The reader of JSON accepts exactly the texts of the grammar**, with the values that they denote. -/
theorem readText_eq_ok_iff : readText s = .ok v ↔ Padded s v := by
  unfold readText
  split
  · next u =>
    constructor
    · rintro ⟨⟩
    · exact fun h => absurd rfl (h.ne_mark u)
  · exact read_eq_ok_iff

/-- A text denotes one value. -/
theorem Padded.unique {w : Json} (h : Padded s v) (h' : Padded s w) : v = w := by
  rw [← readText_eq_ok_iff] at h h'
  rw [h] at h'
  exact Except.ok.inj h'

end Whole

/-! ## Objects -/

/-- The texts of objects, with their members as they are written. -/
inductive IsObject : List CodePoint → Members → Prop
  | empty {a s b : List CodePoint} (leading : IsBlank a) (blank : IsBlank s) (trailing : IsBlank b) :
    IsObject (a ++ .char '{' :: (s ++ .char '}' :: b)) []
  | some {a s b : List CodePoint} {ms : Members} (leading : IsBlank a) (members : Written s ms)
      (trailing : IsBlank b) : IsObject (a ++ .char '{' :: (s ++ .char '}' :: b)) ms

/-- The value of the last member of a name. -/
def lastBound (members : Members) (name : Text) : Option Json :=
  get? members.reverse name

theorem get?_append (first second : Members) (name : Text) :
    get? (first ++ second) name = (get? first name).or (get? second name) := by
  induction first with
  | nil => rfl
  | cons member first ih =>
    obtain ⟨n, v⟩ := member
    rw [List.cons_append, get?, get?, ih]
    split <;> rfl

/-- An object binds the names of its members to their last values. -/
theorem get?_merge (base members : Members) (name : Text) :
    get? (merge base members) name = (lastBound members name).or (get? base name) := by
  induction members generalizing base with
  | nil => rfl
  | cons member members ih =>
    obtain ⟨n, v⟩ := member
    have single : get? [(n, v)] name = if n = name then some v else none := rfl
    show get? (merge (bind base n v) members) name = _
    rw [ih, get?_bind, lastBound, lastBound, List.reverse_cons, get?_append, single, Option.or_assoc]
    congr 1
    split <;> rfl

/-- The values that are objects are those of the texts of objects. -/
theorem padded_object_iff {s : List CodePoint} {bound : Members} :
    Padded s (.object bound) ↔ ∃ members, IsObject s members ∧ bound = merge [] members := by
  have shape : ∀ a u b : List CodePoint,
      a ++ (.char '{' :: (u ++ [.char '}']) ++ b) = a ++ .char '{' :: (u ++ .char '}' :: b) := by
    intro a u b
    rw [List.cons_append, List.append_assoc, List.singleton_append]
  constructor
  · intro h
    generalize object : Json.object bound = v at h
    obtain ⟨leading, value, trailing⟩ := h
    cases value with
    | word listed =>
      subst object
      simp [words] at listed
    | @number l n _ spelled valued => cases n <;> cases object
    | text | emptyArray | array => cases object
    | emptyObject blank =>
      cases object
      rw [shape]
      exact ⟨[], .empty leading blank trailing, rfl⟩
    | object members =>
      cases object
      rw [shape]
      exact ⟨_, .some leading members trailing, rfl⟩
  · rintro ⟨members, object, rfl⟩
    cases object with
    | empty leading blank trailing =>
      rw [← shape]
      exact .mk leading (.emptyObject blank) trailing
    | some leading members trailing =>
      rw [← shape]
      exact .mk leading (.object members) trailing

/-- **What is read as an object** is the text of one, and binds each name to its last value. -/
theorem readText_eq_ok_object_iff {s : List CodePoint} {bound : Members} :
    readText s = .ok (.object bound) ↔ ∃ members, IsObject s members ∧ bound = merge [] members := by
  rw [readText_eq_ok_iff, padded_object_iff]

end EventRoster.Json
