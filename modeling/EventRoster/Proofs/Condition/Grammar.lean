import EventRoster.Proofs.Condition.Forms

/-!
# The grammar of conditions

`Derives` has the rows of tokens that spell a condition, with the condition.  The reader takes exactly
those rows, with any blanks before their tokens and at the end of the text, and returns the condition
that is derived: `parse_eq_ok_iff`.

The two directions are two inductions over the same equations of the readers.  What the reader returns
is explained by induction on the text.  That a derived row is read goes by induction on the derivation,
and there a literal has to end where the row says, which the mark behind it or the end of the text sees
to.
-/

namespace EventRoster.Condition

open EventRoster.Text

/-! ## Derivations -/

/-- Further literals, each behind a comma, and the closing parenthesis. -/
inductive Others : List Text → List Scalar → Prop
  | close : Others [")"] []
  | comma {token : Text} {tokens : List Text} {v : Scalar} {vs : List Scalar}
      (literal : Denotes token v) (more : Others tokens vs) : Others ("," :: token :: tokens) (v :: vs)

mutual

/-- A row of tokens spells a condition. -/
inductive Derives : List Text → Condition → Prop
  | alwaysTrue : Derives ["alwaysTrue", "(", ")"] (constant true)
  | alwaysFalse : Derives ["alwaysFalse", "(", ")"] (constant false)
  | not {tokens : List Text} {c : Condition} (inner : Derives tokens c) :
    Derives ("not" :: "(" :: (tokens ++ [(")" : Text)])) (not c)
  | all {tokens : List Text} {cs : List Condition} (parts : Parts tokens cs) :
    Derives ("and" :: "(" :: tokens) (all cs)
  | any {tokens : List Text} {cs : List Condition} (parts : Parts tokens cs) :
    Derives ("or" :: "(" :: tokens) (any cs)
  | equals {named token : Text} {name : Text} {v : Scalar} (string : IsString named name)
      (literal : Denotes token v) :
    Derives ["intrinsic", "(", named, ")", "=", token] (intrinsic name v [])
  | among {named token : Text} {tokens : List Text} {name : Text} {v : Scalar}
      {vs : List Scalar} (string : IsString named name) (literal : Denotes token v)
      (others : Others tokens vs) :
    Derives ("intrinsic" :: "(" :: named :: ":" :: token :: tokens) (intrinsic name v vs)

/-- The parts of a connective, and the closing parenthesis. -/
inductive Parts : List Text → List Condition → Prop
  | none : Parts [")"] []
  | some {tokens : List Text} {cs : List Condition} (several : Several tokens cs) : Parts tokens cs

/-- Parts with commas between them, and the closing parenthesis. -/
inductive Several : List Text → List Condition → Prop
  | last {tokens : List Text} {c : Condition} (part : Derives tokens c) :
    Several (tokens ++ [(")" : Text)]) [c]
  | comma {tokens more : List Text} {c : Condition} {cs : List Condition}
      (part : Derives tokens c) (others : Several more cs) :
    Several (tokens ++ ("," : Text) :: more) (c :: cs)

end

/-- A text is spelled by a row of tokens, with blanks before each of them and at the end. -/
def Spells (tokens : List Text) (text : Text) : Prop :=
  ∃ blanks, Spaced tokens text.toList blanks ∧ ∀ c ∈ blanks, isBlank c = true

/-- Every condition that is derived begins with the word of a form and its parenthesis. -/
theorem Derives.exists_form {tokens : List Text} {c : Condition} (h : Derives tokens c) :
    ∃ (f : Form) (more : List Text), tokens = f.word :: "(" :: more := by
  cases h with
  | alwaysTrue => exact ⟨.constant true, _, rfl⟩
  | alwaysFalse => exact ⟨.constant false, _, rfl⟩
  | not inner => exact ⟨.not, _, rfl⟩
  | all parts => exact ⟨.all, _, rfl⟩
  | any parts => exact ⟨.any, _, rfl⟩
  | equals string literal => exact ⟨.test, _, rfl⟩
  | among string literal others => exact ⟨.test, _, rfl⟩

/-! ## What is read is derived -/

theorem explains_takeOthers (s : List CodePoint) : Explains Others s (outcome (takeOthers s)) := by
  by_cases h : ∃ u, skipBlank s = .char ',' :: u
  · obtain ⟨u, front⟩ := h
    have less := length_lt_of_skipBlank front
    rw [outcome_takeOthers_of_comma front]
    refine .mark (by decide) front ((explains_takeLiteral u).bind ?_ ?_)
    · rintro _ v ⟨token, rfl, literal⟩
      exact ⟨[")"], [v], .comma literal .close⟩
    · rintro _ v rest returned ⟨token, rfl, literal⟩
      have less' := length_lt_of_outcome returned
      exact (explains_takeOthers rest).map fun more vs others => .comma literal others
  · rw [outcome_takeOthers_of_end fun u front => h ⟨u, front⟩]
    refine (explains_expect (by decide) s).map ?_
    rintro _ _ rfl
    exact .close
termination_by s.length

/-- What is read behind the name of an intrinsic makes a test of it. -/
theorem explains_afterName {named name : Text} (string : IsString named name) (s : List CodePoint) :
    Explains (fun tokens => Derives ("intrinsic" :: "(" :: named :: tokens)) s
      (afterName name s) := by
  by_cases h : ∃ u, skipBlank s = .char ':' :: u
  · obtain ⟨u, front⟩ := h
    rw [afterName_of_colon name front]
    refine .mark (by decide) front ((explains_takeLiteral u).bind ?_ ?_)
    · rintro _ v ⟨token, rfl, literal⟩
      exact ⟨[")"], _, .among string literal .close⟩
    · rintro _ v rest - ⟨token, rfl, literal⟩
      exact (explains_takeOthers rest).map fun more vs others => .among string literal others
  · rw [afterName_of_close name fun u front => h ⟨u, front⟩]
    refine (explains_expect (by decide) s).bind ?_ ?_
    · rintro _ _ rfl
      exact ⟨["=", "null"], _, .equals string .nullWord⟩
    · rintro _ _ rest - rfl
      refine (explains_expect (by decide) rest).bind ?_ ?_
      · rintro _ _ rfl
        exact ⟨["null"], _, .equals string .nullWord⟩
      · rintro _ _ rest' - rfl
        refine (explains_takeLiteral rest').map ?_
        rintro _ v ⟨token, rfl, literal⟩
        exact .equals string literal

theorem explains_takeIntrinsic (s : List CodePoint) :
    Explains (fun tokens => Derives ("intrinsic" :: "(" :: tokens)) s
      (outcome (takeIntrinsic s)) := by
  rw [outcome_takeIntrinsic]
  refine (explains_takeName s).bind ?_ ?_
  · rintro _ name ⟨named, rfl, string⟩
    exact ⟨[")", "=", "null"], _, .equals string .nullWord⟩
  · rintro _ name rest - ⟨named, rfl, string⟩
    exact explains_afterName string rest

mutual

/-- **What is read as a condition is derived.** -/
theorem explains_takeCondition (s : List CodePoint) :
    Explains Derives s (outcome (takeCondition s)) := by
  rcases takeCondition_cases s with ⟨complaint, left, eq, bound⟩ | ⟨f, v, spaced, less, eq⟩
  · rw [eq]
    exact bound
  · have short : ∀ token ∈ [f.word, "("], ¬IsLong token :=
      List.forall_mem_cons.2 ⟨f.not_isLong, List.forall_mem_singleton.2 (not_isLong (by decide))⟩
    rw [eq]
    refine .behind (D := fun tokens => Derives (f.word :: "(" :: tokens)) spaced short ?_
      fun _ _ derived => derived
    cases f with
    | constant value =>
      rw [Form.read, outcome_takeConstant]
      refine (explains_expect (by decide) v).map ?_
      rintro _ _ rfl
      cases value with
      | true => exact .alwaysTrue
      | false => exact .alwaysFalse
    | not =>
      refine (explains_takeCondition v).bind (fun tokens c inner => ⟨[")"], _, .not inner⟩) ?_
      rintro tokens c rest - inner
      refine (explains_expect (by decide) rest).map ?_
      rintro _ _ rfl
      exact .not inner
    | all => exact (explains_takeParts v).map fun tokens cs parts => .all parts
    | any => exact (explains_takeParts v).map fun tokens cs parts => .any parts
    | test => exact explains_takeIntrinsic v
termination_by (s.length, 0)

theorem explains_takeParts (s : List CodePoint) : Explains Parts s (outcome (takeParts s)) := by
  by_cases h : ∃ u, skipBlank s = .char ')' :: u
  · obtain ⟨u, front⟩ := h
    rw [outcome_takeParts_of_close front]
    exact ⟨[")"], .none, meets_mark (by decide) front .nil⟩
  · rw [outcome_takeParts_of_open fun u front => h ⟨u, front⟩]
    exact (explains_takeSeveral s).behind .nil (List.forall_mem_nil _) fun tokens cs => .some
termination_by (s.length, 2)

theorem explains_takeSeveral (s : List CodePoint) : Explains Several s (outcome (takeSeveral s)) := by
  rw [outcome_takeSeveral]
  refine (explains_takeCondition s).bind (fun tokens c part => ⟨[")"], _, .last part⟩) ?_
  intro tokens c rest returned part
  have less := length_lt_of_outcome returned
  by_cases h : ∃ u, skipBlank rest = .char ',' :: u
  · obtain ⟨u, front⟩ := h
    have less' := length_lt_of_skipBlank front
    rw [afterPart_of_comma c front]
    exact .mark (by decide) front
      ((explains_takeSeveral u).map fun more cs others => .comma part others)
  · rw [afterPart_of_end c fun u front => h ⟨u, front⟩]
    refine (explains_expect (by decide) rest).map ?_
    rintro _ _ rfl
    exact .last part
termination_by (s.length, 1)

end

/-! ## What is derived is read -/

section Complete

variable {tokens more : List Text} {s u : List CodePoint} {found : Except Nat (List CodePoint)}

theorem skipBlank_ne {c d : CodePoint} (h : skipBlank s = c :: u) (ne : c ≠ d) (v : List CodePoint) :
    skipBlank s ≠ d :: v := by
  rw [h]
  rintro ⟨⟩
  exact ne rfl

/-- The word of a form is found behind the blanks. -/
theorem Meets.word (f : Form) (h : Meets (f.word :: tokens) s found) :
    ∃ u, skipBlank s = f.word.toList ++ u ∧ Meets tokens u found := by
  obtain ⟨nonempty, letters⟩ := f.word_letters
  have visible : Bars isBlank f.word.toList := fun c hc =>
    isBlank_of_isLetter (List.all_eq_true.1 letters c (List.mem_of_mem_head? hc))
  exact h.skipBlank_eq visible nonempty f.not_isLong

/-- A row that begins with the word of a form is read as that form. -/
theorem Meets.form (f : Form) (h : Meets (f.word :: "(" :: tokens) s found) :
    ∃ u, Meets tokens u found ∧ outcome (takeCondition s) = f.read u := by
  obtain ⟨u, front, met⟩ := h.word f
  obtain ⟨v, opened, met'⟩ := met.mark (c := '(') (by decide)
  exact ⟨v, met', outcome_takeCondition_of_form f front opened⟩

/-- Parts do not begin with the parenthesis that closes them. -/
theorem Several.skipBlank_ne {cs : List Condition} (h : Several tokens cs)
    (met : Meets tokens s found) (v : List CodePoint) : skipBlank s ≠ .char ')' :: v := by
  obtain ⟨f, more, rfl⟩ : ∃ (f : Form) (more : List Text), tokens = f.word :: more := by
    cases h with
    | last part =>
      obtain ⟨f, more, rfl⟩ := part.exists_form
      exact ⟨f, _, rfl⟩
    | comma part others =>
      obtain ⟨f, more, rfl⟩ := part.exists_form
      exact ⟨f, _, rfl⟩
  obtain ⟨u, front, -⟩ := met.word f
  obtain ⟨nonempty, letters⟩ := f.word_letters
  obtain ⟨c, cs, eq⟩ := List.exists_cons_of_ne_nil nonempty
  rw [eq, List.all_cons, Bool.and_eq_true] at letters
  rw [front, eq]
  rintro ⟨⟩
  exact absurd letters.1 (by decide)

/-- A row of the closing parenthesis is met up to it. -/
theorem Meets.close (h : Meets [")"] s found) : ∃ u, skipBlank s = .char ')' :: u ∧ found = .ok u := by
  obtain ⟨u, front, met⟩ := h.mark (c := ')') (by decide)
  cases met
  exact ⟨u, front, rfl⟩

theorem Others.bars {vs : List Scalar} (h : Others tokens vs) (met : Meets tokens s found) :
    Bars continues s := by
  cases h with
  | close => exact met.bars (c := ')') (by decide)
  | comma literal others => exact met.bars (c := ',') (by decide)

theorem Others.outcome_eq {vs : List Scalar} (h : Others tokens vs) (met : Meets tokens s found) :
    outcome (takeOthers s) = answer vs found := by
  induction h generalizing s with
  | close =>
    obtain ⟨u, front, rfl⟩ := met.close
    rw [outcome_takeOthers_of_end (skipBlank_ne front (by decide)), outcome_expect front]
    rfl
  | @comma token tokens v vs literal others ih =>
    obtain ⟨u, front, met'⟩ := met.mark (c := ',') (by decide)
    rw [outcome_takeOthers_of_comma front]
    have row : Meets ([token] ++ tokens) u found := met'
    refine bind_eq_answer row (fun _ => literal.outcome_eq)
      (fun _ => others.bars) fun u' met'' => ?_
    rw [ih met'', map_answer]

theorem outcome_takeIntrinsic_equals {named token name : Text} {v : Scalar}
    (string : IsString named name) (literal : Denotes token v)
    (met : Meets [named, ")", "=", token] s found) (ends : Ends found) :
    outcome (takeIntrinsic s) = answer (intrinsic name v []) found := by
  rw [outcome_takeIntrinsic]
  have row : Meets ([named] ++ [(")" : Text), "=", token]) s found := met
  refine bind_eq_answer row (fun _ met' _ => outcome_takeName_eq string met')
    (fun _ met' => met'.bars (c := ')') (by decide)) fun u met' => ?_
  obtain ⟨u', front, met''⟩ := met'.mark (c := ')') (by decide)
  obtain ⟨u'', front', last⟩ := met''.mark (c := '=') (by decide)
  rw [afterName_of_close name (skipBlank_ne front (by decide)), outcome_expect front]
  show (outcome (expect '=' u')).bind _ = _
  rw [outcome_expect front']
  show (outcome (takeLiteral u'')).map _ = _
  rw [literal.outcome_eq last ends, map_answer]

theorem outcome_takeIntrinsic_among {named token name : Text} {v : Scalar} {vs : List Scalar}
    (string : IsString named name) (literal : Denotes token v) (others : Others tokens vs)
    (met : Meets (named :: ":" :: token :: tokens) s found) :
    outcome (takeIntrinsic s) = answer (intrinsic name v vs) found := by
  rw [outcome_takeIntrinsic]
  have row : Meets ([named] ++ (":" : Text) :: token :: tokens) s found := met
  refine bind_eq_answer row (fun _ met' _ => outcome_takeName_eq string met')
    (fun _ met' => met'.bars (c := ':') (by decide)) fun u met' => ?_
  obtain ⟨u', front, met''⟩ := met'.mark (c := ':') (by decide)
  rw [afterName_of_colon name front]
  have behind : Meets ([token] ++ tokens) u' found := met''
  refine bind_eq_answer behind (fun _ => literal.outcome_eq)
    (fun _ => others.bars) fun u'' last => ?_
  rw [others.outcome_eq last, map_answer]

/-- A constant condition is read where its row is met. -/
theorem outcome_takeCondition_constant (value : Bool)
    (met : Meets [(Form.constant value).word, "(", ")"] s found) :
    outcome (takeCondition s) = answer (constant value) found := by
  obtain ⟨u, met', eq⟩ := met.form
  obtain ⟨v, front, rfl⟩ := met'.close
  rw [eq, Form.read, outcome_takeConstant, outcome_expect front]
  rfl

mutual

/-- **A derived row is read as its condition**, if it ends where a literal could. -/
theorem Derives.outcome_eq {tokens : List Text} {c : Condition} (h : Derives tokens c)
    {s : List CodePoint} {found : Except Nat (List CodePoint)} (met : Meets tokens s found)
    (ends : Ends found) : outcome (takeCondition s) = answer c found := by
  match h with
  | .alwaysTrue => exact outcome_takeCondition_constant true met
  | .alwaysFalse => exact outcome_takeCondition_constant false met
  | .not inner =>
    obtain ⟨u, met', eq⟩ := met.form .not
    rw [eq]
    refine bind_eq_answer met' (fun _ => inner.outcome_eq)
      (fun _ last => last.bars (c := ')') (by decide)) fun u' last => ?_
    obtain ⟨v, front, rfl⟩ := last.close
    rw [outcome_expect front]
    rfl
  | .all parts =>
    obtain ⟨u, met', eq⟩ := met.form .all
    rw [eq, Form.read, parts.outcome_eq met', map_answer]
  | .any parts =>
    obtain ⟨u, met', eq⟩ := met.form .any
    rw [eq, Form.read, parts.outcome_eq met', map_answer]
  | .equals string literal =>
    obtain ⟨u, met', eq⟩ := met.form .test
    rw [eq]
    exact outcome_takeIntrinsic_equals string literal met' ends
  | .among string literal others =>
    obtain ⟨u, met', eq⟩ := met.form .test
    rw [eq]
    exact outcome_takeIntrinsic_among string literal others met'

theorem Parts.outcome_eq {tokens : List Text} {cs : List Condition} (h : Parts tokens cs)
    {s : List CodePoint} {found : Except Nat (List CodePoint)} (met : Meets tokens s found) :
    outcome (takeParts s) = answer cs found := by
  match h with
  | .none =>
    obtain ⟨u, front, rfl⟩ := met.close
    exact outcome_takeParts_of_close front
  | .some several =>
    rw [outcome_takeParts_of_open (several.skipBlank_ne met)]
    exact several.outcome_eq met

theorem Several.outcome_eq {tokens : List Text} {cs : List Condition} (h : Several tokens cs)
    {s : List CodePoint} {found : Except Nat (List CodePoint)} (met : Meets tokens s found) :
    outcome (takeSeveral s) = answer cs found := by
  rw [outcome_takeSeveral]
  match h with
  | .last part =>
    refine bind_eq_answer met (fun _ => part.outcome_eq)
      (fun _ last => last.bars (c := ')') (by decide)) fun u last => ?_
    obtain ⟨v, front, rfl⟩ := last.close
    rw [afterPart_of_end _ (skipBlank_ne front (by decide)), outcome_expect front]
    rfl
  | .comma part others =>
    refine bind_eq_answer met (fun _ => part.outcome_eq)
      (fun _ last => last.bars (c := ',') (by decide)) fun u last => ?_
    obtain ⟨v, front, met'⟩ := last.mark (c := ',') (by decide)
    rw [afterPart_of_comma _ front, others.outcome_eq met', map_answer]

end

end Complete

/-! ## Whole texts -/

theorem skipBlank_eq_nil_iff {s : List CodePoint} : skipBlank s = [] ↔ ∀ c ∈ s, isBlank c = true := by
  rw [skipBlank, List.dropWhile_eq_nil_iff]

/-- What is read of a text is what its condition is read as, unless something is left behind it. -/
theorem read_eq (s : List CodePoint) :
    read s = (outcome (takeCondition s)).bind fun condition =>
      if skipBlank condition.2 = [] then .ok condition.1
      else .error (misreadAt .trailingInput condition.2) := by
  rw [read]
  cases takeCondition s with
  | error e => rfl
  | ok condition =>
    show _ = if skipBlank condition.rest = [] then _ else _
    cases eq : skipBlank condition.rest with
    | nil =>
      rw [if_pos rfl]
      simp only [peek?_eq_none eq]
      rfl
    | cons c u =>
      obtain ⟨shorter, peeks⟩ := peek?_of_skipBlank eq
      rw [if_neg (List.cons_ne_nil c u)]
      simp only [peeks]
      rfl

theorem read_eq_ok_iff {s : List CodePoint} {c : Condition} :
    read s = .ok c ↔ ∃ rest, outcome (takeCondition s) = .ok (c, rest) ∧ skipBlank rest = [] := by
  rw [read_eq]
  match outcome (takeCondition s) with
  | .error e =>
    constructor
    · rintro ⟨⟩
    · rintro ⟨rest, ⟨⟩, -⟩
  | .ok (d, rest) =>
    show (if skipBlank rest = [] then _ else _) = _ ↔ _
    split
    · next none =>
      constructor
      · rintro ⟨⟩
        exact ⟨rest, rfl, none⟩
      · rintro ⟨_, ⟨⟩, -⟩
        rfl
    · next some =>
      constructor
      · rintro ⟨⟩
      · rintro ⟨_, ⟨⟩, none⟩
        exact absurd none some

theorem parse_eq_ok_iff_read {t : Text} {c : Condition} :
    parse t = .ok c ↔ read t.toList = .ok c := by
  rw [parse]
  cases read t.toList with
  | ok d =>
    constructor
    · rintro ⟨⟩
      rfl
    · rintro ⟨⟩
      rfl
  | error e =>
    constructor
    · rintro ⟨⟩
    · rintro ⟨⟩

/-- What is read as a condition is a derived row with blanks behind it, and the other way round. -/
theorem read_eq_ok_iff_meets {s : List CodePoint} {c : Condition} :
    read s = .ok c ↔ ∃ tokens blanks, Derives tokens c ∧ Meets tokens s (.ok blanks) ∧
      ∀ b ∈ blanks, isBlank b = true := by
  rw [read_eq_ok_iff]
  constructor
  · rintro ⟨rest, returned, blank⟩
    have explained := explains_takeCondition s
    rw [returned] at explained
    obtain ⟨tokens, derived, met⟩ := explained
    exact ⟨tokens, rest, derived, met, skipBlank_eq_nil_iff.1 blank⟩
  · rintro ⟨tokens, blanks, derived, met, blank⟩
    have ends : Ends (.ok blanks) := by
      rintro _ ⟨⟩
      have last := bars_continues_append blank bars_nil
      rwa [List.append_nil] at last
    exact ⟨blanks, derived.outcome_eq met ends, skipBlank_eq_nil_iff.2 blank⟩

/-- **The reader accepts exactly its grammar.**  A text is read as a condition if and only if it is
spelled by a row of tokens from which that condition is derived, with any blanks before the tokens and
at the end, and none of the tokens is an integer with too many digits.  The condition is that of the
tokens, so the blanks have no say in it. -/
theorem parse_eq_ok_iff {t : Text} {c : Condition} :
    parse t = .ok c ↔
      ∃ tokens, Derives tokens c ∧ Spells tokens t ∧ ∀ token ∈ tokens, ¬IsLong token := by
  rw [parse_eq_ok_iff_read, read_eq_ok_iff_meets]
  constructor
  · rintro ⟨tokens, blanks, derived, met, blank⟩
    obtain ⟨spaced, short⟩ := meets_ok_iff.1 met
    exact ⟨tokens, derived, ⟨blanks, spaced, blank⟩, short⟩
  · rintro ⟨tokens, derived, ⟨blanks, spaced, blank⟩, short⟩
    exact ⟨tokens, blanks, derived, meets_ok_iff.2 ⟨spaced, short⟩, blank⟩

end EventRoster.Condition
