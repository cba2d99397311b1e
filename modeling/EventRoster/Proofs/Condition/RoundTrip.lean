import EventRoster.Condition.Refused
import EventRoster.Proofs.Condition.Forms

/-!
# Conditions are read back as they are written

The induction is on the tree, and what it carries along is the text behind the condition.  That text
must not go on with what could belong to a literal, because the test of an intrinsic against one
value ends in that value, with nothing to close it.  Inside a connective a comma or a parenthesis
follows, and at the end nothing does.

* `settled_of_outcome_eq_both`: two steps, one after the other, are settled as both are.
* `settled_takeIntrinsic_one` and `settled_takeIntrinsic_several`: the two forms of a test.
* `settled_takeCondition`: a condition in writing is read back if its values can be, and is refused
  otherwise.
* `parse_text_eq_ok`: the text of a condition with readable values is a text of that condition.
-/

namespace EventRoster.Condition

open EventRoster.Text

/-! ## The values of a condition -/

mutual

/-- The values that the intrinsics of a condition are tested against, from left to right. -/
def values : Condition → List Scalar
  | constant _ => []
  | not inner => values inner
  | all parts => listValues parts
  | any parts => listValues parts
  | intrinsic _ first others => first :: others

/-- The values in a list of conditions. -/
def listValues : List Condition → List Scalar
  | [] => []
  | part :: parts => values part ++ listValues parts

end

/-! ## Steps that are settled -/

section Steps

variable {α β γ : Type} {s s₂ s' rest rest₂ rest' : List CodePoint} {step : Step α s} {step₂ : Step β s₂}
  {step' : Step γ s'} {good good₂ : Bool} {a : α} {b : β} {c : γ}
  {f : α × List CodePoint → Except Fault (γ × List CodePoint)} {g : β → γ}

theorem settled_false_of_outcome {e : Fault} (h : outcome step' = .error e) :
    Settled step' false c rest' := by
  cases step' with
  | error e' => exact settled_false.2 ⟨e', rfl⟩
  | ok taken => cases h

/-- A step is settled as the one is that it begins with, if it cannot fail behind it. -/
theorem settled_of_outcome_eq_bind (h : Settled step good a rest)
    (eq : outcome step' = (outcome step).bind f) (next : f (a, rest) = .ok (c, rest')) :
    Settled step' good c rest' := by
  rcases h.ok_or_error with ⟨rfl, took⟩ | ⟨rfl, e, fails⟩
  · rw [outcome_eq_ok_iff.2 took] at eq
    exact outcome_eq_ok_iff.1 (eq.trans next)
  · rw [fails] at eq
    exact settled_false_of_outcome eq

/-- A step is settled as the one is whose value it changes. -/
theorem settled_of_outcome_eq_map (h : Settled step₂ good b rest)
    (eq : outcome step' = (outcome step₂).map (Prod.map g id)) : Settled step' good (g b) rest := by
  refine settled_of_outcome_eq_bind h (f := fun p => .ok (p.map g id)) (eq.trans ?_) rfl
  cases outcome step₂ <;> rfl

/-- **Two steps, one after the other, are settled as both are.** -/
theorem settled_of_outcome_eq_both (h : Settled step good a rest) (h₂ : Settled step₂ good₂ b rest₂)
    (eq : outcome step' = (outcome step).bind f)
    (next : f (a, rest) = (outcome step₂).map (Prod.map g id)) :
    Settled step' (good && good₂) (g b) rest₂ := by
  rcases h.ok_or_error with ⟨rfl, took⟩ | ⟨rfl, e, fails⟩
  · rw [outcome_eq_ok_iff.2 took] at eq
    exact settled_of_outcome_eq_map h₂ (eq.trans next)
  · rw [fails] at eq
    exact settled_false_of_outcome eq

end Steps

/-! ## Tests of intrinsics -/

/-- Further values in writing, each behind a comma. -/
def othersChars (others : List Scalar) : List CodePoint :=
  others.flatMap fun v => .char ',' :: v.chars

theorem joined_cons (piece : List CodePoint) (others : List Scalar) :
    Json.joined [.char ','] (piece :: others.map Scalar.chars) = piece ++ othersChars others := by
  induction others generalizing piece with
  | nil => exact (List.append_nil piece).symm
  | cons v others ih =>
    show piece ++ [.char ','] ++ Json.joined [.char ','] (v.chars :: others.map Scalar.chars) = _
    rw [ih, List.append_assoc]
    rfl

theorem othersChars_cons_append (v : Scalar) (others : List Scalar) (rest : List CodePoint) :
    othersChars (v :: others) ++ rest = .char ',' :: (v.chars ++ (othersChars others ++ rest)) := by
  show .char ',' :: v.chars ++ othersChars others ++ rest = _
  rw [List.cons_append, List.cons_append, List.append_assoc]

theorem bars_othersChars (others : List Scalar) (rest : List CodePoint) :
    Bars continues (othersChars others ++ .char ')' :: rest) := by
  cases others with
  | nil => exact bars_cons.2 (by decide)
  | cons v others => exact bars_cons.2 (by decide)

/-- Further values are read back up to the closing parenthesis. -/
theorem settled_takeOthers (others : List Scalar) (rest : List CodePoint) :
    Settled (takeOthers (othersChars others ++ .char ')' :: rest)) (others.all Scalar.readable) others
      rest := by
  induction others with
  | nil =>
    show Settled (takeOthers (.char ')' :: rest)) true [] rest
    rw [takeOthers, next?_cons_of_ne (by decide) (by decide), expect_cons (by decide)]
    exact ⟨_, rfl⟩
  | cons v others ih =>
    have literal := settled_takeLiteral v (bars_othersChars others rest)
    rw [othersChars_cons_append, List.all_cons]
    exact settled_of_outcome_eq_both literal ih
      (outcome_takeOthers_of_comma (skipBlank_cons (by decide) _)) rfl

/-- The test of an intrinsic against one literal, which stands behind an equals sign. -/
theorem settled_takeIntrinsic_one (name : Text) {s rest : List CodePoint} {good : Bool} {v : Scalar}
    (literal : Settled (takeLiteral s) good v rest) :
    Settled (takeIntrinsic (nameChars name ++ .char ')' :: .char '=' :: s)) good (intrinsic name v [])
      rest := by
  refine settled_of_outcome_eq_map literal (g := (intrinsic name · [])) ?_
  rw [outcome_takeIntrinsic, outcome_eq_ok_iff.2 (takeName_nameChars name _)]
  show afterName name (.char ')' :: .char '=' :: s) = _
  have closed := skipBlank_cons (c := ')') (by decide) (.char '=' :: s)
  rw [afterName_of_close name (by rw [closed]; rintro u ⟨⟩), outcome_expect closed]
  show (outcome (expect '=' (.char '=' :: s))).bind (fun equals =>
    (outcome (takeLiteral equals.2)).map (Prod.map (intrinsic name · []) id)) = _
  rw [outcome_expect (skipBlank_cons (by decide) s)]
  rfl

/-- The test of an intrinsic against several values, which stand behind a colon. -/
theorem settled_takeIntrinsic_several (name : Text) (first : Scalar) (others : List Scalar)
    (rest : List CodePoint) :
    Settled (takeIntrinsic (nameChars name ++ .char ':' :: (first.chars ++ (othersChars others ++
      .char ')' :: rest)))) ((first :: others).all Scalar.readable) (intrinsic name first others)
      rest := by
  have literal := settled_takeLiteral first (bars_othersChars others rest)
  rw [List.all_cons]
  have named := outcome_eq_ok_iff.2 (takeName_nameChars name
    (.char ':' :: (first.chars ++ (othersChars others ++ .char ')' :: rest))))
  have eq := outcome_takeIntrinsic (nameChars name ++
    .char ':' :: (first.chars ++ (othersChars others ++ .char ')' :: rest)))
  rw [named] at eq
  exact settled_of_outcome_eq_both literal (settled_takeOthers others rest)
    (eq.trans (afterName_of_colon name (skipBlank_cons (by decide) _))) rfl

/-! ## The kinds of conditions -/

section Kinds

variable {s rest : List CodePoint} {good : Bool} {c : Condition} {parts : List Condition}

/-- The word of a form and a parenthesis in writing are read as that form. -/
theorem outcome_takeCondition_written (f : Form) (s : List CodePoint) :
    outcome (takeCondition (f.word.toList ++ .char '(' :: s)) = f.read s := by
  refine outcome_takeCondition_of_form f ?_ (skipBlank_cons (by decide) s)
  obtain ⟨nonempty, letters⟩ := f.word_letters
  obtain ⟨letter, more, eq⟩ := List.exists_cons_of_ne_nil nonempty
  rw [eq, List.all_cons, Bool.and_eq_true] at letters
  rw [eq, List.cons_append, skipBlank_cons (isBlank_of_isLetter letters.1)]

theorem took_takeCondition_constant (value : Bool) (rest : List CodePoint) :
    Took (takeCondition ((constant value).chars ++ rest)) (constant value) rest := by
  have text : (constant value).chars ++ rest =
      (Form.constant value).word.toList ++ .char '(' :: .char ')' :: rest := by
    cases value <;> rfl
  rw [text, ← outcome_eq_ok_iff, outcome_takeCondition_written, Form.read, outcome_takeConstant,
    outcome_expect (skipBlank_cons (by decide) rest)]
  rfl

theorem settled_takeCondition_not (h : Settled (takeCondition s) good c (.char ')' :: rest)) :
    Settled (takeCondition (CodePoint.ofString "not" ++ .char '(' :: s)) good (not c) rest := by
  refine settled_of_outcome_eq_bind h (outcome_takeCondition_written .not s) ?_
  show (outcome (expect ')' (.char ')' :: rest))).map _ = _
  rw [outcome_expect (skipBlank_cons (by decide) rest)]
  rfl

theorem settled_takeCondition_all (h : Settled (takeParts s) good parts rest) :
    Settled (takeCondition (CodePoint.ofString "and" ++ .char '(' :: s)) good (all parts) rest :=
  settled_of_outcome_eq_map h (outcome_takeCondition_written .all s)

theorem settled_takeCondition_any (h : Settled (takeParts s) good parts rest) :
    Settled (takeCondition (CodePoint.ofString "or" ++ .char '(' :: s)) good (any parts) rest :=
  settled_of_outcome_eq_map h (outcome_takeCondition_written .any s)

theorem settled_takeCondition_intrinsic (h : Settled (takeIntrinsic s) good c rest) :
    Settled (takeCondition (CodePoint.ofString "intrinsic" ++ .char '(' :: s)) good c rest := by
  refine settled_of_outcome_eq_map (g := id) h ((outcome_takeCondition_written .test s).trans ?_)
  rw [Form.read, Prod.map_id, Except.map_id]
  rfl

end Kinds

/-! ## Trees -/

/-- A condition in writing begins with a letter. -/
theorem exists_chars_eq_letter (c : Condition) :
    ∃ letter s, c.chars = letter :: s ∧ isLetter letter = true := by
  cases c with
  | constant value =>
    cases value with
    | true => exact ⟨'a', _, rfl, rfl⟩
    | false => exact ⟨'a', _, rfl, rfl⟩
  | not inner => exact ⟨'n', _, rfl, rfl⟩
  | all parts => exact ⟨'a', _, rfl, rfl⟩
  | any parts => exact ⟨'o', _, rfl, rfl⟩
  | intrinsic name first others => exact ⟨'i', _, rfl, rfl⟩

theorem bars_restChars (parts : List Condition) (rest : List CodePoint) :
    Bars continues (restChars parts ++ .char ')' :: rest) := by
  cases parts with
  | nil => exact bars_cons.2 (by decide)
  | cons part parts => exact bars_cons.2 (by decide)

/-- The parts of a connective are those of a list that is empty or not. -/
theorem settled_takeParts {parts : List Condition} {good : Bool} {rest : List CodePoint}
    (empty : parts = [] → good = true)
    (several : parts ≠ [] → Settled (takeSeveral (listChars parts ++ .char ')' :: rest)) good parts rest) :
    Settled (takeParts (listChars parts ++ .char ')' :: rest)) good parts rest := by
  cases parts with
  | nil =>
    rw [empty rfl]
    show Took (takeParts (.char ')' :: rest)) [] rest
    rw [takeParts, next?_cons (by decide)]
    exact ⟨_, rfl⟩
  | cons part parts =>
    obtain ⟨letter, s, eq, isLetter⟩ := exists_chars_eq_letter part
    have some : next? ')' (listChars (part :: parts) ++ .char ')' :: rest) = none := by
      rw [listChars, eq]
      refine next?_cons_of_ne (isBlank_of_isLetter isLetter) ?_ _
      rintro rfl
      cases isLetter
    rw [takeParts, some]
    exact several (List.cons_ne_nil part parts)

/-- A connective in writing, with its word apart. -/
theorem connective_append {opened word : List CodePoint} (h : opened = word ++ [.char '('])
    (inside rest : List CodePoint) :
    opened ++ inside ++ [.char ')'] ++ rest = word ++ .char '(' :: (inside ++ .char ')' :: rest) := by
  rw [h]
  simp only [List.append_assoc, List.cons_append, List.nil_append]

/-- A test against one value, with its word apart. -/
theorem intrinsicChars_one (name : Text) (v : Scalar) (rest : List CodePoint) :
    intrinsicChars name v [] ++ rest =
      CodePoint.ofString "intrinsic" ++
        .char '(' :: (nameChars name ++ .char ')' :: .char '=' :: (v.chars ++ rest)) := by
  have apart : ∀ opened word close : List CodePoint,
      opened = word ++ [.char '('] → close = [.char ')', .char '='] →
      opened ++ nameChars name ++ (close ++ v.chars) ++ rest =
        word ++ .char '(' :: (nameChars name ++ .char ')' :: .char '=' :: (v.chars ++ rest)) := by
    rintro _ word _ rfl rfl
    simp only [List.append_assoc, List.cons_append, List.nil_append]
  exact apart _ _ _ (by decide) (by decide)

/-- A test against several values, with its word apart. -/
theorem intrinsicChars_several (name : Text) (first second : Scalar) (others : List Scalar)
    (rest : List CodePoint) :
    intrinsicChars name first (second :: others) ++ rest =
      CodePoint.ofString "intrinsic" ++ .char '(' :: (nameChars name ++
        .char ':' :: (first.chars ++ (othersChars (second :: others) ++ .char ')' :: rest))) := by
  have apart : ∀ opened word : List CodePoint, opened = word ++ [.char '('] →
      opened ++ nameChars name ++
        (.char ':' ::
          (Json.joined [.char ','] (first.chars :: (second :: others).map Scalar.chars) ++ [.char ')'])) ++
          rest =
        word ++ .char '(' :: (nameChars name ++
          .char ':' :: (first.chars ++ (othersChars (second :: others) ++ .char ')' :: rest))) := by
    rintro _ word rfl
    rw [joined_cons]
    simp only [List.append_assoc, List.cons_append, List.nil_append]
  exact apart _ _ (by decide)

/-- The test of an intrinsic in writing is read back in either form. -/
theorem settled_takeCondition_test (name : Text) (first : Scalar) (others : List Scalar)
    {rest : List CodePoint} (h : Bars continues rest) :
    Settled (takeCondition (intrinsicChars name first others ++ rest))
      ((first :: others).all Scalar.readable) (intrinsic name first others) rest := by
  cases others with
  | nil =>
    rw [intrinsicChars_one, List.all_cons, List.all_nil, Bool.and_true]
    exact settled_takeCondition_intrinsic
      (settled_takeIntrinsic_one name (settled_takeLiteral first h))
  | cons second others =>
    rw [intrinsicChars_several]
    exact settled_takeCondition_intrinsic
      (settled_takeIntrinsic_several name first (second :: others) rest)

mutual

/-- **A condition in writing is read back** if its values can be, and is refused otherwise. -/
theorem settled_takeCondition (c : Condition) {rest : List CodePoint} (h : Bars continues rest) :
    Settled (takeCondition (c.chars ++ rest)) (c.values.all Scalar.readable) c rest := by
  match c with
  | constant value =>
    unfold values
    exact took_takeCondition_constant value rest
  | not inner =>
    have close : Bars continues (.char ')' :: rest) := bars_cons.2 (by decide)
    have ih := settled_takeCondition inner close
    have text : (not inner).chars ++ rest =
        CodePoint.ofString "not" ++ .char '(' :: (inner.chars ++ .char ')' :: rest) :=
      connective_append (by decide) inner.chars rest
    rw [text, values]
    exact settled_takeCondition_not ih
  | all parts =>
    have text : (all parts).chars ++ rest =
        CodePoint.ofString "and" ++ .char '(' :: (listChars parts ++ .char ')' :: rest) :=
      connective_append (by decide) (listChars parts) rest
    rw [text, values]
    refine settled_takeCondition_all (settled_takeParts ?_ (settled_takeSeveral parts rest))
    rintro rfl
    rfl
  | any parts =>
    have text : (any parts).chars ++ rest =
        CodePoint.ofString "or" ++ .char '(' :: (listChars parts ++ .char ')' :: rest) :=
      connective_append (by decide) (listChars parts) rest
    rw [text, values]
    refine settled_takeCondition_any (settled_takeParts ?_ (settled_takeSeveral parts rest))
    rintro rfl
    rfl
  | intrinsic name first others =>
    exact settled_takeCondition_test name first others h

/-- Conditions in writing are read back up to the closing parenthesis. -/
theorem settled_takeSeveral (parts : List Condition) (rest : List CodePoint) (nonempty : parts ≠ []) :
    Settled (takeSeveral (listChars parts ++ .char ')' :: rest))
      ((listValues parts).all Scalar.readable) parts rest := by
  match parts with
  | [] => exact absurd rfl nonempty
  | part :: parts =>
    have ih := settled_takeCondition part (bars_restChars parts rest)
    rw [listChars, List.append_assoc, listValues, List.all_append]
    match parts with
    | [] =>
      have closed := skipBlank_cons (c := ')') (by decide) rest
      rw [listValues, List.all_nil, Bool.and_true]
      refine settled_of_outcome_eq_bind ih (outcome_takeSeveral _) ?_
      show afterPart part (.char ')' :: rest) = _
      rw [afterPart_of_end part (by rw [closed]; rintro u ⟨⟩), outcome_expect closed]
      rfl
    | next :: parts =>
      have more := settled_takeSeveral (next :: parts) rest (List.cons_ne_nil next parts)
      exact settled_of_outcome_eq_both ih more (outcome_takeSeveral _)
        (afterPart_of_comma part (skipBlank_cons (by decide) _))

end

/-! ## Whole texts -/

/-- A condition in writing is read as that condition alone, if its values can be read back. -/
theorem settled_read (c : Condition) :
    if c.values.all Scalar.readable then read c.chars = .ok c else ∃ e, read c.chars = .error e := by
  have h := settled_takeCondition c bars_nil
  rw [List.append_nil] at h
  rcases h.ok_or_error with ⟨good, shorter, reads⟩ | ⟨bad, e, fails⟩
  · rw [if_pos good, read, reads]
    rfl
  · rw [if_neg (Bool.eq_false_iff.1 bad), read, fails]
    exact ⟨e, rfl⟩

/-- The text of a condition with readable values is read as that condition. -/
theorem parse_text_eq_ok {c : Condition} (h : ∀ v ∈ c.values, v.readable = true) :
    parse c.text = .ok c := by
  have reads := settled_read c
  rw [if_pos (List.all_eq_true.2 h)] at reads
  rw [parse, text, Text.toList_ofList, reads]

/-- The text of a condition with a value that cannot be read back is refused. -/
theorem exists_parse_text_eq_error {c : Condition} {v : Scalar} (hv : v ∈ c.values)
    (h : v.readable = false) : ∃ refusal, parse c.text = .error refusal := by
  have bad : ¬c.values.all Scalar.readable = true := by
    intro all
    have good := List.all_eq_true.1 all v hv
    rw [h] at good
    exact Bool.false_ne_true good
  have reads := settled_read c
  rw [if_neg bad] at reads
  obtain ⟨e, fails⟩ := reads
  rw [parse, text, Text.toList_ofList, fails]
  exact ⟨_, rfl⟩

mutual

/-- Every condition is the same as itself. -/
theorem same_self (c : Condition) : same c c = true := by
  match c with
  | constant value => exact beq_self_eq_true value
  | not inner => exact same_self inner
  | all parts => exact sameList_self parts
  | any parts => exact sameList_self parts
  | intrinsic name first others =>
    rw [same, beq_self_eq_true, beq_self_eq_true]
    rfl

theorem sameList_self (parts : List Condition) : sameList parts parts = true := by
  match parts with
  | [] => rfl
  | part :: parts =>
    rw [sameList, same_self part, sameList_self parts]
    rfl

end

/-- **Reading undoes writing.**  The text of a condition of any shape is read as that condition, which
is the same as itself, as long as its integers are short enough to be read and its binary64 numbers
are finite.  Strings and names may hold anything. -/
theorem parse_text_of_readable (c : Condition) (h : ∀ v ∈ c.values, v.readable = true) :
    parse c.text = .ok c ∧ (c == c) = true :=
  ⟨parse_text_eq_ok h, same_self c⟩

/-- A condition with everything that a reader could stumble over: empty connectives, quotes, commas
and parentheses in strings, numbers with a sign and an exponent, and both forms of a test. -/
def intricate : Condition :=
  not (all [any [], all [],
    intrinsic "a\"),(\\" (.text "\\\",)\n\u0001é𝄞") [],
    any [constant true, intrinsic "" (.int (-120))
      [.float (.finite true ⟨2 ^ 52, -53, by decide⟩), .null, .bool false, .int 0, .text ""],
      intrinsic "x" (.float (.finite false ⟨2 ^ 52, 900, by decide⟩)) []]])

theorem parse_text_intricate :
    (∀ v ∈ intricate.values, v.readable = true) ∧
      parse intricate.text = .ok intricate ∧ (intricate == intricate) = true :=
  have readable : ∀ v ∈ intricate.values, v.readable = true := by decide
  ⟨readable, parse_text_of_readable intricate readable⟩

end EventRoster.Condition
