import EventRoster.Proofs.Condition.Tokens

/-!
# The forms of conditions

A condition is a word, a parenthesis and what the word asks for behind it.  `Form` has the words, and
`takeCondition_cases` says all that reading a condition can do: it complains, or it finds the word of
a form and goes on as that form does.  The other readers have an equation for each way that they can
go on.  Nothing after this module opens a reader.
-/

namespace EventRoster.Condition

open EventRoster.Text

/-- The words that a condition can begin with. -/
inductive Form
  | constant (value : Bool)
  | not
  | all
  | any
  | test

/-- The word of a form. -/
def Form.word : Form → Text
  | constant true => "alwaysTrue"
  | constant false => "alwaysFalse"
  | not => "not"
  | all => "and"
  | any => "or"
  | test => "intrinsic"

/-- What is read behind the word of a form and its parenthesis. -/
def Form.read : Form → List CodePoint → Except Fault (Condition × List CodePoint)
  | constant value, s => outcome (takeConstant value s)
  | not, s => (outcome (takeCondition s)).bind fun inner =>
      (outcome (expect ')' inner.2)).map (Prod.map (fun _ => .not inner.1) id)
  | all, s => (outcome (takeParts s)).map (Prod.map .all id)
  | any, s => (outcome (takeParts s)).map (Prod.map .any id)
  | test, s => outcome (takeIntrinsic s)

theorem Form.word_letters (f : Form) :
    f.word.toList ≠ [] ∧ f.word.toList.all isLetter = true := by
  cases f with
  | constant value => cases value <;> decide
  | _ => decide

theorem Form.not_isLong (f : Form) : ¬IsLong f.word := by
  have short := not_isLong_of_letters (List.all_eq_true.1 f.word_letters.2)
  rwa [Text.ofList_toList] at short

section Readers

variable {s u v : List CodePoint}

theorem expect_of_skipBlank {c : Char} (h : skipBlank s = .char c :: u) :
    ∃ shorter, expect c s = .ok ⟨(), u, shorter⟩ :=
  outcome_eq_ok_iff.1 (outcome_expect h)

theorem length_lt_of_skipBlank {c : CodePoint} (h : skipBlank s = c :: u) : u.length < s.length := by
  have bound := skipBlank_length_le s
  rwa [h] at bound

/-! ## Conditions -/

/-- A condition is read as the form whose word it begins with.  The word is kept as a variable, so that
it can be compared with the words of the language one at a time. -/
theorem outcome_takeCondition_of_word (f : Form) {word : List CodePoint} (hw : word = f.word.toList)
    {shorter : u.length < s.length} (found : takeWord? s = some ⟨word, u, shorter⟩)
    (opened : skipBlank u = .char '(' :: v) : outcome (takeCondition s) = f.read v := by
  obtain ⟨shorter', taken⟩ := expect_of_skipBlank opened
  have other : ∀ name : String, (name : Text) ≠ f.word → word ≠ CodePoint.ofString name := by
    rintro name ne rfl
    exact ne (Text.toList_injective hw)
  rw [takeCondition, found]
  simp only [taken]
  cases f with
  | constant value =>
    cases value with
    | true =>
      have same : word = CodePoint.ofString "alwaysTrue" := hw
      rw [if_pos same, Form.read]
      cases takeConstant true v <;> rfl
    | false =>
      have same : word = CodePoint.ofString "alwaysFalse" := hw
      rw [if_neg (other "alwaysTrue" (by decide)), if_pos same, Form.read]
      cases takeConstant false v <;> rfl
  | not =>
    have same : word = CodePoint.ofString "not" := hw
    rw [if_neg (other "alwaysTrue" (by decide)), if_neg (other "alwaysFalse" (by decide)),
      if_pos same, Form.read]
    cases takeCondition v with
    | error e => rfl
    | ok inner =>
      simp only [outcome, Except.map, Except.bind, Taken.toPair]
      cases expect ')' inner.rest <;> rfl
  | all =>
    have same : word = CodePoint.ofString "and" := hw
    rw [if_neg (other "alwaysTrue" (by decide)), if_neg (other "alwaysFalse" (by decide)),
      if_neg (other "not" (by decide)), if_pos same, Form.read]
    cases takeParts v <;> rfl
  | any =>
    have same : word = CodePoint.ofString "or" := hw
    rw [if_neg (other "alwaysTrue" (by decide)), if_neg (other "alwaysFalse" (by decide)),
      if_neg (other "not" (by decide)), if_neg (other "and" (by decide)), if_pos same, Form.read]
    cases takeParts v <;> rfl
  | test =>
    have same : word = CodePoint.ofString "intrinsic" := hw
    rw [if_neg (other "alwaysTrue" (by decide)), if_neg (other "alwaysFalse" (by decide)),
      if_neg (other "not" (by decide)), if_neg (other "and" (by decide)),
      if_neg (other "or" (by decide)), if_pos same, Form.read]
    cases takeIntrinsic v <;> rfl

/-- A condition is read as a form if its word is there, with blanks before it or not. -/
theorem outcome_takeCondition_of_form (f : Form) (front : skipBlank s = f.word.toList ++ u)
    (opened : skipBlank u = .char '(' :: v) : outcome (takeCondition s) = f.read v := by
  have ends : Bars isLetter u := by
    obtain ⟨blanks, blank, eq⟩ := exists_eq_append_skipBlank u
    rw [eq, opened]
    exact bars_isLetter (bars_continues_append blank (bars_cons.2 (by decide)))
  obtain ⟨nonempty, letters⟩ := f.word_letters
  obtain ⟨shorter, found⟩ := takeWord?_of_skipBlank front nonempty (List.all_eq_true.1 letters) ends
  exact outcome_takeCondition_of_word f rfl found opened

/-- **What reading a condition can do**: complain about a place in the text, or go on as a form does
whose word and parenthesis are there. -/
theorem takeCondition_cases (s : List CodePoint) :
    (∃ complaint left, outcome (takeCondition s) = .error (.misread complaint left) ∧
      left ≤ s.length) ∨
      ∃ f : Form, ∃ v, Spaced [f.word, "("] s v ∧ v.length < s.length ∧
        outcome (takeCondition s) = f.read v := by
  have bound := skipBlank_length_le s
  cases found : takeWord? s with
  | none =>
    refine .inl ⟨.expectedCondition, _, ?_, bound⟩
    rw [takeCondition, found]
    rfl
  | some word =>
    obtain ⟨nonempty, letters, front⟩ := skipBlank_of_takeWord? found
    by_cases opened : ∃ v, skipBlank word.rest = .char '(' :: v
    · obtain ⟨v, opened⟩ := opened
      have less : v.length < s.length := by
        have behind := skipBlank_length_le word.rest
        rw [opened, List.length_cons] at behind
        have := word.shorter
        omega
      by_cases known : ∃ f : Form, word.value = f.word.toList
      · obtain ⟨f, eq⟩ := known
        refine .inr ⟨f, v, ?_, less, outcome_takeCondition_of_word f eq found opened⟩
        have bracket : Spaced ["("] word.rest v := spaced_of_skipBlank opened
        refine (spaced_of_skipBlank (front.trans ?_)).append bracket
        rw [eq]
      · have unknown : ∀ (name : Text) (f : Form), f.word = name → word.value ≠ name.toList := by
          rintro _ f rfl eq
          exact known ⟨f, eq⟩
        obtain ⟨shorter, taken⟩ := expect_of_skipBlank opened
        refine .inl ⟨.unknownCondition (Text.ofList word.value), _, ?_, bound⟩
        rw [takeCondition, found]
        simp only [taken]
        rw [if_neg (unknown "alwaysTrue" (.constant true) rfl),
          if_neg (unknown "alwaysFalse" (.constant false) rfl), if_neg (unknown "not" .not rfl),
          if_neg (unknown "and" .all rfl), if_neg (unknown "or" .any rfl),
          if_neg (unknown "intrinsic" .test rfl)]
        rfl
    · refine .inl ⟨.expected '(', (skipBlank word.rest).length, ?_, ?_⟩
      · rw [takeCondition, found]
        simp only [expect, next?_eq_none fun v eq => opened ⟨v, eq⟩]
        rfl
      · have := skipBlank_length_le word.rest
        have := word.shorter
        omega

/-! ## Their parts -/

theorem outcome_takeConstant (value : Bool) (s : List CodePoint) :
    outcome (takeConstant value s) =
      (outcome (expect ')' s)).map (Prod.map (fun _ => constant value) id) := by
  rw [takeConstant]
  cases expect ')' s <;> rfl

theorem outcome_takeParts_of_close (h : skipBlank s = .char ')' :: u) :
    outcome (takeParts s) = .ok ([], u) := by
  obtain ⟨shorter, taken⟩ := next?_of_skipBlank h
  rw [takeParts, taken]
  rfl

theorem outcome_takeParts_of_open (h : ∀ u, skipBlank s ≠ .char ')' :: u) :
    outcome (takeParts s) = outcome (takeSeveral s) := by
  rw [takeParts, next?_eq_none h]

/-- What is read behind a part of a connective. -/
def afterPart (part : Condition) (s : List CodePoint) : Except Fault (List Condition × List CodePoint) :=
  match next? ',' s with
  | some comma => (outcome (takeSeveral comma.rest)).map (Prod.map (part :: ·) id)
  | none => (outcome (expect ')' s)).map (Prod.map (fun _ => [part]) id)

theorem outcome_takeSeveral (s : List CodePoint) :
    outcome (takeSeveral s) =
      (outcome (takeCondition s)).bind fun part => afterPart part.1 part.2 := by
  rw [takeSeveral]
  cases takeCondition s with
  | error e => rfl
  | ok part =>
    simp only [outcome, Except.map, Except.bind, Taken.toPair, afterPart]
    cases next? ',' part.rest with
    | none => cases expect ')' part.rest <;> rfl
    | some comma =>
      simp only
      cases takeSeveral comma.rest <;> rfl

theorem afterPart_of_comma (part : Condition) (h : skipBlank s = .char ',' :: u) :
    afterPart part s = (outcome (takeSeveral u)).map (Prod.map (part :: ·) id) := by
  obtain ⟨shorter, taken⟩ := next?_of_skipBlank h
  rw [afterPart, taken]

theorem afterPart_of_end (part : Condition) (h : ∀ u, skipBlank s ≠ .char ',' :: u) :
    afterPart part s = (outcome (expect ')' s)).map (Prod.map (fun _ => [part]) id) := by
  rw [afterPart, next?_eq_none h]

/-! ## Tests of intrinsics -/

theorem outcome_takeOthers_of_comma (h : skipBlank s = .char ',' :: u) :
    outcome (takeOthers s) = (outcome (takeLiteral u)).bind fun literal =>
      (outcome (takeOthers literal.2)).map (Prod.map (literal.1 :: ·) id) := by
  obtain ⟨shorter, taken⟩ := next?_of_skipBlank h
  rw [takeOthers, taken]
  simp only
  cases takeLiteral u with
  | error e => rfl
  | ok literal =>
    simp only [outcome, Except.map, Except.bind, Taken.toPair]
    cases takeOthers literal.rest <;> rfl

theorem outcome_takeOthers_of_end (h : ∀ u, skipBlank s ≠ .char ',' :: u) :
    outcome (takeOthers s) = (outcome (expect ')' s)).map (Prod.map (fun _ => []) id) := by
  rw [takeOthers, next?_eq_none h]
  simp only
  cases expect ')' s <;> rfl

/-- What is read behind the name of an intrinsic. -/
def afterName (name : Text) (s : List CodePoint) : Except Fault (Condition × List CodePoint) :=
  match next? ':' s with
  | some colon => (outcome (takeLiteral colon.rest)).bind fun first =>
      (outcome (takeOthers first.2)).map (Prod.map (intrinsic name first.1) id)
  | none => (outcome (expect ')' s)).bind fun closed =>
      (outcome (expect '=' closed.2)).bind fun equals =>
        (outcome (takeLiteral equals.2)).map (Prod.map (intrinsic name · []) id)

theorem outcome_takeIntrinsic (s : List CodePoint) :
    outcome (takeIntrinsic s) = (outcome (takeName s)).bind fun name => afterName name.1 name.2 := by
  rw [takeIntrinsic]
  cases takeName s with
  | error e => rfl
  | ok name =>
    simp only [outcome, Except.map, Except.bind, Taken.toPair, afterName]
    cases next? ':' name.rest with
    | some colon =>
      simp only
      cases takeLiteral colon.rest with
      | error e => rfl
      | ok first =>
        simp only
        cases takeOthers first.rest <;> rfl
    | none =>
      simp only
      cases expect ')' name.rest with
      | error e => rfl
      | ok closed =>
        simp only
        cases expect '=' closed.rest with
        | error e => rfl
        | ok equals =>
          simp only
          cases takeLiteral equals.rest <;> rfl

theorem afterName_of_colon (name : Text) (h : skipBlank s = .char ':' :: u) :
    afterName name s = (outcome (takeLiteral u)).bind fun first =>
      (outcome (takeOthers first.2)).map (Prod.map (intrinsic name first.1) id) := by
  obtain ⟨shorter, taken⟩ := next?_of_skipBlank h
  rw [afterName, taken]

theorem afterName_of_close (name : Text) (h : ∀ u, skipBlank s ≠ .char ':' :: u) :
    afterName name s = (outcome (expect ')' s)).bind fun closed =>
      (outcome (expect '=' closed.2)).bind fun equals =>
        (outcome (takeLiteral equals.2)).map (Prod.map (intrinsic name · []) id) := by
  rw [afterName, next?_eq_none h]

end Readers

end EventRoster.Condition
