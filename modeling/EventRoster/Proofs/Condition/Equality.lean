import EventRoster.Proofs.Condition.RoundTrip
import Mathlib.Data.Finset.Card

/-!
# Conditions are the same if their texts are

Reading back shows only that conditions with readable values differ in text if they differ at all.
Here the written form is taken apart directly, so that it makes no difference whether any of it could
be read: after one literal the text goes on with something that cannot belong to it, and the word of a
condition says what stands behind its parenthesis.

* `Scalar.eq_of_chars_append_eq`: a literal and what stands behind it can be told from their text.
* `chars_append`: a condition in writing is the word of its form, a parenthesis, and the inside.
* `eq_of_chars_append_eq`: a condition and what stands behind it can be told from their text.
* `eq_of_same`: what is the same is equal, and so sets of conditions are sets of texts.
* `Context.fill_injective`: no condition around two scalars makes them the same.
-/

namespace EventRoster

open EventRoster.Text

/-! ## Literals -/

/-- Different integers have different literals. -/
theorem Number.ofInt_injective : Function.Injective Literal.ofInt := by
  intro m n h
  have negative : decide (m < 0) = decide (n < 0) := congrArg Literal.negative h
  have digits : natChars m.natAbs = natChars n.natAbs := congrArg Literal.whole h
  have size : m.natAbs = n.natAbs := by
    rw [← ofDigitChars_natChars m.natAbs, digits, ofDigitChars_natChars]
  rw [decide_eq_decide] at negative
  omega

namespace Scalar

open EventRoster.Condition (continues bars_goesOn settled_takeLiteral)

variable {v w : Scalar} {s t : List CodePoint}

/-- What cannot be read back is an integer or a binary64 number that is not finite. -/
theorem int_or_float_of_unreadable (h : v.readable = false) :
    (∃ n, v = .int n) ∨ ∃ x : Number.Binary64, v = .float x ∧ x.isFinite = false := by
  cases v with
  | int n => exact .inl ⟨n, rfl⟩
  | float x => exact .inr ⟨x, rfl, h⟩
  | _ => cases h

/-- An integer in writing begins with its literal, however long it is. -/
theorem takeNumber?_int (n : Int) (h : Bars continues s) :
    ∃ shorter, Number.takeNumber? ((int n).chars ++ s) =
      some ⟨Number.Literal.ofInt n, s, shorter⟩ := by
  have spelled := Number.Literal.isSpelledBy_chars (Number.wellFormed_ofInt n)
  rw [chars, ← Number.chars_ofInt]
  exact Number.takeNumber?_of_isWrittenAs spelled.isWrittenAs (bars_goesOn h)

/-- The words for what is not finite begin with no literal of a number. -/
theorem takeNumber?_word {x : Number.Binary64} (h : x.isFinite = false) (s : List CodePoint) :
    Number.takeNumber? ((float x).chars ++ s) = none := by
  refine Option.eq_none_iff_forall_ne_some.2 fun number takes => ?_
  obtain ⟨d, t, digit, eq⟩ := Condition.exists_digit_of_takeNumber? takes
  rcases x with _ | (_ | _) | _
  · cases h
  all_goals
    -- The words begin with a letter, and so does what stands behind a minus sign.
    rcases eq with eq | eq <;> cases eq <;> cases digit

/-- The words for what is not finite differ, whatever stands behind them. -/
theorem eq_of_word_append_eq {x y : Number.Binary64} (hx : x.isFinite = false)
    (hy : y.isFinite = false)
    (h : (float x).chars ++ s = (float y).chars ++ t) : x = y ∧ s = t := by
  have three : ∀ x : Number.Binary64, x.isFinite = false →
      x = .infinite false ∨ x = .infinite true ∨ x = .nan := by
    rintro (_ | (_ | _) | _) h
    · cases h
    · exact .inl rfl
    · exact .inr (.inl rfl)
    · exact .inr (.inr rfl)
  -- Their first characters differ, so that of the nine cases six are absurd.
  rcases three x hx with rfl | rfl | rfl <;> rcases three y hy with rfl | rfl | rfl <;>
    first
    | exact ⟨rfl, List.append_cancel_left h⟩
    | exact absurd (List.cons.inj h).1 (by decide)

/-- **A literal and what stands behind it can be told from their text**, even if the literal cannot be
read. -/
theorem eq_of_chars_append_eq (hs : Bars continues s) (ht : Bars continues t)
    (h : v.chars ++ s = w.chars ++ t) : v = w ∧ s = t := by
  have settled := settled_takeLiteral v hs
  rw [h] at settled
  obtain ⟨alike, readable⟩ := settled.unique (settled_takeLiteral w ht)
  cases good : v.readable with
  | true => exact readable good
  | false =>
    rcases int_or_float_of_unreadable good with ⟨m, rfl⟩ | ⟨x, rfl, hx⟩ <;>
      rcases int_or_float_of_unreadable (alike ▸ good) with ⟨n, rfl⟩ | ⟨y, rfl, hy⟩
    · have front := takeNumber?_int m hs
      have front' := takeNumber?_int n ht
      rw [h] at front
      obtain ⟨⟨shorter, eq⟩, shorter', eq'⟩ := front, front'
      obtain ⟨same, rest⟩ := Taken.mk.inj (Option.some.inj (eq.symm.trans eq'))
      exact ⟨congrArg Scalar.int (Number.ofInt_injective same), rest⟩
    · have front := takeNumber?_int m hs
      rw [h, takeNumber?_word hy] at front
      obtain ⟨shorter, ⟨⟩⟩ := front
    · have front := takeNumber?_int n ht
      rw [← h, takeNumber?_word hx] at front
      obtain ⟨shorter, ⟨⟩⟩ := front
    · obtain ⟨rfl, rest⟩ := eq_of_word_append_eq hx hy h
      exact ⟨rfl, rest⟩

/-- Different scalars have different literals. -/
theorem chars_injective : Function.Injective chars := by
  intro v w h
  have alone : v.chars ++ [] = w.chars ++ [] := by
    rw [h]
  exact (eq_of_chars_append_eq bars_nil bars_nil alone).1

end Scalar

namespace Condition

variable {s t : List CodePoint}

/-! ## The form of a condition -/

/-- The form of a condition. -/
def form : Condition → Form
  | constant value => .constant value
  | not _ => .not
  | all _ => .all
  | any _ => .any
  | intrinsic .. => .test

/-- What stands behind the parenthesis of a condition that some text follows. -/
def inside : Condition → List CodePoint → List CodePoint
  | constant _, rest => .char ')' :: rest
  | not inner, rest => inner.chars ++ .char ')' :: rest
  | all parts, rest => listChars parts ++ .char ')' :: rest
  | any parts, rest => listChars parts ++ .char ')' :: rest
  | intrinsic name first [], rest => nameChars name ++ .char ')' :: .char '=' :: (first.chars ++ rest)
  | intrinsic name first (second :: others), rest =>
    nameChars name ++ .char ':' :: (first.chars ++ (othersChars (second :: others) ++ .char ')' :: rest))

/-- **A condition in writing** is the word of its form, a parenthesis, and what stands inside. -/
theorem chars_append (c : Condition) (rest : List CodePoint) :
    c.chars ++ rest = c.form.word.toList ++ .char '(' :: c.inside rest := by
  cases c with
  | constant value => cases value <;> rfl
  | not inner =>
    have opened : CodePoint.ofString "not(" = CodePoint.ofString "not" ++ [.char '('] := by decide
    exact connective_append opened inner.chars rest
  | all parts =>
    have opened : CodePoint.ofString "and(" = CodePoint.ofString "and" ++ [.char '('] := by decide
    exact connective_append opened (listChars parts) rest
  | any parts =>
    have opened : CodePoint.ofString "or(" = CodePoint.ofString "or" ++ [.char '('] := by decide
    exact connective_append opened (listChars parts) rest
  | intrinsic name first others =>
    cases others with
    | nil => exact intrinsicChars_one name first rest
    | cons second others => exact intrinsicChars_several name first second others rest

/-- The words of the language are different. -/
theorem Form.word_injective : Function.Injective Form.word := by
  rintro ((_ | _) | _ | _ | _ | _) ((_ | _) | _ | _ | _ | _) h <;>
    first
    | rfl
    | exact absurd h (by decide)

/-- The form of a condition and what stands inside it can be told from its text. -/
theorem form_eq_and_inside_eq {a b : Condition} (h : a.chars ++ s = b.chars ++ t) :
    a.form = b.form ∧ a.inside s = b.inside t := by
  have word : ∀ (f : Form) (u : List CodePoint),
      (f.word.toList ++ .char '(' :: u).takeWhile isLetter = f.word.toList := fun f u =>
    takeWhile_append_of_bars (List.all_eq_true.1 f.word_letters.2) (bars_cons.2 (by decide))
  rw [chars_append, chars_append] at h
  have words := congrArg (List.takeWhile isLetter) h
  rw [word, word] at words
  rw [words] at h
  exact ⟨Form.word_injective (Text.toList_injective words), (List.cons.inj (List.append_cancel_left h)).2⟩

/-- The name of an intrinsic and what stands behind it can be told from their text. -/
theorem eq_of_nameChars_append_eq {m n : Text} (h : nameChars m ++ s = nameChars n ++ t) :
    m = n ∧ s = t := by
  have took := takeName_nameChars m s
  rw [h] at took
  exact took.unique (takeName_nameChars n t)

/-- Further values and what stands behind them can be told from their text. -/
theorem eq_of_othersChars_append_eq {vs ws : List Scalar}
    (h : othersChars vs ++ .char ')' :: s = othersChars ws ++ .char ')' :: t) : vs = ws ∧ s = t := by
  induction vs generalizing ws with
  | nil =>
    cases ws with
    | nil => exact ⟨rfl, (List.cons.inj h).2⟩
    | cons w ws => exact absurd (List.cons.inj h).1 (by decide)
  | cons v vs ih =>
    cases ws with
    | nil => exact absurd (List.cons.inj h).1 (by decide)
    | cons w ws =>
      rw [othersChars_cons_append, othersChars_cons_append] at h
      obtain ⟨rfl, more⟩ := Scalar.eq_of_chars_append_eq (bars_othersChars vs s)
        (bars_othersChars ws t) (List.cons.inj h).2
      obtain ⟨rfl, rest⟩ := ih more
      exact ⟨rfl, rest⟩

/-- A test of an intrinsic and what stands behind it can be told from what is inside. -/
theorem eq_of_inside_intrinsic_eq {m n : Text} {v w : Scalar} {vs ws : List Scalar}
    (hs : Bars continues s) (ht : Bars continues t)
    (h : (intrinsic m v vs).inside s = (intrinsic n w ws).inside t) :
    intrinsic m v vs = intrinsic n w ws ∧ s = t := by
  cases vs with
  | nil =>
    cases ws with
    | nil =>
      obtain ⟨rfl, more⟩ := eq_of_nameChars_append_eq h
      obtain ⟨rfl, rest⟩ := Scalar.eq_of_chars_append_eq hs ht
        (List.cons.inj (List.cons.inj more).2).2
      exact ⟨rfl, rest⟩
    | cons second ws =>
      exact absurd (List.cons.inj (eq_of_nameChars_append_eq h).2).1 (by decide)
  | cons next vs =>
    cases ws with
    | nil => exact absurd (List.cons.inj (eq_of_nameChars_append_eq h).2).1 (by decide)
    | cons second ws =>
      obtain ⟨rfl, more⟩ := eq_of_nameChars_append_eq h
      obtain ⟨rfl, others⟩ := Scalar.eq_of_chars_append_eq (bars_othersChars _ _)
        (bars_othersChars _ _) (List.cons.inj more).2
      obtain ⟨same, rest⟩ := eq_of_othersChars_append_eq others
      rw [same]
      exact ⟨rfl, rest⟩

/-! ## Trees -/

mutual

/-- **A condition and what stands behind it can be told from their text.** -/
theorem eq_of_chars_append_eq {a b : Condition} {s t : List CodePoint} (hs : Bars continues s)
    (ht : Bars continues t) (h : a.chars ++ s = b.chars ++ t) : a = b ∧ s = t := by
  obtain ⟨forms, insides⟩ := form_eq_and_inside_eq h
  match a with
  | constant value =>
    cases b with
    | constant value' =>
      cases forms
      exact ⟨rfl, (List.cons.inj insides).2⟩
    | _ => cases forms
  | not inner =>
    cases b with
    | not inner' =>
      have close : ∀ u, Bars continues (.char ')' :: u) := fun u => bars_cons.2 (by decide)
      obtain ⟨same, rest⟩ := eq_of_chars_append_eq (close s) (close t)
        (show inner.chars ++ .char ')' :: s = inner'.chars ++ .char ')' :: t from insides)
      exact ⟨congrArg not same, (List.cons.inj rest).2⟩
    | _ => cases forms
  | all parts =>
    cases b with
    | all parts' =>
      obtain ⟨same, rest⟩ := eq_of_listChars_append_eq
        (show listChars parts ++ .char ')' :: s = listChars parts' ++ .char ')' :: t from insides)
      exact ⟨congrArg all same, rest⟩
    | _ => cases forms
  | any parts =>
    cases b with
    | any parts' =>
      obtain ⟨same, rest⟩ := eq_of_listChars_append_eq
        (show listChars parts ++ .char ')' :: s = listChars parts' ++ .char ')' :: t from insides)
      exact ⟨congrArg any same, rest⟩
    | _ => cases forms
  | intrinsic name first others =>
    cases b with
    | intrinsic name' first' others' => exact eq_of_inside_intrinsic_eq hs ht insides
    | _ => cases forms

/-- The parts of a connective can be told from their text up to its parenthesis. -/
theorem eq_of_listChars_append_eq {as bs : List Condition} {s t : List CodePoint}
    (h : listChars as ++ .char ')' :: s = listChars bs ++ .char ')' :: t) : as = bs ∧ s = t := by
  have close : ∀ (b : Condition) (bs : List Condition) (s t : List CodePoint),
      .char ')' :: s ≠ listChars (b :: bs) ++ .char ')' :: t := by
    intro b bs s t eq
    obtain ⟨letter, more, chars, isLetter⟩ := exists_chars_eq_letter b
    rw [listChars, chars] at eq
    rw [← (List.cons.inj eq).1] at isLetter
    cases isLetter
  match as, bs with
  | [], [] => exact ⟨rfl, (List.cons.inj h).2⟩
  | [], b :: bs => exact absurd h (close b bs s t)
  | a :: as, [] => exact absurd h.symm (close a as t s)
  | a :: as, b :: bs =>
    rw [listChars, listChars, List.append_assoc, List.append_assoc] at h
    obtain ⟨rfl, more⟩ := eq_of_chars_append_eq (bars_restChars as s) (bars_restChars bs t) h
    obtain ⟨rfl, rest⟩ := eq_of_restChars_append_eq more
    exact ⟨rfl, rest⟩

theorem eq_of_restChars_append_eq {as bs : List Condition} {s t : List CodePoint}
    (h : restChars as ++ .char ')' :: s = restChars bs ++ .char ')' :: t) : as = bs ∧ s = t := by
  match as, bs with
  | [], [] => exact ⟨rfl, (List.cons.inj h).2⟩
  | [], b :: bs => exact absurd (List.cons.inj h).1 (by decide)
  | a :: as, [] => exact absurd (List.cons.inj h).1 (by decide)
  | a :: as, b :: bs =>
    rw [restChars, restChars, List.cons_append, List.cons_append, List.append_assoc,
      List.append_assoc] at h
    obtain ⟨rfl, more⟩ := eq_of_chars_append_eq (bars_restChars as s) (bars_restChars bs t)
      (List.cons.inj h).2
    obtain ⟨rfl, rest⟩ := eq_of_restChars_append_eq more
    exact ⟨rfl, rest⟩

end

/-- **Different conditions have different texts.** -/
theorem text_injective : Function.Injective text := by
  intro a b h
  have chars : a.chars ++ [] = b.chars ++ [] := by
    rw [Text.ofList.inj h]
  exact (eq_of_chars_append_eq bars_nil bars_nil chars).1

/-! ## Sameness -/

mutual

/-- **What is the same is equal**: the comparison forgets nothing. -/
theorem eq_of_same {a b : Condition} (h : same a b = true) : a = b := by
  match a with
  | constant value =>
    cases b with
    | constant value' => exact congrArg constant (eq_of_beq h)
    | _ => cases h
  | not inner =>
    cases b with
    | not inner' => exact congrArg not (eq_of_same h)
    | _ => cases h
  | all parts =>
    cases b with
    | all parts' => exact congrArg all (eq_of_sameList h)
    | _ => cases h
  | any parts =>
    cases b with
    | any parts' => exact congrArg any (eq_of_sameList h)
    | _ => cases h
  | intrinsic name first others =>
    cases b with
    | intrinsic name' first' others' =>
      rw [same, Bool.and_eq_true] at h
      obtain ⟨names, values⟩ := h
      have alike := Scalar.chars_injective.list_map (eq_of_beq values)
      obtain ⟨rfl, rfl⟩ := List.cons.inj alike
      rw [eq_of_beq names]
    | _ => cases h

theorem eq_of_sameList {as bs : List Condition} (h : sameList as bs = true) : as = bs := by
  match as, bs with
  | [], [] => rfl
  | [], b :: bs => cases h
  | a :: as, [] => cases h
  | a :: as, b :: bs =>
    rw [sameList, Bool.and_eq_true] at h
    rw [eq_of_same h.1, eq_of_sameList h.2]

end

instance : LawfulBEq Condition where
  eq_of_beq := eq_of_same
  rfl := same_self _

/-! ## Sets of conditions -/

/-- What is left of a list without its repetitions has none. -/
theorem nodup_eraseDups {α : Type} [BEq α] [LawfulBEq α] : ∀ l : List α, l.eraseDups.Nodup
  | [] => List.nodup_nil
  | a :: l => by
    rw [List.eraseDups_cons, List.nodup_cons, List.mem_eraseDups, List.mem_filter]
    refine ⟨?_, nodup_eraseDups _⟩
    rintro ⟨-, other⟩
    rw [beq_self_eq_true] at other
    cases other
termination_by l => l.length
decreasing_by exact Nat.lt_succ_of_le (List.length_filter_le _ _)

/-- A list without repetitions has as many members as they have texts. -/
theorem length_eq_card_texts {members conditions : List Condition} (nodup : members.Nodup)
    (same : ∀ c, c ∈ members ↔ c ∈ conditions) :
    members.length = (conditions.map text).toFinset.card := by
  have texts : (members.map text).toFinset = (conditions.map text).toFinset := by
    ext t
    simp only [List.mem_toFinset, List.mem_map, same]
  rw [← texts, List.toFinset_card_of_nodup (nodup.map text_injective), List.length_map]

/-! ## Scalars deep in a condition -/

/-- A condition with a place for one value, at any depth. -/
inductive Context
  | test (name : Text) (before after : List Scalar)
  | not (inner : Context)
  | all (before : List Condition) (inner : Context) (after : List Condition)
  | any (before : List Condition) (inner : Context) (after : List Condition)

/-- The condition with a value in its place. -/
def Context.fill : Context → Scalar → Condition
  | test name [] after, v => intrinsic name v after
  | test name (first :: before) after, v => intrinsic name first (before ++ v :: after)
  | not inner, v => .not (inner.fill v)
  | all before inner after, v => .all (before ++ inner.fill v :: after)
  | any before inner after, v => .any (before ++ inner.fill v :: after)

/-- **Different values stay different** at every depth. -/
theorem Context.fill_injective (x : Context) : Function.Injective x.fill := by
  intro v w h
  induction x with
  | test name before after =>
    cases before with
    | nil => exact (intrinsic.inj h).2.1
    | cons first before =>
      exact (List.cons.inj (List.append_cancel_left (intrinsic.inj h).2.2)).1
  | not inner ih => exact ih (Condition.not.inj h)
  | all before inner after ih =>
    exact ih (List.cons.inj (List.append_cancel_left (Condition.all.inj h))).1
  | any before inner after ih =>
    exact ih (List.cons.inj (List.append_cancel_left (Condition.any.inj h))).1

/-- The scalars that are written `1`, `1.0` and `true`. -/
def unitScalars : List Scalar :=
  [.int 1, .float (.ofIntRatio 1 1), .bool true]

example : unitScalars.map (Text.ofList ·.chars) = ["1", "1.0", "true"] := by decide

/-- **Equality of conditions is equality of texts**, for every condition: no value has to be readable.
So it is an equivalence that hashes respect, the three kinds of one are kept apart at every depth, and
the different conditions of a list, which are those of a set of them, are as many as their texts. -/
theorem beq_iff_text_eq :
    (∀ a b : Condition, (a == b) = true ↔ a.text = b.text) ∧
      (∀ a b : Condition, (a == b) = true → hash a = hash b) ∧
      Equivalence (fun a b : Condition => (a == b) = true) ∧
      (∀ x : Context, unitScalars.Pairwise fun v w => (x.fill v == x.fill w) = false) ∧
      ∀ conditions : List Condition,
        distinct conditions = (conditions.map text).toFinset.card ∧
          (Std.HashSet.ofList conditions).size = (conditions.map text).toFinset.card := by
  refine ⟨fun a b => ?_, fun a b h => ?_, ?_, fun x => ?_, fun conditions => ⟨?_, ?_⟩⟩
  · rw [beq_iff_eq, text_injective.eq_iff]
  · rw [eq_of_beq h]
  · have eq : (fun a b : Condition => (a == b) = true) = Eq := by
      funext a b
      exact propext beq_iff_eq
    rw [eq]
    exact eq_equivalence
  · have different : unitScalars.Pairwise (· ≠ ·) := by
      simp [unitScalars]
    refine different.imp fun ne => ?_
    rw [beq_eq_false_iff_ne]
    exact x.fill_injective.ne ne
  · exact length_eq_card_texts (nodup_eraseDups conditions) fun c => List.mem_eraseDups
  · rw [← Std.HashSet.length_toList]
    refine length_eq_card_texts ?_ fun c => ?_
    · exact Std.HashSet.distinct_toList.imp fun h => beq_eq_false_iff_ne.1 h
    · rw [Std.HashSet.mem_toList, Std.HashSet.mem_ofList, List.contains_iff_mem]

end Condition

end EventRoster
