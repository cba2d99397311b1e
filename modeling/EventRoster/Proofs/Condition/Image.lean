import EventRoster.Proofs.Condition.Grammar
import EventRoster.Proofs.Condition.RoundTrip
import EventRoster.Record.Written

/-!
# What the reader of conditions can return

Every value in a condition that was read stood there as a literal.  A literal is never NaN and never
an integer with too many digits, but it can be infinite: `1e999` is a number literal like any other,
and rounds to infinity.  Such a value is all that keeps a condition that was read from being read
once more.

* `Denotes.isLiteral`: what one literal can stand for.
* `Derives.stand`: the values of a condition are those of the literals that it is derived from.
* `exists_parse_text_iff`: a condition that was read is read back exactly if nothing in it overflows.
-/

namespace EventRoster

/-- Whether a scalar is a number too large to be finite. -/
def Scalar.overflows : Scalar → Bool
  | .float (.infinite _) => true
  | _ => false

namespace Condition

open EventRoster.Text

/-! ## Literals -/

/-- The scalars that literals stand for. -/
def IsLiteral (v : Scalar) : Prop :=
  v.readable = !v.overflows

/-- What can be read back is written as a literal. -/
theorem isLiteral_of_readable {v : Scalar} (h : v.readable = true) : IsLiteral v := by
  cases v with
  | float x =>
    cases x with
    | finite negative size => rfl
    | infinite negative => cases h
    | nan => cases h
  | int n => exact h
  | _ => rfl

/-- **What a token denotes** can be read back unless it overflows, if the token itself is read. -/
theorem Denotes.isLiteral {token : Text} {v : Scalar} (h : Denotes token v)
    (short : ¬IsLong token) : IsLiteral v := by
  cases h with
  | nullWord => rfl
  | falseWord => rfl
  | trueWord => rfl
  | text string => rfl
  | @number _ l spelled =>
    have value := Number.Literal.value_of_not_isLong fun long => short ⟨l, spelled, long⟩
    cases number : l.number with
    | int n =>
      rw [number] at value
      exact decide_eq_true (Number.Literal.length_le_of_value_eq_int spelled.wellFormed value)
    | float x =>
      rw [number] at value
      have finite := Number.ne_nan_of_value_eq_float value
      cases x with
      | finite negative size => rfl
      | infinite negative => rfl
      | nan => exact absurd rfl finite

/-! ## The values of a derived condition -/

/-- Every value stands in the row as a token. -/
def Stand (tokens : List Text) (vs : List Scalar) : Prop :=
  ∀ v ∈ vs, ∃ token ∈ tokens, Denotes token v

theorem stand_nil (tokens : List Text) : Stand tokens [] := by
  intro v hv
  cases hv

theorem Stand.mono {tokens more : List Text} {vs : List Scalar} (h : Stand tokens vs)
    (more_of : ∀ token ∈ tokens, token ∈ more) : Stand more vs := by
  intro v hv
  obtain ⟨token, member, denotes⟩ := h v hv
  exact ⟨token, more_of token member, denotes⟩

theorem Stand.append {tokens : List Text} {vs others : List Scalar} (h : Stand tokens vs)
    (h' : Stand tokens others) : Stand tokens (vs ++ others) := by
  intro v hv
  rcases List.mem_append.1 hv with hv | hv
  · exact h v hv
  · exact h' v hv

theorem Denotes.stand {tokens : List Text} {token : Text} {v : Scalar} (h : Denotes token v)
    (member : token ∈ tokens) : Stand tokens [v] := by
  intro v' hv
  rw [List.mem_singleton.1 hv]
  exact ⟨token, member, h⟩

theorem Others.stand {tokens : List Text} {vs : List Scalar} (h : Others tokens vs) :
    Stand tokens vs := by
  induction h with
  | close => exact stand_nil _
  | comma literal more ih =>
    exact (literal.stand (by simp)).append (ih.mono (by simp +contextual))

mutual

/-- **The values of a derived condition stand in its row.** -/
theorem Derives.stand {tokens : List Text} {c : Condition} (h : Derives tokens c) :
    Stand tokens c.values := by
  match h with
  | .alwaysTrue => exact stand_nil _
  | .alwaysFalse => exact stand_nil _
  | .not inner => exact inner.stand.mono (by simp +contextual)
  | .all parts => exact parts.stand.mono (by simp +contextual)
  | .any parts => exact parts.stand.mono (by simp +contextual)
  | .equals string literal => exact literal.stand (by simp)
  | .among string literal others =>
    exact (literal.stand (by simp)).append (others.stand.mono (by simp +contextual))

theorem Parts.stand {tokens : List Text} {cs : List Condition} (h : Parts tokens cs) :
    Stand tokens (listValues cs) := by
  match h with
  | .none => exact stand_nil _
  | .some several => exact several.stand

theorem Several.stand {tokens : List Text} {cs : List Condition} (h : Several tokens cs) :
    Stand tokens (listValues cs) := by
  match h with
  | .last part => exact (part.stand.mono (by simp +contextual)).append (stand_nil _)
  | .comma part others =>
    exact (part.stand.mono (by simp +contextual)).append (others.stand.mono (by simp +contextual))

end

/-! ## Whole texts -/

theorem isLiteral_of_parse {t : Text} {c : Condition} (h : parse t = .ok c) :
    ∀ v ∈ c.values, IsLiteral v := by
  obtain ⟨tokens, blanks, derived, met, -⟩ := read_eq_ok_iff_meets.1 (parse_eq_ok_iff_read.1 h)
  obtain ⟨-, short⟩ := meets_ok_iff.1 met
  intro v hv
  obtain ⟨token, member, denotes⟩ := derived.stand v hv
  exact denotes.isLiteral (short token member)

mutual

/-- A condition of literals is short enough to be written. -/
theorem writable_of_isLiteral {c : Condition} (h : ∀ v ∈ c.values, IsLiteral v) :
    c.writable = true := by
  match c with
  | constant value => rfl
  | not inner => exact writable_of_isLiteral (c := inner) h
  | all parts => exact writableList_of_isLiteral (l := parts) h
  | any parts => exact writableList_of_isLiteral (l := parts) h
  | intrinsic name first others =>
    rw [writable, List.all_eq_true]
    intro v hv
    have literal := h v hv
    cases v with
    | int n => exact literal
    | _ => rfl

theorem writableList_of_isLiteral {l : List Condition} (h : ∀ v ∈ listValues l, IsLiteral v) :
    writableList l = true := by
  match l with
  | [] => rfl
  | part :: parts =>
    have first : part.writable = true := by
      refine writable_of_isLiteral ?_
      intro v hv
      exact h v (List.mem_append_left _ hv)
    have others : writableList parts = true := by
      refine writableList_of_isLiteral ?_
      intro v hv
      exact h v (List.mem_append_right _ hv)
    rw [writableList, first, others]
    rfl

end

/-- What literals stand for can be read back exactly if nothing in it overflows. -/
theorem forall_readable_iff {c : Condition} (h : ∀ v ∈ c.values, IsLiteral v) :
    (∀ v ∈ c.values, v.readable = true) ↔ ∀ v ∈ c.values, v.overflows = false := by
  refine forall₂_congr fun v hv => ?_
  rw [h v hv, Bool.not_eq_true']

/-- **What was read is read back exactly if nothing in it overflows.** -/
theorem exists_parse_text_iff {c : Condition} (h : ∀ v ∈ c.values, IsLiteral v) :
    (∃ d, parse c.text = .ok d ∧ (d == c) = true) ↔ ∀ v ∈ c.values, v.overflows = false := by
  rw [← forall_readable_iff h]
  constructor
  · rintro ⟨d, reads, -⟩ v hv
    by_contra unreadable
    obtain ⟨refusal, fails⟩ := exists_parse_text_eq_error hv (Bool.eq_false_iff.2 unreadable)
    rw [fails] at reads
    cases reads
  · intro readable
    exact ⟨c, parse_text_eq_ok readable, same_self c⟩

end Condition

end EventRoster
