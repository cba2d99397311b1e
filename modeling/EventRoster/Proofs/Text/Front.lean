import EventRoster.Text.Taken

/-!
# The front of a text

Readers that take the longest run of some characters read back what was written only if the text
after it does not begin with one more of them.  `Bars p s` says that `s` does not, and a step
that took a value and left a rest is recorded by `Took`.
-/

namespace EventRoster.Text

/-- The text does not begin with a character of a class, and so ends a run of such characters. -/
def Bars {κ : Type} (p : κ → Bool) (s : List κ) : Prop :=
  ∀ c ∈ s.head?, p c = false

section Bars

variable {κ : Type} {p q : κ → Bool} {s : List κ}

/-- The empty text ends every run. -/
@[simp] theorem bars_nil : Bars p [] := by
  intro c hc
  cases hc

@[simp] theorem bars_cons {c : κ} : Bars p (c :: s) ↔ p c = false := by
  constructor
  · exact fun h => h c rfl
  · intro h d hd
    rw [List.head?_cons, Option.mem_some_iff] at hd
    rw [← hd, h]

/-- What ends the runs of a class ends those of every smaller class. -/
theorem Bars.mono (h : Bars q s) (sub : ∀ c, p c = true → q c = true) : Bars p s := by
  intro c hc
  refine Bool.eq_false_iff.2 fun hp => ?_
  have hq := sub c hp
  rw [h c hc] at hq
  exact Bool.false_ne_true hq

/-- A run is taken whole if what follows ends it. -/
theorem takeWhile_append_of_bars {run : List κ} (all : ∀ c ∈ run, p c = true) (h : Bars p s) :
    (run ++ s).takeWhile p = run := by
  rw [List.takeWhile_append_of_pos all]
  cases s with
  | nil => simp
  | cons c s => rw [List.takeWhile_cons_of_neg (by simp [bars_cons.1 h]), List.append_nil]

/-- What follows a run is left if it ends it. -/
theorem dropWhile_append_of_bars {run : List κ} (all : ∀ c ∈ run, p c = true) (h : Bars p s) :
    (run ++ s).dropWhile p = s := by
  rw [List.dropWhile_append_of_pos all]
  cases s with
  | nil => rfl
  | cons c s => rw [List.dropWhile_cons_of_neg (by simp [bars_cons.1 h])]

end Bars

/-- A reading step took a value and left a rest. -/
def Took {ε α κ : Type} {s : List κ} (result : Except ε (Taken α s)) (value : α)
    (rest : List κ) : Prop :=
  ∃ shorter, result = .ok ⟨value, rest, shorter⟩

theorem Took.shorter {ε α κ : Type} {s rest : List κ} {result : Except ε (Taken α s)} {value : α}
    (h : Took result value rest) : rest.length < s.length :=
  h.1

/-- What a step takes depends on nothing but the text. -/
theorem Took.of_eq {ε α κ : Type} {f : (s : List κ) → Except ε (Taken α s)} {s t : List κ}
    {value : α} {rest : List κ} (h : Took (f t) value rest) (eq : s = t) :
    Took (f s) value rest := by
  rw [eq]
  exact h

/-- A step takes one value and leaves one rest. -/
theorem Took.unique {ε α κ : Type} {s : List κ} {result : Except ε (Taken α s)} {value other : α}
    {rest left : List κ} (h : Took result value rest) (h' : Took result other left) :
    value = other ∧ rest = left := by
  obtain ⟨shorter, rfl⟩ := h
  obtain ⟨shorter', eq⟩ := h'
  cases eq
  exact ⟨rfl, rfl⟩

/-- A reading step took a value and left a rest if the value is a good one, and failed otherwise. -/
def Settled {ε α κ : Type} {s : List κ} (result : Except ε (Taken α s)) (good : Bool) (value : α)
    (rest : List κ) : Prop :=
  if good then Took result value rest else ∃ e, result = .error e

section Settled

variable {ε α κ : Type} {s : List κ} {result : Except ε (Taken α s)} {value : α}
  {rest : List κ}

@[simp] theorem settled_true : Settled result true value rest ↔ Took result value rest :=
  Iff.rfl

@[simp] theorem settled_false : Settled result false value rest ↔ ∃ e, result = .error e := by
  rw [Settled, if_neg Bool.false_ne_true]

/-- Either the value is a good one and was taken, or it is not and the step failed. -/
theorem Settled.ok_or_error {good : Bool} (h : Settled result good value rest) :
    (good = true ∧ Took result value rest) ∨ (good = false ∧ ∃ e, result = .error e) := by
  cases good with
  | true => exact .inl ⟨rfl, settled_true.1 h⟩
  | false => exact .inr ⟨rfl, settled_false.1 h⟩

/-- A step that is settled for two values is settled for both in the same way. -/
theorem Settled.unique {good good' : Bool} {other : α} {left : List κ}
    (h : Settled result good value rest) (h' : Settled result good' other left) :
    good = good' ∧ (good = true → value = other ∧ rest = left) := by
  rcases h.ok_or_error with ⟨rfl, shorter, ok⟩ | ⟨rfl, e, error⟩ <;>
    rcases h'.ok_or_error with ⟨rfl, shorter', ok'⟩ | ⟨rfl, e', error'⟩
  · exact ⟨rfl, fun _ => Took.unique ⟨shorter, ok⟩ ⟨shorter', ok'⟩⟩
  · rw [ok] at error'
    cases error'
  · rw [error] at ok'
    cases ok'
  · exact ⟨rfl, nofun⟩

end Settled

end EventRoster.Text
