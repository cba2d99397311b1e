import EventRoster.Failure.Verdict

/-!
# The code of a wrapped failure

A failure is wrapped when an exception is raised from it, and what is raised may carry no code, as most
exceptions do not.  The code of a failure is looked for in the failure itself and then from its root
upwards.  A wrapper takes the first of the two places, so that the exception in it, which was asked
first, is asked last.

* `classify_wrapped_of_isRootCode`: under wrappers without codes a failure is reported under the code
  nearest to its root, however many they are.
* `classify_eq_iff_of_isRootCode`: the failure itself is reported under that code unless it has
  another one of its own.
* `classify_wrapped_iff`: so wrappers change the report of exactly those failures that have a code
  other than the one nearest to their root.
-/

namespace EventRoster.Failure

/-- The exception has no code. -/
def Raised.IsPlain (e : Raised) : Prop :=
  e.code? = none

/-- Exceptions raised from a failure, one from the other, the outermost first. -/
def wrapped (wrappers : List Raised) (f : Failure) : Failure :=
  wrappers.foldr raisedFrom f

/-- The code is carried by an exception of the failure, and nothing nearer to the root carries any. -/
def IsRootCode (f : Failure) (code : Code) : Prop :=
  ∃ below e above,
    f.rootFirst = below ++ e :: above ∧ (∀ b ∈ below, b.IsPlain) ∧ e.code? = some code

variable {f : Failure} {wrappers : List Raised} {code : Code}

/-! ## The code nearest to the root -/

/-- The search from the root finds the code nearest to it. -/
theorem isRootCode_iff : f.IsRootCode code ↔ f.rootFirst.findSome? (·.code?) = some code := by
  rw [List.findSome?_eq_some_iff]
  constructor
  · rintro ⟨below, e, above, split, plain, carried⟩
    exact ⟨below, e, above, split, carried, plain⟩
  · rintro ⟨below, e, above, split, carried, plain⟩
    exact ⟨below, e, above, split, plain, carried⟩

theorem IsRootCode.unique {other : Code} (h : f.IsRootCode code) (h' : f.IsRootCode other) :
    code = other := by
  rw [isRootCode_iff] at h h'
  simpa [h] using h'

theorem exists_isRootCode (coded : ∃ e ∈ f.links, ¬ e.IsPlain) : ∃ code, f.IsRootCode code := by
  obtain ⟨e, member, hasCode⟩ := coded
  cases found : f.rootFirst.findSome? (·.code?) with
  | some code => exact ⟨code, isRootCode_iff.mpr found⟩
  | none =>
    have plain : e.code? = none :=
      List.findSome?_eq_none_iff.mp found e (List.mem_reverse.mpr member)
    exact absurd plain hasCode

/-! ## Under wrappers -/

theorem links_wrapped (wrappers : List Raised) (f : Failure) :
    (wrapped wrappers f).links = wrappers ++ f.links := by
  induction wrappers with
  | nil => rfl
  | cons w rest ih =>
    calc (wrapped (w :: rest) f).links = w :: (wrapped rest f).links := links_raisedFrom w _
      _ = w :: rest ++ f.links := by rw [ih, List.cons_append]

theorem error_wrapped_cons (w : Raised) (rest : List Raised) (f : Failure) :
    (wrapped (w :: rest) f).error = w := rfl

/-- A wrapper stands farther from the root than all that it wraps. -/
theorem IsRootCode.wrapped (h : f.IsRootCode code) (wrappers : List Raised) :
    (wrapped wrappers f).IsRootCode code := by
  obtain ⟨below, e, above, split, plain, carried⟩ := h
  refine ⟨below, e, above ++ wrappers.reverse, ?_, plain, carried⟩
  have reversed : (Failure.wrapped wrappers f).rootFirst = f.rootFirst ++ wrappers.reverse := by
    simp [rootFirst, links_wrapped]
  simp [reversed, split]

/-- A failure that does not carry a code itself is reported under the one nearest to its root. -/
theorem classify_of_isPlain (plain : f.error.IsPlain) (h : f.IsRootCode code) :
    f.classify = code := by
  rw [isRootCode_iff] at h
  rw [Raised.IsPlain] at plain
  simp [classify, plain, h]

/-- **A failure is reported under the code nearest to its root unless it has another of its own.** -/
theorem classify_eq_iff_of_isRootCode (h : f.IsRootCode code) :
    f.classify = code ↔ f.error.IsPlain ∨ f.error.code? = some code := by
  cases carried : f.error.code? with
  | none =>
    have plain : f.error.IsPlain := carried
    simp [classify_of_isPlain plain h, plain]
  | some own => simp [classify_of_code? carried, Raised.IsPlain, carried]

/-- **Wrapped in exceptions without codes, a failure is reported under the code nearest to its root.** -/
theorem classify_wrapped_of_isRootCode (h : f.IsRootCode code) (notEmpty : wrappers ≠ [])
    (plain : ∀ w ∈ wrappers, w.IsPlain) : (wrapped wrappers f).classify = code := by
  cases wrappers with
  | nil => exact absurd rfl notEmpty
  | cons w rest =>
    refine classify_of_isPlain ?_ (h.wrapped (w :: rest))
    rw [error_wrapped_cons]
    exact plain w List.mem_cons_self

/-- **Wrappers without codes do not change under which code a failure is reported, unless it has a code
of its own that is not the one nearest to its root**, and under any number of them it is reported under
that one. -/
theorem classify_wrapped_iff (f : Failure) (coded : ∃ e ∈ f.links, ¬ e.IsPlain) :
    ∃ code, f.IsRootCode code ∧
      ∀ wrappers : List Raised, wrappers ≠ [] → (∀ w ∈ wrappers, w.IsPlain) →
        (wrapped wrappers f).classify = code ∧
        ((wrapped wrappers f).classify = f.classify ↔
          f.error.IsPlain ∨ f.error.code? = some code) := by
  obtain ⟨code, root⟩ := exists_isRootCode coded
  refine ⟨code, root, fun wrappers notEmpty plain => ?_⟩
  have under : (wrapped wrappers f).classify = code := classify_wrapped_of_isRootCode root notEmpty plain
  refine ⟨under, ?_⟩
  rw [under, eq_comm]
  exact classify_eq_iff_of_isRootCode root

/-- A record that could not be read after the first attempt had met with a passing trouble. -/
def unreadAfterSetback : Failure :=
  raisedFrom (.corrupt "bad" "s" none) (ofRaised (.ofOwn .transientError "later" .plain none))

/-- The same, wrapped once. -/
def wrappedSetback : Failure :=
  raisedFrom (.ofStandard .runtimeError "wrapper") unreadAfterSetback

/-- A wrapper turns the report of corrupt data into one of trouble with the network. -/
theorem classify_wrapped_ne :
    (∃ e ∈ unreadAfterSetback.links, ¬ e.IsPlain) ∧ wrappedSetback.error.IsPlain ∧
      unreadAfterSetback.classify = .dataCorruption ∧ wrappedSetback.classify = .networkError := by
  refine ⟨⟨_, List.mem_cons_self, ?_⟩, rfl, rfl, rfl⟩
  exact Option.some_ne_none Code.dataCorruption

/-- Once a wrapper is on, another one changes nothing. -/
theorem classify_wrapped_iff_twice :
    wrappedSetback.IsRootCode .networkError ∧
      (wrapped [.ofStandard .runtimeError "outer"] wrappedSetback).classify = .networkError := by
  have coded : ∃ e ∈ wrappedSetback.links, ¬ e.IsPlain :=
    ⟨_, List.mem_cons_of_mem _ List.mem_cons_self, Option.some_ne_none Code.dataCorruption⟩
  obtain ⟨code, root, told⟩ := classify_wrapped_iff wrappedSetback coded
  have network : wrappedSetback.IsRootCode .networkError := isRootCode_iff.mpr rfl
  obtain ⟨under, -⟩ := told [.ofStandard .runtimeError "outer"] (List.cons_ne_nil _ _) (by
    intro w member
    rw [List.mem_singleton.mp member]
    rfl)
  exact ⟨network, under.trans (root.unique network)⟩

end EventRoster.Failure
