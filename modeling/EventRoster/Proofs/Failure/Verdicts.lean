import EventRoster.Failure.Verdict

/-!
# When the two verdicts on a failure agree

Whether a failure may pass, and whether it is certain not to, are asked in two walks along the same
exceptions.  The walks end at different places.  An exception of the registry that is known to be
passing or lasting ends both, with opposite verdicts.  A foreign exception ends only one of them: what
stands for a passing trouble says nothing about permanence, and what stands for a fault of the program
says nothing about a retry.

So a failure can get both verdicts, and this is where exactly:

* `isTransient_iff`, `isPermanent_iff`: a verdict is given if some exception speaks for it among those
  that are considered, which are the exceptions up to the first that decides;
* `Raised.not_isLasting_of_isPassing`: no exception speaks for both;
* `agrees_iff`: a failure gets both verdicts if and only if two of the considered exceptions speak for
  different ones.  A fault that is raised from a timeout is such a failure, whereas the verdicts on an
  exception without a cause, or on a lasting one of the registry, agree.
-/

namespace EventRoster.Failure

/-! ## Classes that have no exceptions in common -/

namespace Kind

theorem mem_every (k : Kind) : k ∈ every := by
  rcases k with o | c | s
  · cases o <;> decide
  · cases c <;> decide
  · cases s <;> decide

/-- Of two classes that a class is a kind of, one is a kind of the other. -/
theorem isA_or_isA {k a b : Kind} (ofFirst : k.isA a = true) (ofSecond : k.isA b = true) :
    a.isA b = true ∨ b.isA a = true := by
  have chained : ∀ k ∈ every, ∀ a ∈ k.lineage, ∀ b ∈ k.lineage, a.isA b = true ∨ b.isA a = true := by
    decide +kernel
  exact chained k (mem_every k) a (List.contains_iff_mem.mp ofFirst) b (List.contains_iff_mem.mp ofSecond)

/-- The classes that speak for a retry. -/
def forRetry : List Kind :=
  .own .transientError :: .standard .osError :: passing

/-- The classes that speak against one. -/
def againstRetry : List Kind :=
  .own .permanentError :: lasting

/-- **A class that speaks for a retry has no exceptions in common with one that speaks against it.** -/
theorem not_isA_of_mem_againstRetry {k a b : Kind} (speaks : a ∈ forRetry) (isA : k.isA a = true)
    (opposes : b ∈ againstRetry) : k.isA b = false := by
  have apart : ∀ a ∈ forRetry, ∀ b ∈ againstRetry, a.isA b = false ∧ b.isA a = false := by
    decide +kernel
  obtain ⟨notAbove, notBelow⟩ := apart a speaks b opposes
  refine Bool.eq_false_iff.mpr fun isB => ?_
  rcases isA_or_isA isA isB with above | below
  · simp [notAbove] at above
  · simp [notBelow] at below

end Kind

/-! ## What one exception says -/

namespace Raised

/-- The exception speaks for a retry. -/
def isPassing (e : Raised) : Bool :=
  e.isA (.own .transientError) || passing.any e.isA ||
    e.isA (.standard .osError) && e.hasRetriedErrno

/-- The exception speaks against a retry. -/
def isLasting (e : Raised) : Bool :=
  e.isA (.own .permanentError) || lasting.any e.isA

/-- The exception is one of the registry that settles both questions. -/
def decides (e : Raised) : Bool :=
  e.isA (.own .transientError) || e.isA (.own .permanentError)

variable {e : Raised}

theorem exists_isA_of_isPassing (speaks : e.isPassing = true) :
    ∃ a ∈ Kind.forRetry, e.isA a = true := by
  simp only [isPassing, Bool.or_eq_true, Bool.and_eq_true, List.any_eq_true] at speaks
  rcases speaks with (own | ⟨a, member, isA⟩) | ⟨isA, -⟩
  · exact ⟨_, by simp [Kind.forRetry], own⟩
  · exact ⟨a, by simp [Kind.forRetry, member], isA⟩
  · exact ⟨_, by simp [Kind.forRetry], isA⟩

theorem exists_isA_of_isLasting (speaks : e.isLasting = true) :
    ∃ b ∈ Kind.againstRetry, e.isA b = true := by
  simpa [isLasting, Kind.againstRetry] using speaks

/-- **No exception speaks both for a retry and against it.** -/
theorem not_isLasting_of_isPassing (speaks : e.isPassing = true) : e.isLasting = false := by
  obtain ⟨a, forRetry, isA⟩ := exists_isA_of_isPassing speaks
  refine Bool.eq_false_iff.mpr fun opposes => ?_
  obtain ⟨b, againstRetry, isB⟩ := exists_isA_of_isLasting opposes
  have notB : e.isA b = false := Kind.not_isA_of_mem_againstRetry forRetry isA againstRetry
  simp [notB] at isB

/-- An exception speaks for a retry, or decides against one, or says nothing about it. -/
theorem transience_eq (e : Raised) :
    e.transience = if e.isPassing then some true else if e.decides then some false else none := by
  cases own : e.isA (.own .permanentError) with
  | true =>
    have lasts : e.isLasting = true := by simp [isLasting, own]
    have notPassing : e.isPassing = false :=
      Bool.eq_false_iff.mpr fun speaks => by simp [not_isLasting_of_isPassing speaks] at lasts
    have notOwn : e.isA (.own .transientError) = false := by
      simp only [isPassing, Bool.or_eq_false_iff] at notPassing
      exact notPassing.1.1
    simp [transience, own, notOwn, notPassing, decides]
  | false =>
    simp only [transience, isPassing, decides, own]
    cases e.isA (.own .transientError) <;> cases passing.any e.isA <;> simp

/-- An exception speaks against a retry, or decides for one, or says nothing about permanence. -/
theorem permanence_eq (e : Raised) :
    e.permanence = if e.isLasting then some true else if e.decides then some false else none := by
  cases own : e.isA (.own .transientError) with
  | true =>
    have passes : e.isPassing = true := by simp [isPassing, own]
    have notLasting : e.isLasting = false := not_isLasting_of_isPassing passes
    have notOwn : e.isA (.own .permanentError) = false := by
      simp only [isLasting, Bool.or_eq_false_iff] at notLasting
      exact notLasting.1
    simp [permanence, own, notOwn, notLasting, decides]
  | false =>
    simp only [permanence, isLasting, decides, own]
    cases e.isA (.own .permanentError) <;> simp

end Raised

/-! ## What a failure is told -/

/-- The exceptions up to the first that decides. -/
def consideredAmong : List Raised → List Raised
  | [] => []
  | e :: rest => if e.decides then [e] else e :: consideredAmong rest

/-- The exceptions of a failure that its verdicts may depend on: it and its causes, up to the first
that decides. -/
def considered (f : Failure) : List Raised :=
  consideredAmong f.links

/-- **The first verdict is yes if some considered exception says so**, for a question on which an
exception says no only if it decides. -/
theorem decided_iff {verdict : Raised → Option Bool} {speaks : Raised → Bool}
    (rule : ∀ e, verdict e = if speaks e then some true else if e.decides then some false else none)
    (links : List Raised) :
    decided verdict links = true ↔ ∃ e ∈ consideredAmong links, speaks e = true := by
  induction links with
  | nil => simp [decided, consideredAmong]
  | cons e rest ih =>
    rw [decided] at ih ⊢
    rw [List.findSome?_cons, rule e, consideredAmong]
    cases spoken : speaks e with
    | true => cases decides : e.decides <;> simp [spoken]
    | false => cases decides : e.decides <;> simp [spoken, ih]

theorem isTransient_iff (f : Failure) :
    f.isTransient = true ↔ ∃ e ∈ f.considered, e.isPassing = true :=
  decided_iff Raised.transience_eq f.links

theorem isPermanent_iff (f : Failure) :
    f.isPermanent = true ↔ ∃ e ∈ f.considered, e.isLasting = true :=
  decided_iff Raised.permanence_eq f.links

/-- Nothing is considered behind an exception that decides. -/
theorem considered_of_decides {f : Failure} (decides : f.error.decides = true) :
    f.considered = [f.error] := by
  simp [considered, links, consideredAmong, decides]

/-- **Whatever a lasting exception of the registry was raised from, it is not retried.** -/
theorem verdicts_of_permanentError {f : Failure}
    (own : f.error.isA (.own .permanentError) = true) :
    f.isPermanent = true ∧ f.isTransient = false := by
  have decides : f.error.decides = true := by simp [Raised.decides, own]
  have lasts : f.error.isLasting = true := by simp [Raised.isLasting, own]
  refine ⟨(isPermanent_iff f).mpr ⟨f.error, by simp [considered_of_decides decides], lasts⟩, ?_⟩
  refine Bool.eq_false_iff.mpr fun transient => ?_
  obtain ⟨e, member, passes⟩ := (isTransient_iff f).mp transient
  rw [considered_of_decides decides, List.mem_singleton] at member
  subst member
  simp [Raised.not_isLasting_of_isPassing passes] at lasts

/-- The failure is not said both to be worth a retry and to be certain not to pass. -/
def Agrees (f : Failure) : Prop :=
  ¬ (f.isTransient = true ∧ f.isPermanent = true)

instance (f : Failure) : Decidable f.Agrees :=
  inferInstanceAs (Decidable (¬ _))

/-- **The verdicts on a failure agree if and only if no two of the considered exceptions speak for
different ones.** -/
theorem agrees_iff (f : Failure) :
    f.Agrees ↔
      ∀ e ∈ f.considered, e.isPassing = true → ∀ e' ∈ f.considered, e'.isLasting = false := by
  rw [Agrees, isTransient_iff, isPermanent_iff]
  constructor
  · intro agrees e member passes e' member'
    refine Bool.eq_false_iff.mpr fun lasts => ?_
    exact agrees ⟨⟨e, member, passes⟩, e', member', lasts⟩
  · rintro unopposed ⟨⟨e, member, passes⟩, e', member', lasts⟩
    have notLasting := unopposed e member passes e' member'
    simp [notLasting] at lasts

/-- A fault of the program that was raised from a timeout. -/
def faultFromTimeout : Failure :=
  raisedFrom (.ofStandard .valueError "x") (ofRaised (.ofStandard .timeoutError ""))

/-- A fault that was raised from a timeout gets both verdicts. -/
theorem not_agrees_faultFromTimeout : ¬ faultFromTimeout.Agrees := by
  decide +kernel

/-- The verdicts on an exception that was raised from no other agree. -/
theorem agrees_of_no_cause (e : Raised) : (ofRaised e).Agrees := by
  rintro ⟨transient, permanent⟩
  have alone : (ofRaised e).considered = [e] := by
    simp [considered, links, ofRaised, consideredAmong]
  have passes : e.isPassing = true := by simpa [isTransient_iff, alone] using transient
  have lasts : e.isLasting = true := by simpa [isPermanent_iff, alone] using permanent
  simp [Raised.not_isLasting_of_isPassing passes] at lasts

end EventRoster.Failure
