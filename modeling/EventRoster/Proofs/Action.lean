import EventRoster.Action.Basic

/-!
# Actions that answer

What is asked of an action is mostly what it answers and what state it leaves behind, whatever it
signals on its way.  `Answers` says this and nothing else, and there is one lemma for each way in
which actions are made.  An action that answers does not fail, so such facts are about the whole of a
run.  `Comes` says the same where the action may also fail.

`Upholds` says that an action upholds what holds of the state, and `Keeps` that it leaves a part of
the state alone.

`Respects` is about two runs: what an action answers on one state it answers on every state that is
tied to it.
-/

namespace EventRoster.Action

variable {σ τ α β : Type}

/-- On a state, an action answers so and leaves another state behind. -/
def Answers (a : Action σ α) (s : σ) (x : α) (t : σ) : Prop :=
  ∃ signals, a.run s = ⟨.ok x, t, signals⟩

theorem Answers.result_eq {a : Action σ α} {s t : σ} {x : α} (h : a.Answers s x t) :
    (a.run s).result = .ok x := by
  obtain ⟨signals, runs⟩ := h
  rw [runs]

theorem Answers.state_eq {a : Action σ α} {s t : σ} {x : α} (h : a.Answers s x t) :
    (a.run s).state = t := by
  obtain ⟨signals, runs⟩ := h
  rw [runs]

/-! ## Single actions -/

theorem answers_pure (x : α) (s : σ) : (pure x : Action σ α).Answers s x s :=
  ⟨[], rfl⟩

theorem answers_lift (x : α) (s : σ) : (lift (.ok x) : Action σ α).Answers s x s :=
  ⟨[], rfl⟩

theorem answers_state (s : σ) : state.Answers s s s :=
  ⟨[], rfl⟩

theorem answers_change (f : σ → σ) (s : σ) : (change f).Answers s () (f s) :=
  ⟨[], rfl⟩

theorem answers_report (e : Event) (s : σ) : (report e).Answers s () s :=
  ⟨[.event e], rfl⟩

theorem answers_note (n : Notice) (s : σ) : (note n).Answers s () s :=
  ⟨[.notice n], rfl⟩

/-! ## Compound actions -/

/-- An action and the next, which runs on the state that was left. -/
theorem Answers.bind {a : Action σ α} {f : α → Action σ β} {s t u : σ} {x : α} {y : β}
    (h : a.Answers s x t) (next : (f x).Answers t y u) : (a >>= f).Answers s y u := by
  obtain ⟨signals, runs⟩ := h
  obtain ⟨more, continues⟩ := next
  refine ⟨signals ++ more, ?_⟩
  rw [run_bind_of_ok runs, continues]

/-- An action on a part of the state. -/
theorem Answers.within {get : τ → σ} (put : τ → σ → τ) {a : Action σ α} {t : τ} {u : σ} {x : α}
    (h : a.Answers (get t) x u) : (within get put a).Answers t x (put t u) := by
  obtain ⟨signals, runs⟩ := h
  refine ⟨signals, ?_⟩
  rw [run_within, runs]

/-! ## Actions that may fail -/

/-- On a state, an action comes to a result and leaves another state behind. -/
def Comes (a : Action σ α) (s : σ) (result : Except Failure α) (t : σ) : Prop :=
  ∃ signals, a.run s = ⟨result, t, signals⟩

theorem Answers.comes {a : Action σ α} {s t : σ} {x : α} (h : a.Answers s x t) :
    a.Comes s (.ok x) t :=
  h

theorem Comes.result_eq {a : Action σ α} {s t : σ} {result : Except Failure α}
    (h : a.Comes s result t) : (a.run s).result = result := by
  obtain ⟨signals, runs⟩ := h
  rw [runs]

theorem Comes.state_eq {a : Action σ α} {s t : σ} {result : Except Failure α}
    (h : a.Comes s result t) : (a.run s).state = t := by
  obtain ⟨signals, runs⟩ := h
  rw [runs]

theorem comes_fail (e : Failure) (s : σ) : (fail e : Action σ α).Comes s (.error e) s :=
  ⟨[], rfl⟩

theorem comes_lift (result : Except Failure α) (s : σ) : (lift result).Comes s result s :=
  ⟨[], rfl⟩

/-- What comes after an action that answers decides what both come to. -/
theorem Answers.bind_comes {a : Action σ α} {f : α → Action σ β} {s t u : σ} {x : α}
    {result : Except Failure β} (h : a.Answers s x t) (next : (f x).Comes t result u) :
    (a >>= f).Comes s result u := by
  obtain ⟨signals, runs⟩ := h
  obtain ⟨more, continues⟩ := next
  refine ⟨signals ++ more, ?_⟩
  rw [run_bind_of_ok runs, continues]

/-- After a failure nothing is done. -/
theorem Comes.bind_error {a : Action σ α} {s t : σ} {e : Failure} (h : a.Comes s (.error e) t)
    (f : α → Action σ β) : (a >>= f).Comes s (.error e) t := by
  obtain ⟨signals, runs⟩ := h
  exact ⟨signals, run_bind_of_error runs⟩

/-- An action whose answer is changed. -/
theorem Comes.map {a : Action σ α} {s t : σ} {result : Except Failure α} (h : a.Comes s result t)
    (f : α → β) : (a >>= fun x => pure (f x)).Comes s (result.map f) t := by
  cases result with
  | error e => exact h.bind_error _
  | ok x => exact Answers.bind h (answers_pure (f x) t)

/-- An attempt at an action answers with what the action comes to. -/
theorem Comes.attempt {a : Action σ α} {s t : σ} {result : Except Failure α}
    (h : a.Comes s result t) : (Action.attempt a).Answers s result t := by
  obtain ⟨signals, runs⟩ := h
  refine ⟨signals, ?_⟩
  rw [run_attempt, runs]

/-- An action whose answer is changed does nothing else. -/
theorem run_bind_pure (a : Action σ α) (f : α → β) (s : σ) :
    (a >>= fun x => pure (f x)).run s =
      ⟨(a.run s).result.map f, (a.run s).state, (a.run s).signals⟩ := by
  rcases runs : a.run s with ⟨e | x, t, signals⟩
  · exact run_bind_of_error runs
  · rw [run_bind_of_ok runs, run_pure, List.append_nil]
    rfl

/-- A sequence of two actions fails at the first, or at the second on what the first has left. -/
theorem error_of_run_bind {a : Action σ α} {f : α → Action σ β} {s u : σ} {e : Failure}
    {signals : List Signal} (fails : (a >>= f).run s = ⟨.error e, u, signals⟩) :
    a.run s = ⟨.error e, u, signals⟩ ∨
      ∃ x t before more, a.run s = ⟨.ok x, t, before⟩ ∧ (f x).run t = ⟨.error e, u, more⟩ ∧
        signals = before ++ more := by
  rcases runs : a.run s with ⟨e' | x, t, before⟩
  · rw [run_bind_of_error runs] at fails
    cases fails
    exact .inl rfl
  · rw [run_bind_of_ok runs] at fails
    cases next : (f x).run t with
    | mk result t' more =>
      rw [next] at fails
      cases fails
      exact .inr ⟨x, t, before, more, rfl, next, rfl⟩

/-! ## Actions that uphold something -/

/-- The action leads from states of which something holds to states of which it holds. -/
def Upholds (a : Action σ α) (holds : σ → Prop) : Prop :=
  ∀ ⦃s⦄, holds s → holds (a.run s).state

theorem Upholds.bind {holds : σ → Prop} {a : Action σ α} {f : α → Action σ β} (h : a.Upholds holds)
    (next : ∀ x, (f x).Upholds holds) : (a >>= f).Upholds holds := by
  intro s before
  have between := h before
  rcases runs : a.run s with ⟨e | x, t, signals⟩
  · rw [run_bind_of_error runs]
    rwa [runs] at between
  · rw [run_bind_of_ok runs]
    rw [runs] at between
    exact next x between

/-! ## Actions that leave something alone -/

/-- The action leaves a part of the state as it is. -/
def Keeps (a : Action σ α) (part : σ → τ) : Prop :=
  ∀ s, part (a.run s).state = part s

section Keeps

variable {part : σ → τ}

theorem keeps_pure (x : α) : (pure x : Action σ α).Keeps part :=
  fun _ => rfl

theorem keeps_fail (e : Failure) : (fail e : Action σ α).Keeps part :=
  fun _ => rfl

theorem keeps_lift (result : Except Failure α) : (lift result : Action σ α).Keeps part :=
  fun _ => rfl

theorem keeps_note (n : Notice) : (note n : Action σ Unit).Keeps part :=
  fun _ => rfl

theorem keeps_report (e : Event) : (report e : Action σ Unit).Keeps part :=
  fun _ => rfl

theorem keeps_state : (state : Action σ σ).Keeps part :=
  fun _ => rfl

theorem keeps_change {f : σ → σ} (h : ∀ s, part (f s) = part s) : (change f).Keeps part :=
  h

theorem Keeps.bind {a : Action σ α} {f : α → Action σ β} (h : a.Keeps part)
    (next : ∀ x, (f x).Keeps part) : (a >>= f).Keeps part := by
  intro s
  have upholds : (a >>= f).Upholds fun t => part t = part s :=
    Upholds.bind (fun t same => (h t).trans same) fun x t same => (next x t).trans same
  exact upholds rfl

theorem Keeps.attempt {a : Action σ α} (h : a.Keeps part) : (Action.attempt a).Keeps part := by
  intro s
  rw [run_attempt]
  exact h s

/-- What depends on a part that is left alone is upheld. -/
theorem Keeps.upholds {a : Action σ α} (h : a.Keeps part) (holds : τ → Prop) :
    a.Upholds fun s => holds (part s) := by
  intro s before
  rw [h s]
  exact before

end Keeps

/-! ## Actions on two states -/

/-- On states that a relation ties together, an action comes to the same result, and leaves such states
behind. -/
def Respects (a : Action σ α) (R : σ → σ → Prop) : Prop :=
  ∀ ⦃s t⦄, R s t → (a.run s).result = (a.run t).result ∧ R (a.run s).state (a.run t).state

section Respects

variable {R : σ → σ → Prop}

theorem respects_lift (result : Except Failure α) : (lift result : Action σ α).Respects R :=
  fun _ _ h => ⟨rfl, h⟩

theorem respects_note (n : Notice) : (note n : Action σ Unit).Respects R :=
  fun _ _ h => ⟨rfl, h⟩

theorem Respects.bind {a : Action σ α} {f : α → Action σ β} (h : a.Respects R)
    (next : ∀ x, (f x).Respects R) : (a >>= f).Respects R := by
  intro s t tied
  obtain ⟨same, after⟩ := h tied
  rcases runs : a.run s with ⟨result, s', signals⟩
  rcases runs' : a.run t with ⟨result', t', signals'⟩
  rw [runs, runs'] at same after
  obtain rfl : result = result' := same
  cases result with
  | error e =>
    rw [run_bind_of_error runs, run_bind_of_error runs']
    exact ⟨rfl, after⟩
  | ok x =>
    rw [run_bind_of_ok runs, run_bind_of_ok runs']
    exact next x after

/-- What depends on the state only through what the tied states have in common. -/
theorem respects_state_bind {f : σ → Action σ β} (same : ∀ s t, R s t → f s = f t)
    (next : ∀ s, (f s).Respects R) : (state >>= f).Respects R := by
  intro s t tied
  rw [run_bind_of_ok (run_state s), run_bind_of_ok (run_state t), same s t tied]
  exact next t tied

/-- An action on a part of the state that the tied states have in common. -/
theorem respects_within {get : σ → τ} {put : σ → τ → σ}
    (common : ∀ s t, R s t → get s = get t) (kept : ∀ s t x, R s t → R (put s x) (put t x))
    (a : Action τ α) : (within get put a).Respects R := by
  intro s t tied
  rw [run_within, run_within, common s t tied]
  exact ⟨rfl, kept s t _ tied⟩

theorem Respects.attempt {a : Action σ α} (h : a.Respects R) : (Action.attempt a).Respects R := by
  intro s t tied
  obtain ⟨same, after⟩ := h tied
  rw [run_attempt, run_attempt]
  exact ⟨congrArg Except.ok same, after⟩

end Respects

end EventRoster.Action
