import EventRoster.Action.Signal

/-!
# Actions

An action runs on a state.  It answers or fails, leaves a state behind either way, and gives signals
on its way.  A sequence of actions stops at the first failure and keeps what was done and signalled
until then: nothing is taken back.
-/

namespace EventRoster

/-- What running an action comes to. -/
structure Reply (σ α : Type) where
  result : Except Failure α
  state : σ
  signals : List Signal

/-- An action on states of a type, with answers of a type. -/
def Action (σ α : Type) : Type :=
  σ → Reply σ α

namespace Action

variable {σ τ α β : Type}

/-- Runs an action on a state. -/
def run (a : Action σ α) (s : σ) : Reply σ α :=
  a s

/-- Answers at once. -/
def answer (x : α) : Action σ α := fun s =>
  ⟨.ok x, s, []⟩

/-- Runs one action and then another that depends on its answer. -/
def andThen (a : Action σ α) (f : α → Action σ β) : Action σ β := fun s =>
  match a.run s with
  | ⟨.error e, s, signals⟩ => ⟨.error e, s, signals⟩
  | ⟨.ok x, s, signals⟩ =>
    let next := (f x).run s
    ⟨next.result, next.state, signals ++ next.signals⟩

instance : Monad (Action σ) where
  pure := answer
  bind := andThen

/-- Fails. -/
def fail (e : Failure) : Action σ α := fun s =>
  ⟨.error e, s, []⟩

/-- Answers or fails as given. -/
def lift (result : Except Failure α) : Action σ α := fun s =>
  ⟨result, s, []⟩

/-- Gives a signal. -/
def signal (x : Signal) : Action σ Unit := fun s =>
  ⟨.ok (), s, [x]⟩

/-- Signals an event. -/
def report (e : Event) : Action σ Unit :=
  signal (.event e)

/-- Signals a notice. -/
def note (n : Notice) : Action σ Unit :=
  signal (.notice n)

/-- Answers with the state. -/
def state : Action σ σ := fun s =>
  ⟨.ok s, s, []⟩

/-- Changes the state. -/
def change (f : σ → σ) : Action σ Unit := fun s =>
  ⟨.ok (), f s, []⟩

/-- Runs an action on a part of the state. -/
def within (get : τ → σ) (put : τ → σ → τ) (a : Action σ α) : Action τ α := fun t =>
  let reply := a.run (get t)
  ⟨reply.result, put t reply.state, reply.signals⟩

/-- Answers with what an action comes to, and never fails. -/
def attempt (a : Action σ α) : Action σ (Except Failure α) := fun s =>
  let reply := a.run s
  ⟨.ok reply.result, reply.state, reply.signals⟩

@[simp] theorem run_pure (x : α) (s : σ) : (pure x : Action σ α).run s = ⟨.ok x, s, []⟩ := rfl

@[simp] theorem run_fail (e : Failure) (s : σ) :
    (fail e : Action σ α).run s = ⟨.error e, s, []⟩ := rfl

@[simp] theorem run_lift (result : Except Failure α) (s : σ) :
    (lift result : Action σ α).run s = ⟨result, s, []⟩ := rfl

@[simp] theorem run_signal (x : Signal) (s : σ) : (signal x).run s = ⟨.ok (), s, [x]⟩ := rfl

@[simp] theorem run_state (s : σ) : (state : Action σ σ).run s = ⟨.ok s, s, []⟩ := rfl

@[simp] theorem run_change (f : σ → σ) (s : σ) : (change f).run s = ⟨.ok (), f s, []⟩ := rfl

@[simp] theorem run_within (get : τ → σ) (put : τ → σ → τ) (a : Action σ α) (t : τ) :
    (within get put a).run t =
      ⟨(a.run (get t)).result, put t (a.run (get t)).state, (a.run (get t)).signals⟩ := rfl

@[simp] theorem run_attempt (a : Action σ α) (s : σ) :
    (attempt a).run s = ⟨.ok (a.run s).result, (a.run s).state, (a.run s).signals⟩ := rfl

/-- After an answer, the next action runs on the state that was left. -/
theorem run_bind_of_ok {a : Action σ α} {f : α → Action σ β} {s t : σ} {x : α}
    {signals : List Signal} (h : a.run s = ⟨.ok x, t, signals⟩) :
    (a >>= f).run s =
      ⟨((f x).run t).result, ((f x).run t).state, signals ++ ((f x).run t).signals⟩ := by
  change andThen a f s = _
  rw [andThen, h]

/-- After a failure, the next action does not run. -/
theorem run_bind_of_error {a : Action σ α} {f : α → Action σ β} {s t : σ} {e : Failure}
    {signals : List Signal} (h : a.run s = ⟨.error e, t, signals⟩) :
    (a >>= f).run s = ⟨.error e, t, signals⟩ := by
  change andThen a f s = _
  rw [andThen, h]

theorem andThen_answer (a : Action σ α) : andThen a answer = a := by
  funext s
  rw [andThen]
  rcases h : a.run s with ⟨result, t, signals⟩
  cases result with
  | error e => exact h.symm
  | ok x => simpa [answer, run] using h.symm

theorem andThen_assoc {γ : Type} (a : Action σ α) (f : α → Action σ β) (g : β → Action σ γ) :
    andThen (andThen a f) g = andThen a fun x => andThen (f x) g := by
  funext s
  simp only [andThen, run]
  rcases a s with ⟨result, t, signals⟩
  cases result with
  | error e => rfl
  | ok x =>
    simp only
    rcases f x t with ⟨result, u, more⟩
    cases result with
    | error e => rfl
    | ok y => simp

instance : LawfulMonad (Action σ) :=
  LawfulMonad.mk' _ andThen_answer (fun _ _ => rfl) andThen_assoc

end Action

end EventRoster
