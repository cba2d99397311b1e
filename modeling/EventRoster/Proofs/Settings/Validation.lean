import EventRoster.Settings

/-!
# Settings that may connect

Settings are validated by going through what may be wrong with them.  What they are when nothing is
wrong is said here as a list of what holds of them.

A fault of settings is an error of the configuration, with one exception: a timeout that is no number
is a fault of types.  Steps that fail with errors of the configuration only are put together by
`FailsOnly.bind`.

* `fault?_eq_none_iff`: nothing is wrong with settings.
* `nonpositive?_eq_some_false_iff`: timeouts that pass, of which one is not positive.
* `failsOnly_checked`: what settings with a number for their timeout are refused with.
-/

namespace EventRoster

open EventRoster.Failure

/-! ## Failures of one kind -/

namespace Failure

/-- The failure is an error of the configuration. -/
def IsMisconfiguration (f : Failure) : Prop :=
  f.error.isA (.own .configurationError) = true

instance (f : Failure) : Decidable f.IsMisconfiguration :=
  inferInstanceAs (Decidable (_ = true))

/-- A step whose failures are of one kind. -/
def FailsOnly {α : Type} (kind : Failure → Prop) (step : Except Failure α) : Prop :=
  ∀ f, step = .error f → kind f

section FailsOnly

variable {α β ε : Type} {kind : Failure → Prop}

theorem failsOnly_ok (a : α) : FailsOnly kind (.ok a) := by
  rintro f ⟨⟩

theorem failsOnly_error {f : Failure} (h : kind f) :
    FailsOnly kind (.error f : Except Failure α) := by
  rintro _ ⟨⟩
  exact h

theorem FailsOnly.bind {step : Except Failure α} {next : α → Except Failure β}
    (h : FailsOnly kind step) (h' : ∀ a, step = .ok a → FailsOnly kind (next a)) :
    FailsOnly kind (step >>= next) := by
  cases step with
  | error f =>
    rintro _ ⟨⟩
    exact h f rfl
  | ok a => exact h' a rfl

theorem failsOnly_mapError (step : Except ε α) {toFailure : ε → Failure}
    (h : ∀ e, kind (toFailure e)) : FailsOnly kind (step.mapError toFailure) := by
  cases step with
  | error e => exact failsOnly_error (h e)
  | ok a => exact failsOnly_ok a

end FailsOnly

end Failure

/-! ## Positive numbers -/

/-- Whether a binary64 number is above zero. -/
def Number.Binary64.IsPositive : Number.Binary64 → Prop
  | .finite negative size => negative = false ∧ 0 < size.mantissa
  | .infinite negative => negative = false
  | .nan => False

/-- Whether a scalar is a number above zero.  Of the truth values one is. -/
def Scalar.IsPositive : Scalar → Prop
  | .int n => 0 < n
  | .float x => x.IsPositive
  | .bool b => b = true
  | .null | .text _ => False

/-- A binary64 number that is not at most zero is above it, unless it is no number at all. -/
theorem Number.Binary64.isNonpositive_eq_false_iff (x : Number.Binary64) :
    x.isNonpositive = false ↔ x.IsPositive ∨ x = .nan := by
  cases x with
  | finite negative size =>
    simp only [isNonpositive, IsPositive, Bool.or_eq_false_iff, beq_eq_false_iff_ne, reduceCtorEq,
      or_false, Nat.pos_iff_ne_zero, ne_eq]
  | infinite negative => simp only [isNonpositive, IsPositive, reduceCtorEq, or_false]
  | nan => simp only [isNonpositive, or_true]

namespace Settings

variable {s : Settings}

/-- **The timeouts that pass** are the positive ones, and one that is no number at all. -/
theorem nonpositive?_eq_some_false_iff {v : Scalar} :
    nonpositive? v = some false ↔ v.IsPositive ∨ v = .float .nan := by
  cases v with
  | int n => simp [nonpositive?, Scalar.IsPositive]
  | float x =>
    rw [nonpositive?, Option.some.injEq, x.isNonpositive_eq_false_iff, Scalar.IsPositive,
      Scalar.float.injEq]
  | bool b => simp [nonpositive?, Scalar.IsPositive]
  | null => simp [nonpositive?, Scalar.IsPositive]
  | text t => simp [nonpositive?, Scalar.IsPositive]

/-- A name that is not blank is there and is not empty. -/
theorem isBlank_eq_false_iff {name : Option String} :
    isBlank name = false ↔ ∃ n, name = some n ∧ n ≠ "" := by
  cases name <;> simp [isBlank]

/-- A check finds nothing if it does not apply and those after it find nothing. -/
theorem check_eq_none_iff {applies : Prop} [Decidable applies] {fault : Fault}
    {others : Option Fault} :
    (if applies then some fault else others) = none ↔ ¬applies ∧ others = none := by
  by_cases h : applies <;> simp [h]

/-- **Nothing is wrong with settings** exactly if all of this holds of them. -/
theorem fault?_eq_none_iff :
    s.fault? = none ↔ s.hosts ≠ [] ∧ 0 < s.port ∧ isBlank s.keyspace = false ∧
      isBlank s.table = false ∧ nonpositive? s.connectTimeout = some false ∧
      s.username.isNone = s.password.isNone := by
  rw [fault?, check_eq_none_iff, check_eq_none_iff, check_eq_none_iff, check_eq_none_iff,
    List.isEmpty_iff, Int.not_le, Bool.not_eq_true, Bool.not_eq_true]
  refine and_congr_right fun _ => and_congr_right fun _ => and_congr_right fun _ =>
    and_congr_right fun _ => ?_
  match nonpositive? s.connectTimeout with
  | none => simp
  | some true => simp
  | some false => simp

theorem checked_of_fault?_eq_none (h : s.fault? = none) : s.checked = .ok s := by
  rw [checked, h]

theorem checked_eq_ok_iff {t : Settings} : s.checked = .ok t ↔ s.fault? = none ∧ s = t := by
  rw [checked]
  cases s.fault? with
  | none => simp
  | some fault => simp

theorem Fault.isMisconfiguration {fault : Fault} (h : fault ≠ .timeoutNotANumber) :
    fault.failure.IsMisconfiguration := by
  cases fault with
  | timeoutNotANumber => exact absurd rfl h
  | _ => rfl

/-- A check does not find what neither it nor those after it are for. -/
theorem check_ne_some {applies : Prop} [Decidable applies] {fault other : Fault}
    {others : Option Fault} (ne : fault ≠ other) (later : others ≠ some other) :
    (if applies then some fault else others) ≠ some other := by
  by_cases h : applies
  · rw [if_pos h]
    exact fun same => ne (Option.some.inj same)
  · rwa [if_neg h]

/-- A timeout that is a number is not refused as none. -/
theorem fault?_ne_timeoutNotANumber (h : nonpositive? s.connectTimeout ≠ none) :
    s.fault? ≠ some .timeoutNotANumber := by
  refine check_ne_some nofun (check_ne_some nofun (check_ne_some nofun (check_ne_some nofun ?_)))
  match timeout : nonpositive? s.connectTimeout with
  | none => exact absurd timeout h
  | some true => nofun
  | some false => exact check_ne_some nofun nofun

/-- **Settings with a number for their timeout are refused as misconfigured**, if they are refused. -/
theorem failsOnly_checked (h : nonpositive? s.connectTimeout ≠ none) :
    FailsOnly IsMisconfiguration s.checked := by
  have number := fault?_ne_timeoutNotANumber h
  rw [checked]
  cases fault : s.fault? with
  | none => exact failsOnly_ok s
  | some f =>
    refine failsOnly_error (Fault.isMisconfiguration ?_)
    rintro rfl
    exact number fault

end Settings

end EventRoster
