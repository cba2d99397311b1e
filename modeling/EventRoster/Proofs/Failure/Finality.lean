import EventRoster.Proofs.Failure.Verdicts
import EventRoster.Proofs.Record.Refusals
import EventRoster.Proofs.Schema.Calls
import EventRoster.Settings.Environment
import EventRoster.StoreUrl.Basic

/-!
# Bad data and bad settings are final

Whoever retries an operation has to be told when that is of no use.  It is of no use if the text of a
condition, a stored record, the shape of the table, the environment or an address is at fault, because
none of these is another one the next time.

There are two ways in which such a failure is known for what it is.  Most are lasting errors of the
registry, and what those were raised from is of no account.  The others are faults of values that
nobody caught on their way: an integer with too many digits, bytes in no encoding, an address with a
bad bracket, a timeout that is no number.  They were raised from nothing, so that the walk along the
causes meets nothing else.

* `isFinal_of_permanentError` and `isFinal_of_isLasting`: the two ways.
* `FailsForGood.bind` and the lemmas around it: steps whose failures are final, put together.
* `failsForGood_of_input`: all that is read from outside fails for good, if it fails.
-/

namespace EventRoster

namespace Failure

/-- The failure is certain not to pass, and is not worth a retry. -/
def IsFinal (f : Failure) : Prop :=
  f.isPermanent = true ∧ f.isTransient = false

instance (f : Failure) : Decidable f.IsFinal :=
  inferInstanceAs (Decidable (_ ∧ _))

/-- A lasting error of the registry is final, whatever it was raised from. -/
theorem isFinal_of_permanentError {f : Failure}
    (own : f.error.isA (.own .permanentError) = true) : f.IsFinal :=
  verdicts_of_permanentError own

/-- A fault of the program or of its data is final, if it was raised from nothing. -/
theorem isFinal_of_isLasting {e : Raised} (lasts : e.isLasting = true) : (ofRaised e).IsFinal := by
  have alone : e ∈ (ofRaised e).considered := by
    rw [considered, links, ofRaised, consideredAmong]
    split <;> exact List.mem_cons_self
  have permanent : (ofRaised e).isPermanent = true := (isPermanent_iff _).2 ⟨e, alone, lasts⟩
  refine ⟨permanent, Bool.eq_false_iff.2 fun transient => ?_⟩
  exact agrees_of_no_cause e ⟨transient, permanent⟩

theorem isFinal_configuration (message : String) (cause : Option Mention) (causes : List Raised) :
    IsFinal ⟨.configuration message cause, causes⟩ :=
  isFinal_of_permanentError rfl

/-! ## Steps -/

/-- A step that fails for good, if it fails. -/
def FailsForGood {α : Type} (step : Except Failure α) : Prop :=
  ∀ f, step = .error f → f.IsFinal

section Steps

variable {α β ε : Type}

theorem failsForGood_ok (a : α) : FailsForGood (.ok a) := by
  rintro f ⟨⟩

theorem failsForGood_error {f : Failure} (final : f.IsFinal) :
    FailsForGood (.error f : Except Failure α) := by
  rintro _ ⟨⟩
  exact final

theorem FailsForGood.bind {step : Except Failure α} {next : α → Except Failure β}
    (h : FailsForGood step) (h' : ∀ a, FailsForGood (next a)) : FailsForGood (step >>= next) := by
  cases step with
  | error f =>
    rintro _ ⟨⟩
    exact h f rfl
  | ok a => exact h' a

/-- A step fails for good if all its faults are final as failures. -/
theorem failsForGood_mapError (step : Except ε α) {toFailure : ε → Failure}
    (final : ∀ e, (toFailure e).IsFinal) : FailsForGood (step.mapError toFailure) := by
  cases step with
  | error e => exact failsForGood_error (final e)
  | ok a => exact failsForGood_ok a

end Steps

end Failure

open Failure

/-! ## Conditions -/

namespace Condition

theorem isFinal_longInteger (digits : Nat) : (longInteger digits).IsFinal :=
  isFinal_of_isLasting rfl

/-- A refused condition is final. -/
theorem Refusal.isFinal_failure (refusal : Refusal) : refusal.failure.IsFinal := by
  cases refusal with
  | misread m =>
    refine isFinal_of_permanentError (f := m.failure) ?_
    rw [m.failure_error]
    rfl
  | longInteger digits => exact isFinal_longInteger digits

theorem failsForGood_reader (t : Text) : FailsForGood (reader t) :=
  failsForGood_mapError (parse t) Refusal.isFinal_failure

end Condition

/-! ## Records -/

namespace Record

variable {name : String} {payload : Payload} {members : Json.Members} {fault : Fault}

/-- A foreseen failure of a record is a lasting error of the registry. -/
theorem Foreseen.isFinal {f : Failure} (h : Foreseen name f) : f.IsFinal := by
  refine isFinal_of_permanentError ?_
  cases h with
  | corrupt message cause error => rw [error]; rfl
  | missingField field error => rw [error]; rfl
  | condition message text position error within => rw [error]; rfl

theorem isFinal_of_json (h : payload.json = .error fault) : (fault.failure name).IsFinal := by
  have known : Unforeseen payload ∨ Foreseen name (fault.failure name) := foreseen_of_json h
  rcases known with unforeseen | foreseen
  · cases unforeseen with
    | @undecodable b undecodable =>
      rw [Payload.json, undecodable] at h
      cases h
      exact isFinal_of_isLasting rfl
    | longInteger long =>
      rw [long] at h
      cases h
      exact Condition.isFinal_longInteger _
    | longCondition json sound text derived met =>
      rw [json] at h
      cases h
  · exact foreseen.isFinal

/-- The condition is the only part of a record whose failure is decided elsewhere. -/
theorem isFinal_of_ofMembers {reader : ConditionReader} (final : ∀ t, FailsForGood (reader t))
    (h : ofMembers reader name members = .error fault) : (fault.failure name).IsFinal := by
  rcases sketch_or_reader_eq_error h with drawn | ⟨t, draw, f, -, reads, rfl⟩
  · exact (plain_sketch members name fault drawn).isFinal
  · exact final t f reads

/-- A record that cannot be decoded is final, with any reader of conditions that fails for good. -/
theorem failsForGood_decode {reader : ConditionReader} (final : ∀ t, FailsForGood (reader t))
    (name : String) (payload : Payload) : FailsForGood (decode reader name payload) := by
  have faults : ∀ fault, read reader name payload = .error fault → (fault.failure name).IsFinal := by
    intro fault h
    unfold read at h
    split at h
    · next json =>
      cases h
      exact isFinal_of_json json
    · exact isFinal_of_ofMembers final h
    · cases h
      exact isFinal_of_permanentError rfl
  rw [decode]
  cases reads : read reader name payload with
  | error fault => exact failsForGood_error (faults fault reads)
  | ok s => exact failsForGood_ok s

end Record

/-! ## The table -/

namespace Schema

/-- The columns are not found only if the table is at fault. -/
theorem failsForGood_resolve (v : View) : FailsForGood (resolve.run v).result := by
  intro f fails
  rcases (called_resolveBy lookAgain v).failure_cases fails with ⟨-, looks⟩ | ⟨fault, rfl⟩
  · cases looks
  · exact isFinal_of_permanentError rfl

end Schema

/-! ## Settings -/

namespace Settings

theorem Fault.isFinal_failure (fault : Fault) : fault.failure.IsFinal := by
  cases fault with
  | timeoutNotANumber => exact isFinal_of_isLasting rfl
  | _ => exact isFinal_of_permanentError rfl

theorem failsForGood_validate (s : Settings) : FailsForGood s.validate := by
  rw [validate]
  cases s.fault? with
  | none => exact failsForGood_ok ()
  | some fault => exact failsForGood_error fault.isFinal_failure

theorem failsForGood_checked (s : Settings) : FailsForGood s.checked := by
  rw [checked]
  cases s.fault? with
  | none => exact failsForGood_ok s
  | some fault => exact failsForGood_error fault.isFinal_failure

/-- An error of the configuration is final, whatever is to blame for it. -/
theorem isFinal_blaming (message : String) (cause : Raised) : (blaming message cause).IsFinal :=
  isFinal_configuration message _ _

theorem failsForGood_portFrom (env : Environment) : FailsForGood (portFrom env) := by
  rw [portFrom]
  cases filled? env "PORT" with
  | none => exact failsForGood_ok _
  | some text => exact failsForGood_mapError _ (isFinal_blaming _)

theorem failsForGood_timeoutFrom (env : Environment) : FailsForGood (timeoutFrom env) := by
  rw [timeoutFrom]
  cases filled? env "CONNECT_TIMEOUT" with
  | none => exact failsForGood_ok _
  | some text => exact failsForGood_mapError _ (isFinal_blaming _)

theorem failsForGood_ofEnvironment (env : Environment) : FailsForGood (ofEnvironment env) := by
  refine FailsForGood.bind ?_ failsForGood_checked
  exact (failsForGood_portFrom env).bind fun _ =>
    (failsForGood_timeoutFrom env).bind fun _ => failsForGood_ok _

end Settings

/-! ## Addresses -/

namespace StoreUrl

theorem failsForGood_backend (url : String) : FailsForGood (backend url) := by
  rw [backend]
  cases backend? url.toList with
  | some b => exact failsForGood_ok b
  | none => exact failsForGood_error (isFinal_configuration _ none [])

theorem isFinal_portFault (url : String) (cause : Raised) : (portFault url cause).IsFinal :=
  Settings.isFinal_blaming _ cause

/-- A port that cannot be read is final, in whichever entry it stands. -/
theorem failsForGood_readEntries (url : String) (port : Option Int) (entries : List (List Char)) :
    FailsForGood (readEntries url port entries) := by
  induction entries generalizing port with
  | nil => exact failsForGood_ok _
  | cons entry entries ih =>
    rw [readEntries]
    rcases splitEntry entry with ⟨host, _ | text⟩
    · exact (ih port).bind fun _ => failsForGood_ok _
    · have reads := failsForGood_mapError ((Settings.readInt (String.ofList text)).map some)
        (isFinal_portFault url)
      exact reads.bind fun last => (ih last).bind fun _ => failsForGood_ok _

theorem failsForGood_ofParts (url : String) (p : Parts) : FailsForGood (Changes.ofParts url p) := by
  rw [Changes.ofParts]
  simp only
  split
  · exact failsForGood_ok _
  · exact (failsForGood_readEntries url none _).bind fun _ => failsForGood_ok _

theorem failsForGood_settings (url : String) (base : Settings) : FailsForGood (settings url base) := by
  have parted : FailsForGood ((parts url.toList).mapError fun fault =>
      ofRaised (.ofStandard .valueError fault.message)) :=
    failsForGood_mapError _ fun _ => isFinal_of_isLasting rfl
  exact parted.bind fun p => (failsForGood_ofParts url p).bind fun _ =>
    Settings.failsForGood_checked _

end StoreUrl

/-! ## All that is read from outside -/

/-- **Bad data and bad settings are never retried.**  Whatever reading a condition, decoding a record,
finding the columns of the table, reading or validating settings, or reading an address fails with, is
said to be certain not to pass and not to be worth a retry, its causes included. -/
theorem failsForGood_of_input :
    (∀ t, FailsForGood (Condition.reader t)) ∧
      (∀ v, FailsForGood ((Condition.ofJson v).mapError Condition.Refusal.failure)) ∧
      (∀ name payload, FailsForGood (Record.decode Condition.reader name payload)) ∧
      (∀ v, FailsForGood (Schema.resolve.run v).result) ∧
      (∀ env, FailsForGood (Settings.ofEnvironment env)) ∧
      (∀ s : Settings, FailsForGood s.validate) ∧
      (∀ url, FailsForGood (StoreUrl.backend url)) ∧
      ∀ url base, FailsForGood (StoreUrl.settings url base) :=
  ⟨Condition.failsForGood_reader,
    fun v => failsForGood_mapError (Condition.ofJson v) Condition.Refusal.isFinal_failure,
    Record.failsForGood_decode Condition.failsForGood_reader,
    Schema.failsForGood_resolve,
    Settings.failsForGood_ofEnvironment,
    Settings.failsForGood_validate,
    StoreUrl.failsForGood_backend,
    StoreUrl.failsForGood_settings⟩

/-- An error of the registry without a cause, one with a cause, and a fault of values that nobody
caught. -/
theorem isFinal_of_faulty_input :
    (∃ f, ({ hosts := [] } : Settings).validate = .error f ∧ f.IsFinal) ∧
      (∃ f, Record.decode Condition.reader "a" (.other "int") = .error f ∧ f.causes ≠ [] ∧
        f.IsFinal) ∧
      ∃ f, StoreUrl.settings "//[" {} = .error f ∧ f.error.isA (.own .permanentError) = false ∧
        f.IsFinal := by
  obtain ⟨-, -, decode, -, -, validate, -, settings⟩ := failsForGood_of_input
  have hostless : ({ hosts := [] } : Settings).validate = .error Settings.Fault.noHost.failure := rfl
  have foreign : Record.decode Condition.reader "a" (.other "int") =
      .error ((Record.Fault.foreign "int").failure "a") := rfl
  have brackets : StoreUrl.settings "//[" {} =
      .error (ofRaised (.ofStandard .valueError StoreUrl.AuthorityFault.brackets.message)) := by
    have parted : StoreUrl.parts "//[".toList = .error .brackets := by decide +kernel
    rw [StoreUrl.settings, parted]
    rfl
  exact ⟨⟨_, hostless, validate _ _ hostless⟩,
    ⟨_, foreign, List.cons_ne_nil _ _, decode _ _ _ foreign⟩,
    ⟨_, brackets, by decide, settings _ _ _ brackets⟩⟩

end EventRoster
