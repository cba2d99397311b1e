import EventRoster.Proofs.Number.Setting
import EventRoster.Proofs.Settings.Validation
import EventRoster.Settings.Environment

/-!
# What the environment loads

The variables hold any text at all, and what is read from them is validated.  Loading either refuses
the variables with an error of the configuration, or makes settings that can be connected with:
`Loads`.  There is one way around the validation, which turns down timeouts that are at most zero.  A
timeout that is no number is not at most zero, so that the name of what is no number passes for a
timeout.

* `failsOnly_ofEnvironment`: the errors of loading.
* `mayConnect_of_ofEnvironment`: what holds of all that is loaded, whatever its timeout.
* `loads_iff_not_spellsNan`: the environments that load as they should.
-/

namespace EventRoster.Settings

open EventRoster.Failure
open EventRoster.Text (IsTrimmed)
open EventRoster.Number.Setting (SpellsNan readFloat?_eq_some_nan_iff)

variable {env : Environment} {s : Settings}

/-! ## Lists of hosts -/

/-- Some entries and the hosts in them: each entry that is not blank gives what stands between the
blanks around it, in order. -/
inductive AreHosts : List (List Char) → List String → Prop
  | nil : AreHosts [] []
  | blank {entry : List Char} {entries : List (List Char)} {hosts : List String} :
    (∀ c ∈ entry, Text.isBlank c = true) → AreHosts entries hosts → AreHosts (entry :: entries) hosts
  | host {entry core : List Char} {entries : List (List Char)} {hosts : List String} :
    core ≠ [] → IsTrimmed Text.isBlank entry core → AreHosts entries hosts →
      AreHosts (entry :: entries) (String.ofList core :: hosts)

/-- A text with commas between its entries lists some hosts. -/
def Lists (text : String) (hosts : List String) : Prop :=
  ∃ entries, text.toList = [','].intercalate entries ∧ (∀ entry ∈ entries, ',' ∉ entry) ∧
    AreHosts entries hosts

theorem areHosts_trim (entries : List (List Char)) :
    AreHosts entries
      ((entries.map fun host => String.ofList (Text.trim host)).filter (· ≠ "")) := by
  induction entries with
  | nil => exact .nil
  | cons entry entries ih =>
    have trimmed : IsTrimmed Text.isBlank entry (Text.trim entry) :=
      Text.isTrimmed_trimBy Text.isBlank entry
    rw [List.map_cons]
    by_cases empty : Text.trim entry = []
    · rw [empty] at trimmed ⊢
      obtain ⟨front, back, whole, blank, -⟩ := trimmed
      rw [List.append_nil] at whole
      subst whole
      exact .blank blank ih
    · have named : String.ofList (Text.trim entry) ≠ "" :=
        fun h => empty (String.ofList_eq_empty_iff.1 h)
      rw [List.filter_cons_of_pos (by simpa using named)]
      exact .host empty trimmed ih

/-- **The hosts of a text are those that it lists.** -/
theorem lists_splitHosts (text : String) : Lists text (splitHosts text) := by
  obtain ⟨whole, absent⟩ := Text.intercalate_splitAt ',' text.toList
  exact ⟨_, whole.symm, absent, areHosts_trim _⟩

/-- The hosts unless others are listed. -/
theorem splitHosts_default : splitHosts "127.0.0.1" = ({} : Settings).hosts := by decide

/-! ## Reading the variables -/

/-- A variable that is set to something is not empty. -/
theorem filled?_ne_empty {setting text : String} (h : filled? env setting = some text) :
    text ≠ "" := by
  simpa using (Option.filter_eq_some_iff.1 h).2

theorem isMisconfiguration_blaming (message : String) (cause : Raised) :
    (blaming message cause).IsMisconfiguration := rfl

theorem failsOnly_portFrom : FailsOnly IsMisconfiguration (portFrom env) := by
  rw [portFrom]
  split
  · exact failsOnly_ok _
  · exact failsOnly_mapError _ (isMisconfiguration_blaming _)

theorem failsOnly_timeoutFrom : FailsOnly IsMisconfiguration (timeoutFrom env) := by
  rw [timeoutFrom]
  split
  · exact failsOnly_ok _
  · exact failsOnly_mapError _ (isMisconfiguration_blaming _)

/-- The timeout is a binary64 number, and no number if the variable spells that. -/
theorem timeoutFrom_eq_ok {timeout : Scalar} (h : timeoutFrom env = .ok timeout) :
    ∃ x, timeout = .float x ∧
      (x = .nan ↔ ∃ text, filled? env "CONNECT_TIMEOUT" = some text ∧ SpellsNan text.toList) := by
  rw [timeoutFrom] at h
  split at h
  · next unset =>
    refine ⟨defaultTimeout, (Except.ok.inj h).symm, ?_⟩
    rw [unset]
    simp only [reduceCtorEq, false_and, exists_false, iff_false]
    decide
  · next text set =>
    rw [readFloat] at h
    split at h
    · next x read =>
      refine ⟨x, (Except.ok.inj h).symm, ?_⟩
      have spelled : x = .nan ↔ SpellsNan text.toList := by
        rw [← readFloat?_eq_some_nan_iff, read, Option.some.injEq]
      rw [spelled, set]
      simp
    · cases h

theorem failsOnly_gather : FailsOnly IsMisconfiguration (gather env) :=
  failsOnly_portFrom.bind fun _ _ => failsOnly_timeoutFrom.bind fun _ _ => failsOnly_ok _

/-- What is gathered, as far as the validation does not look at it. -/
theorem gather_eq_ok (h : gather env = .ok s) :
    s.hosts = splitHosts ((value? env "HOSTS").getD "127.0.0.1") ∧
      timeoutFrom env = .ok s.connectTimeout ∧
      s.username = filled? env "USERNAME" ∧ s.password = filled? env "PASSWORD" := by
  rw [gather] at h
  cases port : portFrom env with
  | error f =>
    rw [port] at h
    cases h
  | ok port =>
    cases timeout : timeoutFrom env with
    | error f =>
      rw [port, timeout] at h
      cases h
    | ok timeout =>
      rw [port, timeout] at h
      obtain rfl := Except.ok.inj h
      refine ⟨?_, rfl, rfl, rfl⟩
      cases value? env "HOSTS" with
      | none => exact splitHosts_default.symm
      | some text => rfl

/-! ## Loading -/

/-- Settings that can be connected with, but for their timeout, out of a list of hosts. -/
structure MayConnect (hosts : String) (s : Settings) : Prop where
  hosts : Lists hosts s.hosts
  hosts_ne_nil : s.hosts ≠ []
  one_le_port : 1 ≤ s.port
  keyspace : ∃ keyspace, s.keyspace = some keyspace ∧ keyspace ≠ ""
  table : ∃ table, s.table = some table ∧ table ≠ ""
  credentials : (s.username = none ∧ s.password = none) ∨
    ∃ user password, s.username = some user ∧ user ≠ "" ∧ s.password = some password ∧ password ≠ ""

/-- Settings that can be connected with, out of a list of hosts. -/
structure Connects (hosts : String) (s : Settings) : Prop extends MayConnect hosts s where
  timeout : s.connectTimeout.IsPositive

/-- The environment makes settings that can be connected with, or is refused as misconfigured. -/
def Loads (env : Environment) : Prop :=
  (∃ s, ofEnvironment env = .ok s ∧ Connects ((value? env "HOSTS").getD "127.0.0.1") s) ∨
    ∃ f, ofEnvironment env = .error f ∧ f.IsMisconfiguration

theorem ofEnvironment_eq_ok (h : ofEnvironment env = .ok s) :
    gather env = .ok s ∧ s.fault? = none := by
  rw [ofEnvironment] at h
  cases gathered : gather env with
  | error f =>
    rw [gathered] at h
    cases h
  | ok t =>
    rw [gathered] at h
    obtain ⟨faultless, rfl⟩ := checked_eq_ok_iff.1 h
    exact ⟨rfl, faultless⟩

/-- **Loading fails with errors of the configuration only.** -/
theorem failsOnly_ofEnvironment : FailsOnly IsMisconfiguration (ofEnvironment env) := by
  refine failsOnly_gather.bind fun s gathered => failsOnly_checked ?_
  obtain ⟨-, timeout, -⟩ := gather_eq_ok gathered
  obtain ⟨x, float, -⟩ := timeoutFrom_eq_ok timeout
  rw [float]
  nofun

/-- Credentials from the environment are there together or not at all, and are not empty. -/
theorem credentials_of_ofEnvironment (h : ofEnvironment env = .ok s) :
    (s.username = none ∧ s.password = none) ∨ ∃ user password,
      s.username = some user ∧ user ≠ "" ∧ s.password = some password ∧ password ≠ "" := by
  obtain ⟨gathered, faultless⟩ := ofEnvironment_eq_ok h
  obtain ⟨-, -, -, -, -, together⟩ := fault?_eq_none_iff.1 faultless
  obtain ⟨-, -, user, password⟩ := gather_eq_ok gathered
  rw [user, password] at together ⊢
  cases username : filled? env "USERNAME" with
  | none =>
    rw [username] at together
    exact .inl ⟨rfl, Option.isNone_iff_eq_none.1 together.symm⟩
  | some u =>
    rw [username] at together
    obtain ⟨p, password⟩ := Option.isSome_iff_exists.1 (Option.isNone_eq_false_iff.1 together.symm)
    rw [password]
    exact .inr ⟨u, p, rfl, filled?_ne_empty username, rfl, filled?_ne_empty password⟩

/-- **All that is loaded** can be connected with, but for its timeout, which is positive or no number
at all, as it is spelled. -/
theorem mayConnect_of_ofEnvironment (h : ofEnvironment env = .ok s) :
    MayConnect ((value? env "HOSTS").getD "127.0.0.1") s ∧
      (s.connectTimeout.IsPositive ↔
        ¬∃ text, filled? env "CONNECT_TIMEOUT" = some text ∧ SpellsNan text.toList) := by
  obtain ⟨gathered, faultless⟩ := ofEnvironment_eq_ok h
  obtain ⟨hosts, port, keyspace, table, passed, -⟩ := fault?_eq_none_iff.1 faultless
  obtain ⟨listed, timeout, -, -⟩ := gather_eq_ok gathered
  obtain ⟨x, float, spelled⟩ := timeoutFrom_eq_ok timeout
  constructor
  · exact ⟨listed ▸ lists_splitHosts _, hosts, port, isBlank_eq_false_iff.1 keyspace,
      isBlank_eq_false_iff.1 table, credentials_of_ofEnvironment h⟩
  · rw [← spelled]
    rw [float] at passed ⊢
    rcases nonpositive?_eq_some_false_iff.1 passed with positive | nan
    · refine iff_of_true positive ?_
      rintro rfl
      exact positive
    · obtain rfl := Scalar.float.inj nan
      exact iff_of_false id (not_not_intro rfl)

/-- **The environments that load as they should** are all but those that are let through with the name
of what is no number for their timeout. -/
theorem loads_iff_not_spellsNan (env : Environment) :
    Loads env ↔ ¬((∃ s, ofEnvironment env = .ok s) ∧
      ∃ text, filled? env "CONNECT_TIMEOUT" = some text ∧ SpellsNan text.toList) := by
  cases loaded : ofEnvironment env with
  | error f =>
    refine iff_of_true (.inr ⟨f, loaded, failsOnly_ofEnvironment f loaded⟩) ?_
    rintro ⟨⟨s, ⟨⟩⟩, -⟩
  | ok s =>
    obtain ⟨mayConnect, positive⟩ := mayConnect_of_ofEnvironment loaded
    constructor
    · rintro (⟨t, ok, connects⟩ | ⟨f, error, -⟩)
      · obtain rfl := Except.ok.inj (loaded.symm.trans ok)
        exact fun ⟨_, spelled⟩ => positive.1 connects.timeout spelled
      · rw [loaded] at error
        cases error
    · intro notSpelled
      exact .inl ⟨s, loaded, mayConnect, positive.2 fun spelled => notSpelled ⟨⟨s, rfl⟩, spelled⟩⟩

/-- A timeout that is no number is let through. -/
theorem not_loads_of_nan : ¬Loads [("SUBREGISTRY_CASSANDRA_CONNECT_TIMEOUT", "nan")] := by
  have gathered : gather [("SUBREGISTRY_CASSANDRA_CONNECT_TIMEOUT", "nan")] =
      .ok { connectTimeout := .float .nan } := rfl
  have faultless : ({ connectTimeout := .float .nan } : Settings).fault? = none := by decide
  have loaded : ofEnvironment [("SUBREGISTRY_CASSANDRA_CONNECT_TIMEOUT", "nan")] =
      .ok { connectTimeout := .float .nan } := by
    rw [ofEnvironment, gathered]
    exact checked_of_fault?_eq_none faultless
  rintro (⟨s, ok, connects⟩ | ⟨f, error, -⟩)
  · obtain rfl := Except.ok.inj (loaded.symm.trans ok)
    exact connects.timeout
  · rw [loaded] at error
    cases error

end EventRoster.Settings
