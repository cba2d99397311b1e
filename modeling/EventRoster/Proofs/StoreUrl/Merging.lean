import EventRoster.Proofs.StoreUrl.Changes

/-!
# What an address leaves out

What a written address leaves out should come from the settings at hand, and what is there and empty
counts as left out.  `merged` are the settings at hand with exactly those replaced whose component has
text, and `FillsIn` says that an address makes these settings of valid ones, or is refused as a
misconfiguration if they are not valid.

There are three ways to go astray, all with components that are there and empty.  A colon with no port
behind it is refused.  Text without a host in it, such as a port alone, replaces the hosts at hand by
none.  And a user without a password, or a password without a user, takes away the credentials at
hand, of which then one half is missing.

* `fillsIn_iff_isWhole`: the addresses that fill in what they leave out.
-/

namespace EventRoster.StoreUrl.Written

open EventRoster.Failure
open EventRoster.Settings (fault?_eq_none_iff failsOnly_checked checked_eq_ok_iff)

variable (w : Written) (base : Settings)

/-- The settings with exactly those replaced whose component has text. -/
def merged : Settings :=
  { base with
    hosts := if hostsOf w.entries = [] then base.hosts else hostsOf w.entries
    port := (portsOf w.entries).getLast?.getD base.port
    keyspace := (given (w.keyspace.map Word.chars)).or base.keyspace
    table := (given ((w.value? .table).map Value.text)).or base.table
    localDc := (given ((w.value? .localDc).map Value.text)).or base.localDc
    username := (given (w.login.map (·.user.chars))).or base.username
    password := (given ((w.login.bind Login.password).map Word.chars)).or base.password }

/-- The address makes the merged settings of others, or is refused if those are not valid. -/
structure FillsIn : Prop where
  ok : (w.merged base).fault? = none → settings w.text base = .ok (w.merged base)
  refused : (w.merged base).fault? ≠ none →
    ∃ f, settings w.text base = .error f ∧ f.IsMisconfiguration

/-- Nothing that is written is half there: ports have digits, hosts that are written at all have one
that is not empty, and credentials over others have both a user and a password. -/
structure IsWhole : Prop where
  ports : ¬w.HasGap
  hosts : w.hostText = [] ∨ hostsOf w.entries ≠ []
  login : ∀ l, w.login = some l → base.username = none ∨
    l.user.chars ≠ [] ∧ ∃ password, l.password = some password ∧ password.chars ≠ []

variable {w base}

/-! ## Hosts -/

theorem hosts_apply_changes_eq_iff (valid : base.fault? = none) :
    (w.changes.apply base).hosts = (w.merged base).hosts ↔
      w.hostText = [] ∨ hostsOf w.entries ≠ [] := by
  have atHand := (fault?_eq_none_iff.1 valid).1
  show (if w.hostText = [] then none else some (hostsOf w.entries)).getD base.hosts =
    (if hostsOf w.entries = [] then base.hosts else hostsOf w.entries) ↔ _
  by_cases empty : w.hostText = []
  · simp [empty, (w.of_hostText_eq_nil empty).1]
  · by_cases none : hostsOf w.entries = []
    · simp [empty, none, atHand.symm]
    · simp [empty, none]

theorem hosts_merged_ne_nil (valid : base.fault? = none) : (w.merged base).hosts ≠ [] := by
  have atHand := (fault?_eq_none_iff.1 valid).1
  show (if hostsOf w.entries = [] then base.hosts else hostsOf w.entries) ≠ []
  split
  · exact atHand
  · assumption

/-! ## Credentials -/

section Halves

variable {user password userAtHand passwordAtHand : Option String}

/-- Credentials stay as they are over those at hand if there are none or both halves are new. -/
theorem eq_or_iff (user password : Option String)
    (together : userAtHand.isNone = passwordAtHand.isNone) :
    (user = user.or userAtHand ∧ password = password.or passwordAtHand) ↔
      userAtHand = none ∨ user ≠ none ∧ password ≠ none := by
  cases userAtHand <;> cases passwordAtHand <;> cases user <;> cases password <;> simp_all

/-- Two halves over two halves are two halves. -/
theorem isNone_or (new : user.isNone = password.isNone)
    (together : userAtHand.isNone = passwordAtHand.isNone) :
    (user.or userAtHand).isNone = (password.or passwordAtHand).isNone := by
  cases userAtHand <;> cases passwordAtHand <;> cases user <;> cases password <;> simp_all

end Halves

theorem given_some_ne_none_iff {s : List Char} : given (some s) ≠ none ↔ s ≠ [] := by
  simp [given]

theorem given_map_ne_none_iff {α : Type} {a : Option α} {chars : α → List Char} :
    given (a.map chars) ≠ none ↔ ∃ b, a = some b ∧ chars b ≠ [] := by
  cases a <;> simp [given]

theorem login_apply_changes_eq_iff (valid : base.fault? = none) :
    ((w.changes.apply base).username = (w.merged base).username ∧
      (w.changes.apply base).password = (w.merged base).password) ↔
      ∀ l, w.login = some l → base.username = none ∨
        l.user.chars ≠ [] ∧ ∃ password, l.password = some password ∧ password.chars ≠ [] := by
  have together := (fault?_eq_none_iff.1 valid).2.2.2.2.2
  rw [Changes.apply, changes, merged]
  dsimp only
  cases w.login with
  | none =>
    refine iff_of_true ⟨rfl, rfl⟩ ?_
    rintro l ⟨⟩
  | some l =>
    have halves := eq_or_iff (given (some l.user.chars)) (given (l.password.map Word.chars)) together
    rw [given_some_ne_none_iff, given_map_ne_none_iff] at halves
    simpa [Login.credentials] using halves

/-! ## Merging -/

/-- The merged settings are valid if those are that the address makes. -/
theorem fault?_merged (valid : base.fault? = none) (h : (w.changes.apply base).fault? = none) :
    (w.merged base).fault? = none := by
  obtain ⟨-, port, keyspace, table, timeout, new⟩ := fault?_eq_none_iff.1 h
  have together := (fault?_eq_none_iff.1 valid).2.2.2.2.2
  refine fault?_eq_none_iff.2
    ⟨hosts_merged_ne_nil valid, port, keyspace, table, timeout, ?_⟩
  rw [Changes.apply, changes] at new
  rw [merged]
  dsimp only at new ⊢
  cases login : w.login with
  | none => exact together
  | some l =>
    rw [login] at new
    exact isNone_or new together

theorem apply_changes_eq_merged_iff (valid : base.fault? = none) :
    w.changes.apply base = w.merged base ↔
      (w.hostText = [] ∨ hostsOf w.entries ≠ []) ∧ ∀ l, w.login = some l → base.username = none ∨
        l.user.chars ≠ [] ∧ ∃ password, l.password = some password ∧ password.chars ≠ [] := by
  rw [← hosts_apply_changes_eq_iff valid, ← login_apply_changes_eq_iff valid]
  constructor
  · intro same
    rw [same]
    exact ⟨rfl, rfl, rfl⟩
  · rintro ⟨hosts, username, password⟩
    unfold Changes.apply merged at *
    dsimp only at hosts username password ⊢
    rw [hosts, username, password]
    rfl

/-- An address whose merged settings are not valid is refused as misconfigured. -/
theorem refused_of_fault?_merged (valid : base.fault? = none)
    (faulty : (w.merged base).fault? ≠ none) :
    ∃ f, settings w.text base = .error f ∧ f.IsMisconfiguration := by
  by_cases gap : w.HasGap
  · exact w.settings_text_of_hasGap gap base
  · rw [w.settings_text gap]
    have timeout : Settings.nonpositive? (w.changes.apply base).connectTimeout ≠ none := by
      have passed := (fault?_eq_none_iff.1 valid).2.2.2.2.1
      exact fun none => Option.some_ne_none _ (passed.symm.trans none)
    cases checked : (w.changes.apply base).checked with
    | error f => exact ⟨f, rfl, failsOnly_checked timeout f checked⟩
    | ok s => exact absurd (fault?_merged valid (checked_eq_ok_iff.1 checked).1) faulty

/-- **The addresses that fill in what they leave out** are those with nothing half there, and those
whose merged settings are not valid. -/
theorem fillsIn_iff_isWhole (valid : base.fault? = none) :
    w.FillsIn base ↔ ((w.merged base).fault? = none → w.IsWhole base) := by
  constructor
  · intro fillsIn faultless
    have settled := fillsIn.ok faultless
    by_cases gap : w.HasGap
    · obtain ⟨f, error, -⟩ := w.settings_text_of_hasGap gap base
      rw [error] at settled
      cases settled
    · rw [w.settings_text gap] at settled
      obtain ⟨hosts, login⟩ :=
        (apply_changes_eq_merged_iff valid).1 (checked_eq_ok_iff.1 settled).2
      exact ⟨gap, hosts, login⟩
  · intro isWhole
    refine ⟨fun faultless => ?_, refused_of_fault?_merged valid⟩
    obtain ⟨gap, hosts, login⟩ := isWhole faultless
    have same := (apply_changes_eq_merged_iff valid).2 ⟨hosts, login⟩
    rw [w.settings_text gap, checked_eq_ok_iff, same]
    exact ⟨faultless, rfl⟩

/-- Two hosts with a port, a path without a keyspace and a table without a name. -/
def hostsAlone : Written where
  login := none
  entries := [⟨⟨"cass1".toList, by decide⟩, none⟩,
    ⟨⟨"cass2".toList, by decide⟩, some ⟨⟨"9142".toList, by decide⟩, by decide, fun _ => by decide⟩⟩]
  keyspace := some ⟨[], by decide⟩
  query := some ⟨some ⟨[], [], .nil⟩, none⟩

/-- All but hosts and port are those at hand. -/
theorem fillsIn_iff_isWhole_hostsAlone :
    hostsAlone.text = "cassandra://cass1,cass2:9142/?table=" ∧ ({} : Settings).fault? = none ∧
      hostsAlone.merged {} = { hosts := ["cass1", "cass2"], port := 9142 } ∧ hostsAlone.FillsIn {} := by
  refine ⟨rfl, by decide, by decide, (fillsIn_iff_isWhole (by decide)).2 fun _ => ⟨?_, ?_, nofun⟩⟩
  · rintro ⟨e, he, port, there, empty⟩
    rcases he with _ | ⟨_, _ | ⟨_, ⟨⟩⟩⟩
    · cases there
    · cases there
      cases empty
  · exact .inr (by decide)

/-- A port without hosts. -/
def portAlone : Written where
  login := none
  entries := [⟨⟨[], by decide⟩, some ⟨⟨"9142".toList, by decide⟩, by decide, fun _ => by decide⟩⟩]
  keyspace := none
  query := none

/-- A port without hosts takes away the hosts at hand. -/
theorem not_fillsIn_of_portAlone :
    portAlone.text = "cassandra://:9142" ∧ ({} : Settings).fault? = none ∧ ¬portAlone.FillsIn {} := by
  refine ⟨rfl, by decide, fun fillsIn => ?_⟩
  have full : ¬portAlone.HasGap := by
    rintro ⟨e, he, port, there, empty⟩
    obtain rfl := List.mem_singleton.1 he
    cases there
    cases empty
  have hostless : (portAlone.changes.apply {}).fault? = some .noHost := by decide
  have filled := fillsIn.ok (by decide)
  rw [portAlone.settings_text full, checked_eq_ok_iff, hostless] at filled
  cases filled.1

end EventRoster.StoreUrl.Written
