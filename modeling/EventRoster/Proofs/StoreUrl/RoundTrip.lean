import EventRoster.Proofs.StoreUrl.Changes
import Mathlib.Data.List.Basic

/-!
# Addresses that are read back

An address is complete if it has hosts and nothing that is written in it is empty.  Complete addresses
are read back as they were written: all hosts in their order, the last port, and the credentials, the
keyspace, the table and the data center that are there.  What is not there stays as it was.

Every text can be written as a value, for instance with all its bytes in hexadecimal digits.

* `settings_of_isComplete`: complete addresses over valid settings.
-/

namespace EventRoster.StoreUrl

open EventRoster.Text
open EventRoster.Settings (fault?_eq_none_iff checked_of_fault?_eq_none isBlank_eq_false_iff)

/-! ## Writing any text -/

/-- Some bytes in hexadecimal digits. -/
def inHex (bytes : List UInt8) : List Char :=
  bytes.flatMap fun b => ['%', hexDigit (b.toNat / 16), hexDigit (b.toNat % 16)]

theorem writesBytes_inHex (bytes : List UInt8) : WritesBytes (inHex bytes) bytes := by
  induction bytes with
  | nil => exact .nil
  | cons b bytes ih => exact .cons List.mem_cons_self List.mem_cons_self ih

theorem escapes_inHex (s : List Char) : Escapes (inHex (Utf8.encode s)) s := by
  induction s with
  | nil => exact .nil
  | cons c s ih =>
    have whole : inHex (Utf8.encode (c :: s)) =
        inHex (String.utf8EncodeChar c) ++ inHex (Utf8.encode s) := by
      rw [Utf8.encode, List.flatMap_cons, inHex, List.flatMap_append]
      rfl
    rw [whole]
    exact .bytes (writesBytes_inHex _) ih

/-- **Any text can be written** as a value. -/
def Value.ofText (s : String) : Value :=
  ⟨s.toList, inHex (Utf8.encode s.toList), escapes_inHex s.toList⟩

/-! ## Complete addresses -/

/-- A word as a string. -/
def Word.string {p : Char → Bool} (word : Word p) : String :=
  String.ofList word.chars

/-- The number that a port spells. -/
def Port.number (port : Port) : Int :=
  Nat.ofDigitChars 10 port.chars 0

namespace Written

variable {w : Written} {base : Settings}

/-- There are hosts, and nothing that is written is empty. -/
structure IsComplete (w : Written) : Prop where
  entries : w.entries ≠ []
  hosts : ∀ e ∈ w.entries, e.host.chars ≠ []
  ports : ∀ e ∈ w.entries, ∀ port, e.port = some port → port.chars ≠ []
  login : ∀ l, w.login = some l →
    l.user.chars ≠ [] ∧ ∃ password, l.password = some password ∧ password.chars ≠ []
  keyspace : ∀ keyspace, w.keyspace = some keyspace → keyspace.chars ≠ []
  query : ∀ field v, w.value? field = some v → v.text ≠ []

/-- The settings with those replaced that are written. -/
def written (w : Written) (base : Settings) : Settings :=
  { base with
    hosts := w.entries.map fun e => e.host.string
    port := ((w.entries.filterMap Entry.port).getLast?.map Port.number).getD base.port
    keyspace := (w.keyspace.map Word.string).or base.keyspace
    table := ((w.value? .table).map fun v => String.ofList v.text).or base.table
    localDc := ((w.value? .localDc).map fun v => String.ofList v.text).or base.localDc
    username := (w.login.map fun l => l.user.string).or base.username
    password := ((w.login.bind Login.password).map Word.string).or base.password }

theorem given_map {α : Type} {a : Option α} {chars : α → List Char}
    (full : ∀ b, a = some b → chars b ≠ []) :
    given (a.map chars) = a.map fun b => String.ofList (chars b) := by
  cases a with
  | none => rfl
  | some b => exact if_neg (full b rfl)

theorem hostsOf_of_isComplete (complete : w.IsComplete) :
    hostsOf w.entries = w.entries.map fun e => e.host.string :=
  List.filterMap_eq_map_iff_forall_eq_some.2 fun e he => if_neg (complete.hosts e he)

theorem portsOf_of_isComplete (complete : w.IsComplete) :
    portsOf w.entries =
      (w.entries.filterMap Entry.port).map Port.number := by
  rw [portsOf, List.map_filterMap]
  refine List.filterMap_congr fun e he => ?_
  cases there : e.port with
  | none => rfl
  | some port => exact if_neg (complete.ports e he port there)

theorem hostText_ne_nil_of_isComplete (complete : w.IsComplete) : w.hostText ≠ [] := by
  intro empty
  have none := (w.of_hostText_eq_nil empty).1
  rw [hostsOf_of_isComplete complete] at none
  exact complete.entries (List.map_eq_nil_iff.1 none)

/-- A complete address replaces what is written. -/
theorem apply_changes_of_isComplete (complete : w.IsComplete) :
    w.changes.apply base = w.written base := by
  have keyspace := given_map complete.keyspace
  have table := given_map (complete.query .table)
  have localDc := given_map (complete.query .localDc)
  rw [Changes.apply, changes, written, keyspace, table, localDc,
    if_neg (hostText_ne_nil_of_isComplete complete), hostsOf_of_isComplete complete,
    portsOf_of_isComplete complete, List.getLast?_map]
  cases login : w.login with
  | none => rfl
  | some l =>
    obtain ⟨user, password, there, full⟩ := complete.login l login
    have newUser : given (some l.user.chars) = some l.user.string := if_neg user
    have newPassword : given (some password.chars) = some password.string := if_neg full
    dsimp only [Option.map_some, Option.bind_some, Login.credentials]
    rw [there, Option.map_some, newUser, newPassword]
    rfl

/-- A name that replaces another is not blank if both are not. -/
theorem isBlank_or {name atHand : Option String} (new : ∀ n, name = some n → n ≠ "")
    (old : Settings.isBlank atHand = false) : Settings.isBlank (name.or atHand) = false := by
  cases name with
  | none => exact old
  | some n => exact isBlank_eq_false_iff.2 ⟨n, rfl, new n rfl⟩

theorem ofList_ne_empty {s : List Char} (h : s ≠ []) : String.ofList s ≠ "" :=
  mt String.ofList_eq_empty_iff.1 h

theorem pos_of_mem_ports (complete : w.IsComplete) {port : Port}
    (h : port ∈ w.entries.filterMap Entry.port) : 0 < port.number := by
  obtain ⟨e, he, there⟩ := List.mem_filterMap.1 h
  exact Int.natCast_pos.2 (port.positive (complete.ports e he port there))

theorem fault?_written (complete : w.IsComplete) (valid : base.fault? = none) :
    (w.written base).fault? = none := by
  obtain ⟨-, port, keyspace, table, timeout, together⟩ := fault?_eq_none_iff.1 valid
  refine fault?_eq_none_iff.2 ⟨?_, ?_, isBlank_or ?_ keyspace, isBlank_or ?_ table, timeout, ?_⟩
  · exact fun none => complete.entries (List.map_eq_nil_iff.1 none)
  · rw [written]
    dsimp only
    cases last : (w.entries.filterMap Entry.port).getLast? with
    | none => exact port
    | some p => exact pos_of_mem_ports complete (List.mem_of_getLast? last)
  · intro n hn
    obtain ⟨word, there, rfl⟩ := Option.map_eq_some_iff.1 hn
    exact ofList_ne_empty (complete.keyspace word there)
  · intro n hn
    obtain ⟨v, there, rfl⟩ := Option.map_eq_some_iff.1 hn
    exact ofList_ne_empty (complete.query .table v there)
  · rw [written]
    dsimp only
    cases login : w.login with
    | none => exact together
    | some l =>
      obtain ⟨-, password, there, -⟩ := complete.login l login
      rw [Option.bind_some, there]
      rfl

/-- **Complete addresses are read back as they were written**, over any valid settings. -/
theorem settings_of_isComplete (complete : w.IsComplete) (valid : base.fault? = none) :
    backend w.text = .ok .cassandra ∧ settings w.text base = .ok (w.written base) := by
  have full : ¬w.HasGap := fun ⟨e, he, port, there, empty⟩ => complete.ports e he port there empty
  refine ⟨backend_text w, ?_⟩
  rw [w.settings_text full, apply_changes_of_isComplete complete]
  exact checked_of_fault?_eq_none (fault?_written complete valid)

/-- Three hosts with two ports, a password with delimiters, and a data center beyond ASCII. -/
def threeHosts : Written where
  login := some ⟨⟨"app".toList, by decide⟩, some ⟨"p:w@1".toList, by decide⟩⟩
  entries := [⟨⟨"db1".toList, by decide⟩,
      some ⟨⟨"9042".toList, by decide⟩, by decide, fun _ => by decide⟩⟩,
    ⟨⟨"10.0.0.2".toList, by decide⟩,
      some ⟨⟨"9043".toList, by decide⟩, by decide, fun _ => by decide⟩⟩,
    ⟨⟨"db-3".toList, by decide⟩, none⟩]
  keyspace := some ⟨"events".toList, by decide⟩
  query := some ⟨none, some (Value.ofText "süd 1")⟩

theorem settings_of_isComplete_threeHosts :
    threeHosts.text = "cassandra://app:p:w@1@db1:9042,10.0.0.2:9043,db-3/events" ++
        "?local_dc=%73%c3%bc%64%20%31" ∧
      threeHosts.IsComplete ∧ ({} : Settings).fault? = none ∧
      settings threeHosts.text {} = .ok
        { hosts := ["db1", "10.0.0.2", "db-3"], port := 9043, keyspace := some "events"
          localDc := some "süd 1", username := some "app", password := some "p:w@1" } := by
  have complete : threeHosts.IsComplete := by
    refine ⟨by decide, by decide, ?_, ?_, ?_, ?_⟩
    · rintro e he port there
      rcases he with _ | ⟨_, _ | ⟨_, _ | ⟨_, ⟨⟩⟩⟩⟩ <;> cases there <;> decide
    · rintro l ⟨⟩
      exact ⟨by decide, _, rfl, by decide⟩
    · rintro keyspace ⟨⟩
      decide
    · rintro (_ | _) v ⟨⟩
      decide
  have valid : ({} : Settings).fault? = none := by decide
  exact ⟨by decide, complete, valid, (settings_of_isComplete complete valid).2⟩

end Written

end EventRoster.StoreUrl
