import EventRoster.Proofs.Number.Setting
import EventRoster.Proofs.Settings.Validation
import EventRoster.Proofs.StoreUrl.Written
import EventRoster.StoreUrl.Basic

/-!
# What a written address says

What a written address says is read off its components, one delimiter at a time: credentials end with
the last at sign, as there is none in the hosts; the user ends with the first colon, as there is none
in a user; a port begins with the last colon of its entry.  The one thing that cannot be read is a
colon with no port behind it.

* `backend_text`: the kind of store that written addresses name.
* `settings_text`: the settings that they make of others.
* `settings_text_of_hasGap`: what an address with an empty port is refused with.
-/

namespace EventRoster.StoreUrl

open EventRoster.Failure
open EventRoster.Text

/-! ## Scheme -/

/-- The scheme ends with its colon. -/
theorem scheme?_append {s : List Char} (absent : ':' ∉ s) (rest : List Char) :
    scheme? (s ++ ':' :: '/' :: '/' :: rest) = some (s.flatMap lowerChar) := by
  induction s with
  | nil => rfl
  | cons c s ih =>
    have other : ':' ≠ c := List.ne_of_not_mem_cons absent
    rw [List.cons_append, scheme?, after?, if_neg other, ih (List.not_mem_of_not_mem_cons absent),
      List.flatMap_cons]
    rfl

/-- **A written address names the wide-column database.** -/
theorem backend_text (w : Written) : backend w.text = .ok .cassandra := by
  have absent : ':' ∉ "cassandra".toList := by decide
  have lower : "cassandra".toList.flatMap lowerChar = Backend.cassandra.name.toList := by decide
  have other : Backend.cassandra.name.toList ≠ Backend.memory.name.toList := by decide
  have front : w.text.toList = "cassandra".toList ++ ':' :: '/' :: '/' :: (w.authority ++ w.rest) := by
    rw [w.toList_text, List.append_assoc]
    rfl
  have named : backend? w.text.toList = some .cassandra := by
    rw [front, backend?, scheme?_append absent, lower]
    dsimp only
    rw [if_neg other, if_pos rfl]
  rw [backend, named]

/-! ## Credentials -/

theorem nonempty?_eq_given (s : List Char) : nonempty? s = given (some s) := by
  cases s <;> rfl

/-- The user and the password that are written. -/
def Login.credentials (l : Login) : Credentials :=
  ⟨given (some l.user.chars), given (l.password.map Word.chars)⟩

theorem Login.cut?_text (l : Login) :
    cut? ':' l.text = (l.password.map Word.chars).map fun password => (l.user.chars, password) :=
  cut?_append_after (fun mem => absurd (l.user.of_mem mem) (by decide)) _

/-- **Credentials end with the last at sign**, as there is none behind them. -/
theorem splitCredentials_authority (w : Written) :
    splitCredentials w.authority = (w.login.map Login.credentials, w.hostText) := by
  have absent : '@' ∉ w.hostText := fun mem => absurd (w.isPlain_hostText _ mem) (by decide)
  rw [splitCredentials, Written.authority]
  cases w.login with
  | none => rw [cutLast?_eq_none.2 absent]; rfl
  | some login =>
    dsimp only
    rw [cutLast?_append login.text absent]
    dsimp only
    rw [login.cut?_text, Option.map_some, Login.credentials, ← nonempty?_eq_given]
    cases password : login.password with
    | none =>
      have whole : login.text = login.user.chars := by
        rw [Login.text, password]
        exact List.append_nil _
      rw [← whole]
      rfl
    | some password => rw [Option.map_some, ← nonempty?_eq_given]; rfl

/-! ## Hosts and ports -/

/-- The number that is written for a port. -/
def Port.value? (p : Port) : Option Int :=
  if p.chars = [] then none else some (Nat.ofDigitChars 10 p.chars 0)

/-- The hosts that are written. -/
def hostsOf (entries : List Entry) : List String :=
  entries.filterMap fun e => given (some e.host.chars)

/-- The ports that are written. -/
def portsOf (entries : List Entry) : List Int :=
  entries.filterMap fun e => e.port.bind Port.value?

/-- A colon is written, but no port behind it. -/
def Entry.HasGap (e : Entry) : Prop :=
  ∃ port, e.port = some port ∧ port.chars = []

theorem Entry.splitEntry_text (e : Entry) :
    splitEntry e.text = (e.host.chars, e.port.map fun port => port.chars) := by
  have absent : ':' ∉ e.host.chars := fun mem => absurd (e.host.of_mem mem) (by decide)
  have absent' : ∀ b, e.port.map (fun port => port.chars) = some b → ':' ∉ b := by
    intro b hb mem
    obtain ⟨port, -, rfl⟩ := Option.map_eq_some_iff.1 hb
    exact absurd (port.of_mem mem) (by decide)
  rw [splitEntry, text, cutLast?_append_after absent absent']
  cases e.port with
  | none => exact congrArg (·, none) (List.append_nil _)
  | some port => rfl

theorem Port.readInt_chars (p : Port) (h : p.chars ≠ []) :
    Settings.readInt (String.ofList p.chars) = .ok (Nat.ofDigitChars 10 p.chars 0) := by
  rw [Settings.readInt, String.toList_ofList, Number.Setting.readInt_digits h (fun _ => p.of_mem) p.short]
  rfl

/-- The port that is known behind an entry. -/
def Entry.portAfter (e : Entry) (port : Option Int) : Option Int :=
  (e.port.bind Port.value?).or port

section Entries

variable {url : String} {entries : List Entry}

theorem hostsOf_cons (e : Entry) (entries : List Entry) :
    hostsOf (e :: entries) = (given (some e.host.chars)).toList ++ hostsOf entries := by
  rw [hostsOf, List.filterMap_cons]
  cases given (some e.host.chars) <;> rfl

theorem getLast?_portsOf_cons (e : Entry) (entries : List Entry) (port : Option Int) :
    (portsOf (e :: entries)).getLast?.or port = (portsOf entries).getLast?.or (e.portAfter port) := by
  rw [portsOf, List.filterMap_cons, Entry.portAfter]
  cases e.port.bind Port.value? with
  | none => rfl
  | some n =>
    rw [List.getLast?_cons, ← portsOf]
    cases (portsOf entries).getLast? <;> rfl

theorem readEntries_cons {url : String} {port : Option Int} {e : Entry} {entries : List (List Char)}
    (full : ¬e.HasGap) :
    readEntries url port (e.text :: entries) =
      (readEntries url (e.portAfter port) entries).map fun (hosts, last) =>
        ((given (some e.host.chars)).toList ++ hosts, last) := by
  have host (hosts : List String) :
      (if e.host.chars.isEmpty then hosts else String.ofList e.host.chars :: hosts) =
        (given (some e.host.chars)).toList ++ hosts := by
    cases e.host.chars <;> rfl
  have next (known : Option Int) :
      (do
        let (hosts, last) ← readEntries url known entries
        pure (if e.host.chars.isEmpty then hosts else String.ofList e.host.chars :: hosts, last)) =
        (readEntries url known entries).map fun (hosts, last) =>
          ((given (some e.host.chars)).toList ++ hosts, last) := by
    simp only [host]
    cases readEntries url known entries <;> rfl
  rw [readEntries, e.splitEntry_text, Entry.portAfter]
  cases there : e.port with
  | none => exact next port
  | some p =>
    have ne : p.chars ≠ [] := fun empty => full ⟨p, there, empty⟩
    rw [Option.map_some, Option.bind_some, Port.value?, if_neg ne]
    dsimp only
    rw [p.readInt_chars ne]
    exact next (some (Nat.ofDigitChars 10 p.chars 0))

theorem readEntries_of_hasGap {url : String} {port : Option Int} {e : Entry}
    {entries : List (List Char)} (gap : e.HasGap) :
    ∃ f, readEntries url port (e.text :: entries) = .error f ∧ f.IsMisconfiguration := by
  obtain ⟨p, there, empty⟩ := gap
  rw [readEntries, e.splitEntry_text, there, Option.map_some, empty]
  exact ⟨_, rfl, rfl⟩

/-- **Hosts and ports are read in order**, and the last port counts. -/
theorem readEntries_texts (full : ∀ e ∈ entries, ¬e.HasGap) (port : Option Int) :
    readEntries url port (entries.map Entry.text) =
      .ok (hostsOf entries, (portsOf entries).getLast?.or port) := by
  induction entries generalizing port with
  | nil => rfl
  | cons e entries ih =>
    rw [List.map_cons, readEntries_cons (full e List.mem_cons_self),
      ih (fun e h => full e (List.mem_cons_of_mem _ h)), hostsOf_cons, getLast?_portsOf_cons]
    rfl

/-- A colon with no port behind it is refused. -/
theorem readEntries_texts_of_hasGap (url : String) (gap : ∃ e ∈ entries, e.HasGap)
    (port : Option Int) :
    ∃ f, readEntries url port (entries.map Entry.text) = .error f ∧ f.IsMisconfiguration := by
  induction entries generalizing port with
  | nil =>
    obtain ⟨e, h, -⟩ := gap
    cases h
  | cons e entries ih =>
    rw [List.map_cons]
    by_cases here : e.HasGap
    · exact readEntries_of_hasGap here
    · have later : ∃ e ∈ entries, e.HasGap := by
        obtain ⟨d, mem, gap⟩ := gap
        rcases List.mem_cons.1 mem with rfl | mem
        · exact absurd gap here
        · exact ⟨d, mem, gap⟩
      obtain ⟨f, error, kind⟩ := ih later (e.portAfter port)
      rw [readEntries_cons here, error]
      exact ⟨f, rfl, kind⟩

end Entries

/-! ## Changes -/

namespace Written

variable (w : Written)

/-- A colon is written somewhere, but no port behind it. -/
def HasGap : Prop :=
  ∃ e ∈ w.entries, e.HasGap

/-- The value that is written for a field. -/
def value? (field : Field) : Option Value :=
  w.query.bind (·.value? field)

/-- What an address says about the settings. -/
def changes : Changes where
  credentials := w.login.map Login.credentials
  hosts := if w.hostText = [] then none else some (hostsOf w.entries)
  port := (portsOf w.entries).getLast?
  keyspace := given (w.keyspace.map Word.chars)
  table := given ((w.value? .table).map Value.text)
  localDc := given ((w.value? .localDc).map Value.text)

/-- The keyspace is the path without its slash. -/
theorem nonempty?_path :
    nonempty? (trimBy (· == '/') w.path) = given (w.keyspace.map Word.chars) := by
  rw [path]
  cases w.keyspace with
  | none => rfl
  | some keyspace =>
    have other : ∀ c ∈ keyspace.chars, (c == '/') = false := fun c hc =>
      beq_eq_false_iff_ne.2 fun slash => absurd (slash ▸ keyspace.of_mem hc) (by decide)
    have trimmed : IsTrimmed (· == '/') (['/'] ++ keyspace.chars ++ []) keyspace.chars :=
      isTrimmed_of_forall (by simp) other
    rw [List.append_nil] at trimmed
    rw [Option.map_some, after, ← List.singleton_append, trimBy_of_isTrimmed trimmed,
      nonempty?_eq_given]

theorem lastValue?_queryText (field : Field) :
    lastValue? (w.queryText.getD []) field.name = given ((w.value? field).map Value.text) := by
  rw [queryText, value?]
  cases w.query with
  | none => cases field <;> rfl
  | some query => exact lastValue?_text query field

/-- Without any text for the hosts there are neither hosts nor ports. -/
theorem of_hostText_eq_nil (h : w.hostText = []) :
    hostsOf w.entries = [] ∧ portsOf w.entries = [] ∧ ¬w.HasGap := by
  have nothing : ∀ e ∈ w.entries, e.host.chars = [] ∧ e.port = none := by
    intro e he
    have empty := eq_nil_of_intercalate_eq_nil h e.text (List.mem_map_of_mem he)
    obtain ⟨host, port⟩ := List.append_eq_nil_iff.1 empty
    refine ⟨host, ?_⟩
    cases there : e.port with
    | none => rfl
    | some p =>
      rw [there] at port
      cases port
  refine ⟨List.filterMap_eq_nil_iff.2 fun e he => ?_, List.filterMap_eq_nil_iff.2 fun e he => ?_, ?_⟩
  · rw [(nothing e he).1]
    rfl
  · rw [(nothing e he).2]
    rfl
  · rintro ⟨e, he, port, there, -⟩
    rw [(nothing e he).2] at there
    cases there

/-- The entries are what stands between commas. -/
theorem splitAt_hostText (h : w.hostText ≠ []) :
    splitAt ',' w.hostText = w.entries.map Entry.text := by
  refine splitAt_intercalate ?_ fun piece hp comma => ?_
  · intro none
    rw [hostText, none] at h
    exact h rfl
  · obtain ⟨e, -, rfl⟩ := List.mem_map.1 hp
    exact absurd (e.isPlain _ comma) (by decide)

theorem ofParts_text (full : ¬w.HasGap) (url : String) :
    Changes.ofParts url ⟨w.authority, w.path, w.queryText.getD []⟩ = .ok w.changes := by
  have table : lastValue? (w.queryText.getD []) "table" = _ := w.lastValue?_queryText .table
  have localDc : lastValue? (w.queryText.getD []) "local_dc" = _ := w.lastValue?_queryText .localDc
  rw [Changes.ofParts, splitCredentials_authority, nonempty?_path, table, localDc, changes]
  dsimp only
  by_cases empty : w.hostText = []
  · rw [if_pos empty, (w.of_hostText_eq_nil empty).2.1, empty]
    rfl
  · rw [if_neg empty, if_neg (by simpa using empty), w.splitAt_hostText empty,
      readEntries_texts (fun e he gap => full ⟨e, he, gap⟩), Option.or_none]
    rfl

theorem ofParts_text_of_hasGap (gap : w.HasGap) (url : String) :
    ∃ f, Changes.ofParts url ⟨w.authority, w.path, w.queryText.getD []⟩ = .error f ∧
      f.IsMisconfiguration := by
  have nonempty : w.hostText ≠ [] := fun empty => (w.of_hostText_eq_nil empty).2.2 gap
  obtain ⟨f, error, kind⟩ := readEntries_texts_of_hasGap url gap none
  rw [Changes.ofParts, splitCredentials_authority]
  dsimp only
  rw [if_neg (by simpa using nonempty), w.splitAt_hostText nonempty, error]
  exact ⟨f, rfl, kind⟩

/-- **What an address makes of settings**, if it says nothing that cannot be read. -/
theorem settings_text (full : ¬w.HasGap) (base : Settings) :
    settings w.text base = (w.changes.apply base).checked := by
  rw [settings, parts_text]
  show (Changes.ofParts w.text _ >>= fun changes => (changes.apply base).checked) = _
  rw [w.ofParts_text full]
  rfl

theorem settings_text_of_hasGap (gap : w.HasGap) (base : Settings) :
    ∃ f, settings w.text base = .error f ∧ f.IsMisconfiguration := by
  obtain ⟨f, error, kind⟩ := w.ofParts_text_of_hasGap gap w.text
  refine ⟨f, ?_, kind⟩
  rw [settings, parts_text]
  show (Changes.ofParts w.text _ >>= fun changes => (changes.apply base).checked) = _
  rw [error]
  rfl

end Written

end EventRoster.StoreUrl
