import EventRoster.Proofs.Condition.Refusals
import EventRoster.Proofs.Json.Integers
import EventRoster.Record.Reader

/-!
# How decoding a record ends

Whoever decodes a record is told of two kinds of failure: the record is corrupt, or its condition
cannot be read.  Three kinds of payload fail otherwise.  Bytes may be text in no encoding, and an
integer with too many digits may stop the reader of JSON or, in a record that is in order but for its
condition, the reader of conditions.  `concludes_iff` says that these are all.
-/

namespace EventRoster.Record

open EventRoster.Failure EventRoster.Condition

/-- The failures that are foreseen of the record of a name: it is corrupt or lacks a field, or its
condition is refused with a place in its text. -/
inductive Foreseen (name : String) : Failure → Prop
  | corrupt {f : Failure} (message : String) (cause : Option Mention)
      (error : f.error = Raised.corrupt message name cause) : Foreseen name f
  | missingField {f : Failure} (field : String)
      (error : f.error = Raised.missingField field name) : Foreseen name f
  | condition {f : Failure} (message : String) (text : Text) (position : Nat)
      (error : f.error = Raised.parse message text position) (within : position ≤ text.length) :
    Foreseen name f

/-- The payloads that fail in no foreseen way. -/
inductive Unforeseen : Payload → Prop
  | undecodable {b : List UInt8} (undecodable : Json.Bytes.decode? b = none) : Unforeseen (.bytes b)
  | longInteger {payload : Payload} {n : Nat} (long : payload.json = .error (.longInteger n)) :
    Unforeseen payload
  | longCondition {payload : Payload} {members : Json.Members} {name : String} {t : Text}
      {s : Subscription} {tokens : List Text} {c : Condition} {n : Nat}
      (json : payload.json = .ok (.object members))
      (sound : ofMembers nothingReader name members = .ok s)
      (text : value? members .condition = some (.text t)) (derived : Derives tokens c)
      (met : Meets tokens t.toList (.error n)) : Unforeseen payload

/-- A foreseen failure is one of the registry's own. -/
theorem Foreseen.exists_own {name : String} {f : Failure} (h : Foreseen name f) :
    ∃ own, f.error.kind = .own own := by
  cases h with
  | corrupt message cause error => exact ⟨_, by rw [error]; rfl⟩
  | missingField field error => exact ⟨_, by rw [error]; rfl⟩
  | condition message text position error within => exact ⟨_, by rw [error]; rfl⟩

theorem not_foreseen_longInteger (name : String) (n : Nat) :
    ¬Foreseen name (Condition.longInteger n) := by
  intro h
  obtain ⟨own, kind⟩ := h.exists_own
  cases kind

theorem not_foreseen_undecodable (name : String) :
    ¬Foreseen name (Fault.undecodable.failure name) := by
  intro h
  obtain ⟨own, kind⟩ := h.exists_own
  cases kind

/-! ## Steps with foreseen faults -/

/-- A step whose faults are foreseen, whatever the record is called. -/
def Plain {α : Type} (step : Except Fault α) : Prop :=
  ∀ name fault, step = .error fault → Foreseen name (fault.failure name)

section Steps

variable {α β : Type} {members : Json.Members}

theorem plain_ok (a : α) : Plain (.ok a) := by
  rintro name fault ⟨⟩

theorem plain_error {fault : Fault} (h : ∀ name, Foreseen name (fault.failure name)) :
    Plain (.error fault : Except Fault α) := by
  rintro name _ ⟨⟩
  exact h name

theorem Plain.bind {step : Except Fault α} {next : α → Except Fault β} (h : Plain step)
    (h' : ∀ a, Plain (next a)) : Plain (step >>= next) := by
  cases step with
  | error fault =>
    rintro name _ ⟨⟩
    exact h name fault rfl
  | ok a => exact h' a

/-- A step that went well gave a value, and what comes after it went well too. -/
theorem exists_of_bind_eq_ok {step : Except Fault α} {next : α → Except Fault β} {b : β}
    (h : step >>= next = .ok b) : ∃ a, step = .ok a ∧ next a = .ok b := by
  cases step with
  | error fault => cases h
  | ok a => exact ⟨a, rfl, h⟩

/-- Faults in other words leave what went well as it is. -/
theorem mapError_eq_ok_iff {ε ε' : Type} {step : Except ε α} {words : ε → ε'} {a : α} :
    step.mapError words = .ok a ↔ step = .ok a := by
  cases step with
  | error fault => simp [Except.mapError]
  | ok b => simp [Except.mapError]

theorem plain_required (members : Json.Members) (field : Field) : Plain (required members field) := by
  unfold required
  split
  · exact plain_ok _
  · exact plain_error fun name => .missingField field.name rfl

theorem plain_asText (field : Field) (v : Json) : Plain (asText field v) := by
  unfold asText
  split
  · exact plain_ok _
  · exact plain_error fun name => .corrupt field.typeMessage none rfl

theorem plain_asNumber (field : Field) (v : Json) : Plain (asNumber field v) := by
  unfold asNumber
  split
  · exact plain_ok _
  · exact plain_error fun name => .corrupt field.typeMessage none rfl

theorem plain_readOwner (members : Json.Members) : Plain (readOwner members) := by
  unfold readOwner
  split
  · exact plain_ok _
  · exact (plain_asText .owner _).bind fun _ => plain_ok _

theorem plain_readRetention (seconds : Int) : Plain (readRetention seconds) := by
  unfold readRetention
  cases Duration.ofSeconds seconds with
  | error reason => exact plain_error fun name => .corrupt "eventTtl is out of range" _ rfl
  | ok d => exact plain_ok d

/-! ## The members of a record -/

/-- A subscription but for its name and its condition, and the text of the condition. -/
def sketch (members : Json.Members) :
    Except Fault (Text × (String → Condition → Subscription)) := do
  let condition ← required members .condition
  let expiresAt ← required members .expiresAt
  let eventTtl ← required members .eventTtl
  let text ← asText .condition condition
  let expiry ← asNumber .expiresAt expiresAt
  let seconds ← asNumber .eventTtl eventTtl
  let owner ← readOwner members
  let retention ← readRetention seconds
  pure (text, fun name condition =>
    { name, condition, expiresAt := expiry, eventTtl := retention, owner })

/-- The condition is the last part of a record to be read. -/
theorem ofMembers_eq (reader : ConditionReader) (name : String) (members : Json.Members) :
    ofMembers reader name members =
      sketch members >>= fun p => ((reader p.1).mapError .refused).map (p.2 name) := by
  simp only [ofMembers, sketch, bind_assoc, pure_bind]
  rfl

/-- A record fails by itself, or because its condition is refused. -/
theorem sketch_or_reader_eq_error {reader : ConditionReader} {name : String} {members : Json.Members}
    {fault : Fault} (h : ofMembers reader name members = .error fault) :
    sketch members = .error fault ∨
      ∃ t draw f, sketch members = .ok (t, draw) ∧ reader t = .error f ∧ fault = .refused f := by
  rw [ofMembers_eq] at h
  cases drawn : sketch members with
  | error fault' =>
    rw [drawn] at h
    cases h
    exact .inl rfl
  | ok p =>
    rw [drawn] at h
    change ((reader p.1).mapError Fault.refused).map (p.2 name) = _ at h
    cases reads : reader p.1 with
    | ok c =>
      rw [reads] at h
      cases h
    | error f =>
      rw [reads] at h
      cases h
      exact .inr ⟨p.1, p.2, f, rfl, reads, rfl⟩

theorem plain_sketch (members : Json.Members) : Plain (sketch members) :=
  (plain_required members .condition).bind fun _ =>
  (plain_required members .expiresAt).bind fun _ =>
  (plain_required members .eventTtl).bind fun _ =>
  (plain_asText .condition _).bind fun _ =>
  (plain_asNumber .expiresAt _).bind fun _ =>
  (plain_asNumber .eventTtl _).bind fun _ =>
  (plain_readOwner members).bind fun _ =>
  (plain_readRetention _).bind fun _ => plain_ok _

theorem required_eq_ok_iff {field : Field} {v : Json} :
    required members field = .ok v ↔ value? members field = some v := by
  rw [required]
  cases value? members field with
  | none => simp
  | some w => simp

theorem asText_eq_ok_iff {field : Field} {v : Json} {t : Text} :
    asText field v = .ok t ↔ v = .text t := by
  cases v <;> simp [asText]

theorem asNumber_eq_ok_iff {field : Field} {v : Json} {n : Int} :
    asNumber field v = .ok n ↔ wholeNumber? v = some n := by
  rw [asNumber]
  cases wholeNumber? v with
  | none => simp
  | some m => simp

theorem readRetention_eq_ok_iff {seconds : Int} {d : Duration} :
    readRetention seconds = .ok d ↔ Duration.ofSeconds seconds = .ok d :=
  mapError_eq_ok_iff

/-- What the members of a record come to, but for its condition: the text of that, the two numbers, the
owner and the retention. -/
structure Draws (members : Json.Members) (text : Text) (hint seconds : Int)
    (owner : Option Text) (retention : Duration) : Prop where
  condition : value? members .condition = some (.text text)
  expiresAt : ∃ v, value? members .expiresAt = some v ∧ wholeNumber? v = some hint
  eventTtl : ∃ v, value? members .eventTtl = some v ∧ wholeNumber? v = some seconds
  owner : readOwner members = .ok owner
  retention : Duration.ofSeconds seconds = .ok retention

/-- A sketch was drawn from the fields of the record. -/
theorem exists_draws_of_sketch {p : Text × (String → Condition → Subscription)}
    (h : sketch members = .ok p) :
    ∃ hint seconds owner retention, Draws members p.1 hint seconds owner retention ∧
      p.2 = fun name condition =>
        { name, condition, expiresAt := hint, eventTtl := retention, owner } := by
  obtain ⟨condition, hasCondition, h⟩ := exists_of_bind_eq_ok h
  obtain ⟨expiresAt, hasExpiry, h⟩ := exists_of_bind_eq_ok h
  obtain ⟨eventTtl, hasRetention, h⟩ := exists_of_bind_eq_ok h
  obtain ⟨text, isText, h⟩ := exists_of_bind_eq_ok h
  obtain ⟨hint, isHint, h⟩ := exists_of_bind_eq_ok h
  obtain ⟨seconds, areSeconds, h⟩ := exists_of_bind_eq_ok h
  obtain ⟨owner, owned, h⟩ := exists_of_bind_eq_ok h
  obtain ⟨retention, kept, h⟩ := exists_of_bind_eq_ok h
  cases h
  rw [required_eq_ok_iff] at hasCondition hasExpiry hasRetention
  rw [asText_eq_ok_iff] at isText
  rw [asNumber_eq_ok_iff] at isHint areSeconds
  rw [readRetention_eq_ok_iff] at kept
  subst isText
  exact ⟨hint, seconds, owner, retention,
    ⟨hasCondition, ⟨_, hasExpiry, isHint⟩, ⟨_, hasRetention, areSeconds⟩, owned, kept⟩, rfl⟩

/-- The text of the condition is that of its field. -/
theorem value?_of_sketch {p : Text × (String → Condition → Subscription)}
    (h : sketch members = .ok p) : value? members .condition = some (.text p.1) := by
  obtain ⟨hint, seconds, owner, retention, drawn, -⟩ := exists_draws_of_sketch h
  exact drawn.condition

end Steps

/-! ## Payloads -/

section Payloads

variable {payload : Payload} {name : String} {fault : Fault} {f : Failure}

/-- What a payload is decoded as, once all but its condition has been read. -/
theorem decode_eq_of_sketch {reader : ConditionReader} {members : Json.Members} {t : Text}
    {draw : String → Condition → Subscription} (name : String)
    (json : payload.json = .ok (.object members)) (drawn : sketch members = .ok (t, draw)) :
    decode reader name payload =
      (((reader t).mapError Fault.refused).map (draw name)).mapError (Fault.failure name) := by
  rw [decode, read, json]
  show (ofMembers reader name members).mapError _ = _
  rw [ofMembers_eq, drawn]
  rfl

theorem readJson_eq_ok_iff {s : List CodePoint} {reads : List CodePoint → Except Json.Fault Json} {v : Json} :
    readJson s reads = .ok v ↔ reads s = .ok v := by
  unfold readJson
  split <;> simp_all

/-- A fault in the JSON of a payload is foreseen, unless there is no text or an integer in it has too
many digits. -/
theorem foreseen_of_json (h : payload.json = .error fault) :
    Unforeseen payload ∨ Foreseen name (fault.failure name) := by
  have malformed : ∀ (s : List CodePoint) (reads : List CodePoint → Except Json.Fault Json),
      readJson s reads = .error fault → (∃ n, fault = .longInteger n) ∨
        Foreseen name (fault.failure name) := by
    intro s reads h
    unfold readJson at h
    split at h
    · cases h
    · cases h
      exact .inr (.corrupt "payload is not valid JSON" _ rfl)
    · next n _ =>
      cases h
      exact .inl ⟨n, rfl⟩
  have settled : (∃ n, fault = .longInteger n) ∨ Foreseen name (fault.failure name) →
      Unforeseen payload ∨ Foreseen name (fault.failure name) := by
    rintro (⟨n, rfl⟩ | foreseen)
    · exact .inl (.longInteger h)
    · exact .inr foreseen
  cases payload with
  | text s => exact settled (malformed _ _ h)
  | bytes b =>
    cases decoded : Json.Bytes.decode? b with
    | none => exact .inl (.undecodable decoded)
    | some s =>
      refine settled (malformed s Json.read ?_)
      rw [← h, Payload.json, decoded]
  | other typeName =>
    cases h
    exact .inr (.corrupt "payload is not valid JSON" _ rfl)

/-- A refused condition is foreseen, unless an integer in it has too many digits. -/
theorem foreseen_of_reader {t : Text} (other : ∀ n, Condition.read t.toList ≠ .error (.longInteger n))
    (h : reader t = .error f) : Foreseen name f := by
  rcases settles_iff_read.2 other with ⟨c, reads⟩ | ⟨f', complaint, position, left, fails, error, -, sum⟩
  · rw [reads] at h
    cases h
  · rw [fails] at h
    cases h
    exact .condition _ t position error (by omega)

/-- The members of an object fail as foreseen, unless their condition has an integer with too many
digits. -/
theorem foreseen_of_ofMembers {members : Json.Members} (json : payload.json = .ok (.object members))
    (h : ofMembers reader name members = .error fault) :
    Unforeseen payload ∨ Foreseen name (fault.failure name) := by
  rcases sketch_or_reader_eq_error h with drawn | ⟨t, draw, f, drawn, reads, rfl⟩
  · exact .inr (plain_sketch members name fault drawn)
  · by_cases long : ∃ n, Condition.read t.toList = .error (.longInteger n)
    · obtain ⟨n, stops⟩ := long
      obtain ⟨tokens, c, derived, met⟩ := read_eq_longInteger_iff.1 stops
      have sound : ofMembers nothingReader name members = .ok (draw name (.constant false)) := by
        rw [ofMembers_eq, drawn]
        rfl
      exact .inl (.longCondition json sound (value?_of_sketch drawn) derived met)
    · exact .inr (foreseen_of_reader (fun n stops => long ⟨n, stops⟩) reads)

/-- **Every failure is foreseen**, unless the payload is one of those that are not. -/
theorem foreseen_of_decode (h : decode reader name payload = .error f) :
    Unforeseen payload ∨ Foreseen name f := by
  rw [decode] at h
  cases reads : read reader name payload with
  | ok s =>
    rw [reads] at h
    cases h
  | error fault =>
    rw [reads] at h
    cases h
    unfold read at reads
    split at reads
    · next json =>
      cases reads
      exact foreseen_of_json json
    · next members json => exact foreseen_of_ofMembers json reads
    · cases reads
      exact .inr (.corrupt "payload is not a JSON object" none rfl)

/-- What is not foreseen happens: there is a failure, and none of those. -/
theorem Unforeseen.exists_decode_eq_error (h : Unforeseen payload) (name : String) :
    ∃ f, decode reader name payload = .error f ∧ ¬Foreseen name f := by
  cases h with
  | undecodable undecodable =>
    refine ⟨_, ?_, not_foreseen_undecodable name⟩
    rw [decode, read, Payload.json, undecodable]
    rfl
  | @longInteger _ n long =>
    refine ⟨_, ?_, not_foreseen_longInteger name n⟩
    rw [decode, read, long]
    rfl
  | @longCondition _ members name' t s tokens c n json sound text derived met =>
    refine ⟨_, ?_, not_foreseen_longInteger name n⟩
    rw [ofMembers_eq] at sound
    obtain ⟨p, drawn, -⟩ := exists_of_bind_eq_ok sound
    have same := value?_of_sketch drawn
    rw [text] at same
    cases same
    rw [decode_eq_of_sketch name json drawn, reader_eq_longInteger derived met]
    rfl

/-- Decoding ends as its callers are told: with a subscription or a foreseen failure. -/
def Concludes (name : String) (payload : Payload) : Prop :=
  (∃ s, decode reader name payload = .ok s) ∨
    ∃ f, decode reader name payload = .error f ∧ Foreseen name f

theorem concludes_of_not_unforeseen (h : ¬Unforeseen payload) (name : String) :
    Concludes name payload := by
  cases decoded : decode reader name payload with
  | ok s => exact .inl ⟨s, decoded⟩
  | error f => exact .inr ⟨f, decoded, (foreseen_of_decode decoded).resolve_left h⟩

theorem Unforeseen.not_concludes (h : Unforeseen payload) (name : String) :
    ¬Concludes name payload := by
  obtain ⟨f, fails, other⟩ := h.exists_decode_eq_error name
  rintro (⟨s, decoded⟩ | ⟨f', decoded, foreseen⟩)
  · rw [fails] at decoded
    cases decoded
  · rw [fails] at decoded
    cases decoded
    exact other foreseen

/-- **Decoding ends as its callers are told exactly if the payload is none of the unforeseen ones**:
bytes in no encoding, and texts in which an integer with too many digits stops the reader of JSON or
that of conditions. -/
theorem concludes_iff (name : String) (payload : Payload) :
    Concludes name payload ↔ ¬Unforeseen payload := by
  constructor
  · exact fun concludes unforeseen => unforeseen.not_concludes name concludes
  · exact fun none => concludes_of_not_unforeseen none name

/-! ## Integers with too many digits -/

/-- The payload that is the integer of as many ones. -/
def payloadOfOnes (n : Nat) : Payload :=
  .text (.ofList (List.replicate n (.char '1')))

theorem unforeseen_payloadOfOnes {n : Nat} (hn : Number.digitLimit < n) :
    Unforeseen (payloadOfOnes n) := by
  have written := Number.isWrittenAs_ones (Nat.lt_of_le_of_lt (Nat.zero_le _) hn)
  have stops := Json.readText_of_isLong written (Number.isLong_ones hn)
  refine .longInteger (n := (Number.ones n).whole.length) ?_
  rw [payloadOfOnes, Payload.json, readJson, stops]

/-- A payload of 4301 digits is neither decoded nor refused as corrupt. -/
theorem not_concludes_payloadOfOnes : ¬Concludes "svc-1" (payloadOfOnes 4301) :=
  (unforeseen_payloadOfOnes (by decide)).not_concludes "svc-1"

end Payloads

end EventRoster.Record
