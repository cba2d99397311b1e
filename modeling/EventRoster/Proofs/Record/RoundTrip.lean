import EventRoster.Proofs.Condition.Joined
import EventRoster.Proofs.Json.Members
import EventRoster.Record.Reader
import EventRoster.Record.Written

/-!
# What records are read back as

The text of a record is a JSON object of four plain values, so it is read back as those values, and
each field of the subscription is found again under its name.  What is found there need not be what was
written.  The retention is cut to whole seconds.  The text of the condition and the owner are joined,
because the record is written in ASCII: two escapes that spell a surrogate pair are read as one
character.  And the condition is whatever the reader of conditions makes of its text.

* `truncatedSeconds_of_whole`: a retention of whole seconds is not cut.
* `Subscription.joined_eq_self_iff`: which subscriptions are joined already.
* `json_text`: the members of the joined subscription are read back.
* `decode_text`: so is the subscription, by any reader of conditions.
* `decode_encode_iff`: when decoding undoes encoding.
* `text_joined`: what is read back is written as it was.
-/

namespace EventRoster

/-! ## Whole seconds -/

namespace Duration

/-- **A whole number of seconds is kept**, although it passes through a binary64 number. -/
theorem truncatedSeconds_of_whole {d : Duration} {n : Int}
    (h : d.micros = n * Time.microsPerSecond) : d.truncatedSeconds = n := by
  have range := d.inRange
  simp only [h, Time.leastMicros, Time.greatestMicros, Time.dayLimit, Time.secondsPerDay,
    Time.microsPerSecond] at range
  have small : n.natAbs < 2 ^ 53 := by omega
  have ratio : (Number.Binary64.ofIntRatio (n * (1000000 : Nat)) 1000000).truncate? = some n :=
    Number.Binary64.truncate?_ofIntRatio (by decide) small
  rw [Nat.cast_ofNat] at ratio
  rw [truncatedSeconds, seconds, h, Time.microsPerSecond, ratio]
  rfl

/-- The duration of some seconds is a whole number of them. -/
theorem micros_of_ofSeconds {n : Int} {d : Duration} (h : ofSeconds n = .ok d) :
    d.micros = n * Time.microsPerSecond := by
  unfold ofSeconds at h
  split at h
  · next e he =>
    cases h
    exact ofMicros?_eq_some_iff.1 he
  · cases h

/-- The seconds of a duration have few digits. -/
theorem digitCount_le_of_ofSeconds {n : Int} {d : Duration} (h : ofSeconds n = .ok d) :
    Condition.digitCount n ≤ Number.digitLimit := by
  have range := d.inRange
  simp only [micros_of_ofSeconds h, Time.leastMicros, Time.greatestMicros, Time.dayLimit, Time.secondsPerDay,
    Time.microsPerSecond] at range
  have small : n.natAbs < 10 ^ 15 := by omega
  exact Nat.le_trans (Number.length_natChars_le (by decide) small) (by decide)

end Duration

/-! ## Joined subscriptions -/

namespace Subscription

/-- A surrogate pair stands in the owner of a subscription, or in the text of its condition. -/
def HasPair (s : Subscription) : Prop :=
  (∃ owner ∈ s.owner, owner.HasPair) ∨ s.condition.text.HasPair

/-- A subscription whose owner is joined, and the strings of its condition. -/
def joined (s : Subscription) : Subscription :=
  { s with condition := s.condition.joined, owner := s.owner.map Text.joined }

/-- An owner comes back as it was exactly if it has no pair. -/
theorem map_joined_eq_self_iff {owner : Option Text} :
    owner.map Text.joined = owner ↔ ¬∃ name ∈ owner, name.HasPair := by
  cases owner with
  | none => simp
  | some name => simp [Text.joined_eq_self_iff]

/-- **A subscription is joined** exactly if there is no pair in it. -/
theorem joined_eq_self_iff {s : Subscription} : s.joined = s ↔ ¬s.HasPair := by
  rw [HasPair, not_or, ← map_joined_eq_self_iff, ← Condition.joined_eq_self_iff]
  constructor
  · intro same
    exact ⟨congrArg owner same, congrArg condition same⟩
  · rintro ⟨sameOwner, sameCondition⟩
    rw [joined, sameOwner, sameCondition]

instance : DecidablePred HasPair := fun _ =>
  inferInstanceAs (Decidable (_ ∨ _))

end Subscription

namespace Record

/-! ## The members of a record -/

theorem merge_members (s : Subscription) : Json.merge [] (members s) = members s := by
  simp [Json.merge, members, Json.bind, Field.name]

/-- A field is read back under its name. -/
theorem readsAs_field {field : Field} {v w : Json} (h : Json.Denotes (v.chars .ascii) w) :
    Json.ReadsAs .ascii (field.name, v) (field.name, w) :=
  ⟨congrArg Text.ofList (CodePoint.joined_ofChars _).symm, h⟩

/-- The members of a record are read back as those of the joined subscription, if the two integers are
short enough. -/
theorem readsAs_members {s : Subscription}
    (hint : Condition.digitCount s.expiresAt ≤ Number.digitLimit)
    (seconds : Condition.digitCount s.eventTtl.truncatedSeconds ≤ Number.digitLimit) :
    List.Forall₂ (Json.ReadsAs .ascii) (members s) (members s.joined) := by
  refine .cons (readsAs_field (Json.denotes_int .ascii seconds)) <|
    .cons (readsAs_field (Json.denotes_int .ascii hint)) <| .cons (readsAs_field ?_) <|
      .cons (readsAs_field ?_) .nil
  · rw [Subscription.joined, Condition.text_joined]
    exact Json.denotes_text .ascii s.condition.text
  · rw [Subscription.joined]
    cases s.owner with
    | none => exact Json.denotes_null .ascii
    | some owner => exact Json.denotes_text .ascii owner

/-- The text of an object is a payload with what its members are read back as. -/
theorem json_write {charset : Json.Text.Charset} {written read : Json.Members} (nonempty : written ≠ [])
    (h : List.Forall₂ (Json.ReadsAs charset) written read) :
    (Payload.text (Json.write charset (.object written))).json = .ok (.object (Json.merge [] read)) := by
  rw [Payload.json, Json.write, Text.toList_ofList, readJson, Json.read_object nonempty h]

/-- **The members of the joined subscription are read back** from the text of a record. -/
theorem json_text {s : Subscription}
    (hint : Condition.digitCount s.expiresAt ≤ Number.digitLimit)
    (seconds : Condition.digitCount s.eventTtl.truncatedSeconds ≤ Number.digitLimit) :
    (Payload.text (text s)).json = .ok (.object (members s.joined)) := by
  have nonempty : members s ≠ [] := List.cons_ne_nil _ _
  rw [text, json_write nonempty (readsAs_members hint seconds), merge_members]

theorem value?_condition (s : Subscription) :
    value? (members s) .condition = some (.text s.condition.text) := by
  simp [value?, Json.get?, members, Field.name]

theorem value?_expiresAt (s : Subscription) :
    value? (members s) .expiresAt = some (.int s.expiresAt) := by
  simp [value?, Json.get?, members, Field.name]

theorem value?_eventTtl (s : Subscription) :
    value? (members s) .eventTtl = some (.int s.eventTtl.truncatedSeconds) := by
  simp [value?, Json.get?, members, Field.name]

theorem value?_owner (s : Subscription) : value? (members s) .owner = s.owner.map .text := by
  cases h : s.owner with
  | none => simp [value?, Json.get?, members, Field.name, h]
  | some owner => simp [value?, Json.get?, members, Field.name, h]

theorem readOwner_members (s : Subscription) : readOwner (members s) = .ok s.owner := by
  rw [readOwner, value?_owner]
  cases s.owner with
  | none => rfl
  | some owner => rfl

/-! ## Subscriptions -/

/-- **A record is read back** by any reader of conditions, which decides over the condition. -/
theorem read_text (reader : ConditionReader) {s : Subscription} {retention : Duration}
    (hint : Condition.digitCount s.expiresAt ≤ Number.digitLimit)
    (whole : Duration.ofSeconds s.eventTtl.truncatedSeconds = .ok retention) :
    read reader s.name (.text (text s)) =
      ((reader s.condition.text.joined).mapError .refused).map fun c =>
        { s with condition := c, eventTtl := retention, owner := s.owner.map Text.joined } := by
  have members' := json_text hint (Duration.digitCount_le_of_ofSeconds whole)
  have duration : readRetention s.eventTtl.truncatedSeconds = .ok retention := by
    rw [readRetention, whole]
    rfl
  rw [read, members']
  show ofMembers reader s.name (members s.joined) = _
  have condition : required (members s.joined) .condition = .ok (.text s.condition.text.joined) := by
    rw [required, value?_condition, ← Condition.text_joined]
    rfl
  have expiry : required (members s.joined) .expiresAt = .ok (.int s.expiresAt) := by
    rw [required, value?_expiresAt]
    rfl
  have seconds : required (members s.joined) .eventTtl = .ok (.int s.eventTtl.truncatedSeconds) := by
    rw [required, value?_eventTtl]
    rfl
  simp only [ofMembers, condition, expiry, seconds, readOwner_members, duration, asText, asNumber,
    wholeNumber?, bind, Except.bind]
  cases reader s.condition.text.joined with
  | error failure => rfl
  | ok c => rfl

/-- A retention of whole seconds is read back. -/
theorem ofSeconds_truncatedSeconds {d : Duration} {n : Int}
    (h : d.micros = n * Time.microsPerSecond) : Duration.ofSeconds d.truncatedSeconds = .ok d := by
  rw [Duration.truncatedSeconds_of_whole h, Duration.ofSeconds, ← h, Duration.ofMicros?_micros]

/-- **A record is decoded** into the subscription that it was written for, with its owner joined and
with whatever condition its joined text is read as. -/
theorem decode_text (reader : ConditionReader) {s : Subscription} {n : Int}
    (hint : Condition.digitCount s.expiresAt ≤ Number.digitLimit)
    (whole : s.eventTtl.micros = n * Time.microsPerSecond) :
    decode reader s.name (.text (text s)) =
      (reader s.condition.text.joined).map fun c =>
        { s with condition := c, owner := s.owner.map Text.joined } := by
  have reads := read_text reader hint (ofSeconds_truncatedSeconds whole)
  rw [decode, reads]
  cases reader s.condition.text.joined with
  | error failure => rfl
  | ok c => rfl

/-- The joined text of a condition is read exactly if its values can be read back, and the subscription
that it is read for is then the joined one. -/
theorem map_reader_eq_ok_iff {s r : Subscription} :
    ((Condition.reader s.condition.text.joined).map fun c =>
        { s with condition := c, owner := s.owner.map Text.joined }) = .ok r ↔
      (∀ v ∈ s.condition.values, v.readable = true) ∧ r = s.joined := by
  constructor
  · intro reads
    have readable : ∀ v ∈ s.condition.values, v.readable = true := by
      intro v hv
      by_contra unreadable
      obtain ⟨failure, fails⟩ :=
        Condition.exists_reader_joined_text_eq_error hv (Bool.eq_false_iff.2 unreadable)
      rw [fails] at reads
      cases reads
    rw [Condition.reader_joined_text readable] at reads
    exact ⟨readable, (Except.ok.inj reads).symm⟩
  · rintro ⟨readable, rfl⟩
    rw [Condition.reader_joined_text readable]
    rfl

/-- The record of a subscription is decoded exactly if the values of its condition can be read back, and
then as the joined subscription. -/
theorem decode_text_eq_ok_iff {s r : Subscription} {n : Int}
    (hint : Condition.digitCount s.expiresAt ≤ Number.digitLimit)
    (whole : s.eventTtl.micros = n * Time.microsPerSecond) :
    decode Condition.reader s.name (.text (text s)) = .ok r ↔
      (∀ v ∈ s.condition.values, v.readable = true) ∧ r = s.joined := by
  rw [decode_text Condition.reader hint whole, map_reader_eq_ok_iff]

/-! ## Encoding and decoding -/

/-- What can be written is encoded as its text. -/
theorem encode_of_writable {s : Subscription} (writable : s.condition.writable = true)
    (hint : Condition.digitCount s.expiresAt ≤ Number.digitLimit) : encode s = .ok (text s) := by
  rw [encode, writable, decide_eq_true hint]
  rfl

/-- A record that was written is the text of its subscription, with a hint that is short enough. -/
theorem of_encode_eq_ok {s : Subscription} {payload : Text} (h : encode s = .ok payload) :
    payload = text s ∧ Condition.digitCount s.expiresAt ≤ Number.digitLimit := by
  rw [encode] at h
  split at h
  · next short =>
    cases h
    exact ⟨rfl, of_decide_eq_true (Bool.and_eq_true_iff.1 short).2⟩
  · cases h

/-- **What is read back is written as it was**: in ASCII a joined subscription has the record of the
subscription itself. -/
theorem text_joined (s : Subscription) : text s.joined = text s := by
  have literal : ∀ t : Text, (Json.text t.joined).chars .ascii = (Json.text t).chars .ascii := by
    intro t
    rw [Json.chars, Json.chars, Json.Text.literal, Json.Text.literal, Text.joined, Text.toList_ofList,
      Json.Text.encode_ascii_joined]
  have condition := literal s.condition.text
  rw [← Condition.text_joined] at condition
  have alike : Json.memberChars .ascii (members s.joined) = Json.memberChars .ascii (members s) := by
    simp only [members, Json.memberChars, Subscription.joined, condition]
    cases s.owner with
    | none => rfl
    | some owner => simp only [Option.map_some, literal owner]
  rw [text, text, Json.write, Json.write, Json.chars, Json.chars, alike]

/-- Under the name of a subscription a payload is decoded as the same one. -/
def Recovers (reader : ConditionReader) (payload : Payload) (s : Subscription) : Prop :=
  ∃ r, decode reader s.name payload = .ok r ∧ (r == s) = true

/-- A subscription with another condition and another owner is the same if these are. -/
theorem same_iff {s : Subscription} {c : Condition} {owner : Option Text} :
    ({ s with condition := c, owner := owner } == s) = true ↔
      owner = s.owner ∧ (c == s.condition) = true := by
  show Subscription.same _ s = true ↔ _
  simp [Subscription.same, and_comm]

/-- A record is decoded as the subscription that it was written for exactly if the owner comes back as
it was, and the joined text of the condition is read as the same condition. -/
theorem recovers_text_iff {reader : ConditionReader} {s : Subscription} {n : Int}
    (hint : Condition.digitCount s.expiresAt ≤ Number.digitLimit)
    (whole : s.eventTtl.micros = n * Time.microsPerSecond) :
    Recovers reader (.text (text s)) s ↔
      (¬∃ owner ∈ s.owner, owner.HasPair) ∧
        ∃ c, reader s.condition.text.joined = .ok c ∧ (c == s.condition) = true := by
  rw [Recovers, decode_text reader hint whole, ← Subscription.map_joined_eq_self_iff]
  cases reader s.condition.text.joined with
  | error failure => simp [Except.map]
  | ok c => simp [Except.map, same_iff]

/-- **When decoding undoes encoding.**  A subscription whose condition has a text, whose expiry hint is
short enough and whose retention is a whole number of seconds of either sign is encoded.  Its record is
decoded as the same subscription exactly if no surrogate pair stands in its owner, and if the reader of
conditions takes the joined text of its condition for the same condition.  Without any pair this is the
text itself. -/
theorem decode_encode_iff (reader : ConditionReader) {s : Subscription} {n : Int}
    (writable : s.condition.writable = true)
    (hint : Condition.digitCount s.expiresAt ≤ Number.digitLimit)
    (whole : s.eventTtl.micros = n * Time.microsPerSecond) :
    ∃ payload, encode s = .ok payload ∧
      (Recovers reader (.text payload) s ↔
        (¬∃ owner ∈ s.owner, owner.HasPair) ∧
          ∃ c, reader s.condition.text.joined = .ok c ∧ (c == s.condition) = true) ∧
      (¬s.HasPair →
        (Recovers reader (.text payload) s ↔
          ∃ c, reader s.condition.text = .ok c ∧ (c == s.condition) = true)) := by
  refine ⟨text s, encode_of_writable writable hint, recovers_text_iff hint whole, ?_⟩
  intro noPair
  obtain ⟨owner, condition⟩ := not_or.1 noPair
  rw [recovers_text_iff hint whole, Text.joined_eq_self_iff.2 condition]
  exact and_iff_right owner

/-- A subscription at every limit: an empty name and owner, a hint of as many digits as there may be,
and the most negative retention. -/
def utmost : Subscription where
  name := ""
  condition := Condition.intricate
  expiresAt := -(10 ^ Number.digitLimit - 1)
  eventTtl := ⟨Time.leastMicros, by decide⟩
  owner := some ""

theorem decode_encode_utmost :
    utmost.condition.writable = true ∧
      Condition.digitCount utmost.expiresAt ≤ Number.digitLimit ∧
      utmost.eventTtl.micros = -86399999913600 * Time.microsPerSecond ∧
      ¬utmost.HasPair ∧ Condition.reader utmost.condition.text = .ok Condition.intricate ∧
      ∃ payload, encode utmost = .ok payload ∧ Recovers Condition.reader (.text payload) utmost := by
  have writable : utmost.condition.writable = true := by decide
  have hint : Condition.digitCount utmost.expiresAt ≤ Number.digitLimit := by
    refine Number.length_natChars_le (by decide) ?_
    have power : (10 : Int) ^ Number.digitLimit = (10 ^ Number.digitLimit : Nat) :=
      (Nat.cast_pow 10 Number.digitLimit).symm
    have positive : 0 < 10 ^ Number.digitLimit := Nat.pow_pos (by decide)
    show (-((10 : Int) ^ Number.digitLimit - 1)).natAbs < _
    omega
  have whole : utmost.eventTtl.micros = -86399999913600 * Time.microsPerSecond := by decide
  have noPair : ¬utmost.HasPair := Subscription.joined_eq_self_iff.1 rfl
  have reads : Condition.reader utmost.condition.text = .ok Condition.intricate := by
    have readable : ∀ v ∈ Condition.intricate.values, v.readable = true := by decide
    show Condition.reader Condition.intricate.text = _
    rw [Condition.reader, Condition.parse_text_eq_ok readable]
    rfl
  obtain ⟨payload, encodes, -, recovers⟩ := decode_encode_iff Condition.reader writable hint whole
  exact ⟨writable, hint, whole, noPair, reads, payload, encodes,
    (recovers noPair).2 ⟨_, reads, Condition.same_self _⟩⟩

/-- The two halves of a surrogate pair, one after the other. -/
def halves : Text :=
  .ofList [.ofNat 0xd800, .ofNat 0xdc00]

/-- A subscription that compares an intrinsic with these. -/
def severed : Subscription where
  name := "a"
  condition := .intrinsic "n" (.text halves) []
  expiresAt := 0
  eventTtl := ⟨2000000, by decide⟩

/-- **Decoding does not undo encoding** where a condition has the halves of a pair, although its text is
read as that condition. -/
theorem not_recovers_severed :
    severed.condition.writable = true ∧
      Condition.digitCount severed.expiresAt ≤ Number.digitLimit ∧
      severed.eventTtl.micros = 2 * Time.microsPerSecond ∧
      Condition.reader severed.condition.text = .ok severed.condition ∧
      ∃ payload, encode severed = .ok payload ∧ ¬Recovers Condition.reader (.text payload) severed := by
  have writable : severed.condition.writable = true := by decide
  have hint : Condition.digitCount severed.expiresAt ≤ Number.digitLimit := by decide
  have whole : severed.eventTtl.micros = 2 * Time.microsPerSecond := by decide
  have readable : ∀ v ∈ severed.condition.values, v.readable = true := by decide
  refine ⟨writable, hint, whole, ?_, text severed, encode_of_writable writable hint, ?_⟩
  · rw [Condition.reader, Condition.parse_text_eq_ok readable]
    rfl
  · rw [recovers_text_iff hint whole, Condition.reader_joined_text readable]
    rintro ⟨-, c, ⟨⟩, same⟩
    exact absurd same (by decide)

end Record

end EventRoster
