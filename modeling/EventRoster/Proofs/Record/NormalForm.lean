import EventRoster.Proofs.Record.Refusals
import EventRoster.Proofs.Record.Survival

/-!
# Encoding normalises

A record can be written in many ways: its members in any order, some of them twice and others of no
account, with blanks and escapes, its numbers with a fraction or an exponent.  Decoding keeps nothing
of this.  What it makes of any payload can be written down.  Unless a number in the condition overflows, the
text that is written is decoded in turn, and what it is decoded as has this same text, so it is written the
same way ever after.  It is the very same subscription if no surrogate pair stands in it.

Everything that encoding asks of a subscription comes from what decoding has seen of it.  An integer
that was read is short, and so is one that a finite number is cut to; a retention is a number of whole
seconds; the condition was read, so its values stood there as literals.

* `decoded_of_decode`: what is known of a subscription that was decoded.
* `decode_encode_of_decode`: when it is read back from its own record.
* `not_decode_encode_of_halved`: a payload in ASCII for which it is not.
-/

namespace EventRoster

/-- The integer part of a finite number has few digits. -/
theorem Number.Binary64.length_natChars_le_of_truncate? {x : Number.Binary64} {n : Int}
    (h : x.truncate? = some n) : (Number.natChars n.natAbs).length ≤ Number.digitLimit := by
  cases x with
  | finite negative size =>
    cases h
    have bound : (Number.signed negative size.floor).natAbs < 10 ^ 309 := by
      rw [Number.natAbs_signed]
      exact Nat.lt_of_le_of_lt (Nat.div_le_self _ _) size.num_lt
    exact Nat.le_trans (Number.length_natChars_le (by decide) bound) (by decide)
  | infinite negative => cases h
  | nan => cases h

/-- A value that is bound to a name is that of a member. -/
theorem Json.exists_mem_of_get? {members : Json.Members} {name : Text} {v : Json}
    (h : Json.get? members name = some v) : ∃ m ∈ members, m.2 = v := by
  induction members with
  | nil => cases h
  | cons head rest ih =>
    rw [Json.get?] at h
    split at h
    · cases h
      exact ⟨head, List.mem_cons_self, rfl⟩
    · obtain ⟨m, listed, eq⟩ := ih h
      exact ⟨m, List.mem_cons_of_mem _ listed, eq⟩

namespace Record

open EventRoster.Condition

variable {payload : Payload} {name : String} {s : Subscription} {members : Json.Members}

/-! ## What was read -/

/-- What is read from a payload is written in its code points. -/
theorem exists_padded_of_json {v : Json} (h : payload.json = .ok v) :
    ∃ s, Json.Padded s v := by
  cases payload with
  | text s => exact ⟨_, Json.readText_eq_ok_iff.1 (readJson_eq_ok_iff.1 h)⟩
  | bytes b =>
    cases decoded : Json.Bytes.decode? b with
    | none =>
      rw [Payload.json, decoded] at h
      cases h
    | some s =>
      rw [Payload.json, decoded] at h
      exact ⟨s, Json.read_eq_ok_iff.1 (readJson_eq_ok_iff.1 h)⟩
  | other typeName => cases h

/-- An integer in a payload has no more digits than a text may have. -/
theorem isShort_of_json (h : payload.json = .ok (.object members)) : ∀ m ∈ members, m.2.IsShort := by
  obtain ⟨s, padded⟩ := exists_padded_of_json h
  exact padded.isShort_of_mem

theorem exists_mem_of_value? {field : Field} {v : Json} (h : value? members field = some v) :
    ∃ m ∈ members, m.2 = v := by
  unfold value? at h
  split at h
  · cases h
  · cases h
  · next bound =>
    cases h
    exact Json.exists_mem_of_get? bound

/-- A whole number in a payload has no more digits than a text may have, whether it was spelled as an
integer or cut to one. -/
theorem digitCount_le_of_wholeNumber? {v : Json} {n : Int} (short : v.IsShort)
    (h : wholeNumber? v = some n) : digitCount n ≤ Number.digitLimit := by
  cases v with
  | int m =>
    cases h
    exact short n rfl
  | float x => exact Number.Binary64.length_natChars_le_of_truncate? h
  | _ => cases h

/-! ## What was decoded -/

/-- What is known of a subscription that was decoded under a name. -/
structure Decoded (name : String) (s : Subscription) : Prop where
  name : s.name = name
  literals : ∀ v ∈ s.condition.values, IsLiteral v
  hint : digitCount s.expiresAt ≤ Number.digitLimit
  whole : ∃ n, s.eventTtl.micros = n * Time.microsPerSecond

/-- A payload that is decoded is an object, from which all of the subscription is drawn. -/
theorem exists_draws_of_decode {reader : ConditionReader} (h : decode reader name payload = .ok s) :
    ∃ members text hint seconds owner retention condition,
      payload.json = .ok (.object members) ∧ Draws members text hint seconds owner retention ∧
        reader text = .ok condition ∧
        s = { name, condition, expiresAt := hint, eventTtl := retention, owner } := by
  have reads : read reader name payload = .ok s := mapError_eq_ok_iff.1 h
  unfold read at reads
  split at reads
  · cases reads
  · next members json =>
    rw [ofMembers_eq] at reads
    obtain ⟨p, drawn, parses⟩ := exists_of_bind_eq_ok reads
    obtain ⟨hint, seconds, owner, retention, draws, fields⟩ := exists_draws_of_sketch drawn
    cases outcome : reader p.1 with
    | error failure =>
      rw [outcome] at parses
      cases parses
    | ok condition =>
      rw [outcome, fields] at parses
      cases parses
      exact ⟨members, p.1, hint, seconds, owner, retention, condition, json, draws, outcome, rfl⟩
  · cases reads

/-- What is drawn from the members of a payload is decoded, if the text of the condition is read. -/
theorem decode_of_sketch {reader : ConditionReader} {t : Text} {draw : String → Condition → Subscription}
    {c : Condition} (name : String) (json : payload.json = .ok (.object members))
    (drawn : sketch members = .ok (t, draw)) (reads : reader t = .ok c) :
    decode reader name payload = .ok (draw name c) := by
  rw [decode_eq_of_sketch name json drawn, reads]
  rfl

/-- **A subscription that was decoded** from any payload. -/
theorem decoded_of_decode (h : decode reader name payload = .ok s) : Decoded name s := by
  obtain ⟨members, text, hint, seconds, owner, retention, condition, json, drawn, reads, rfl⟩ :=
    exists_draws_of_decode h
  obtain ⟨v, bound, isHint⟩ := drawn.expiresAt
  obtain ⟨m, listed, rfl⟩ := exists_mem_of_value? bound
  exact
    { name := rfl
      literals := isLiteral_of_parse (mapError_eq_ok_iff.1 reads)
      hint := digitCount_le_of_wholeNumber? (isShort_of_json json m listed) isHint
      whole := ⟨seconds, Duration.micros_of_ofSeconds drawn.retention⟩ }

/-- **Encoding normalises what was decoded.**  A subscription that was decoded from any payload can be
encoded, and its record is decoded as that very subscription exactly if no number in the condition
overflows and no surrogate pair stands in it.  Whatever the pairs, without overflow the record is decoded as
a subscription that has this same record. -/
theorem decode_encode_of_decode (h : decode reader name payload = .ok s) :
    ∃ written, encode s = .ok written ∧
      (decode reader name (.text written) = .ok s ↔
        (∀ v ∈ s.condition.values, v.overflows = false) ∧ ¬s.HasPair) ∧
      ((∀ v ∈ s.condition.values, v.overflows = false) →
        ∃ r, decode reader name (.text written) = .ok r ∧ encode r = .ok written) := by
  obtain ⟨rfl, literals, hint, n, whole⟩ := decoded_of_decode h
  have decodes {r : Subscription} := decode_text_eq_ok_iff_of_isLiteral (r := r) literals hint whole
  refine ⟨text s, encode_of_isLiteral literals hint, ?_, ?_⟩
  · rw [decodes, ← Subscription.joined_eq_self_iff, eq_comm (a := s)]
  · intro finite
    have reads := decodes.2 ⟨finite, rfl⟩
    have joined := decoded_of_decode reads
    refine ⟨s.joined, reads, ?_⟩
    rw [encode_of_isLiteral joined.literals joined.hint, text_joined]

/-! ## Two payloads -/

/-- The members of a record in no order, with one that is of no account, one that is bound twice, and an
owner who is null. -/
def shuffled : Json.Members :=
  [("ownerId", .null), ("expiresAt", .text "later"), ("version", .int 2),
    ("filter", .text intricate.text), ("eventTtl", .int (-7)), ("expiresAt", .int 5)]

/-- The subscription that they describe. -/
def unshuffled : Subscription where
  name := "a"
  condition := intricate
  expiresAt := 5
  eventTtl := ⟨-7000000, by decide⟩

/-- They are read back as they are written. -/
theorem readsAs_shuffled : List.Forall₂ (Json.ReadsAs .unicode) shuffled shuffled :=
  .cons ⟨rfl, Json.denotes_null _⟩ <| .cons ⟨rfl, Json.denotes_text .unicode _⟩ <|
    .cons ⟨rfl, Json.denotes_int _ (by decide)⟩ <| .cons ⟨rfl, Json.denotes_text .unicode _⟩ <|
      .cons ⟨rfl, Json.denotes_int _ (by decide)⟩ <| .cons ⟨rfl, Json.denotes_int _ (by decide)⟩ .nil

theorem decode_encode_of_shuffled :
    decode reader "a" (.text (Json.write .unicode (.object shuffled))) = .ok unshuffled ∧
      ∃ written, encode unshuffled = .ok written ∧
        decode reader "a" (.text written) = .ok unshuffled := by
  have json := json_write (List.cons_ne_nil _ _) readsAs_shuffled
  have reads : reader intricate.text = .ok intricate := by
    have readable : ∀ v ∈ intricate.values, v.readable = true := by decide
    rw [reader, parse_text_eq_ok readable]
    rfl
  have drawn : sketch (Json.merge [] shuffled) = .ok (intricate.text, fun name condition =>
      { name, condition, expiresAt := 5, eventTtl := ⟨-7000000, by decide⟩, owner := none }) := rfl
  have decodes := decode_of_sketch "a" json drawn reads
  have finite : ∀ v ∈ unshuffled.condition.values, v.overflows = false := by decide
  have noPair : ¬unshuffled.HasPair := Subscription.joined_eq_self_iff.1 rfl
  obtain ⟨written, encodes, decodes', -⟩ := decode_encode_of_decode decodes
  exact ⟨decodes, written, encodes, decodes'.2 ⟨finite, noPair⟩⟩

/-- A text of the condition with the two halves of a pair, the second of which is an escape. -/
def halvedText : Text :=
  .ofList (CodePoint.ofString "intrinsic(\"n\")=\"" ++ .ofNat 0xd800 :: CodePoint.ofString "\\udc00\"")

/-- In a condition an escape is not put together with what stands for itself. -/
theorem parse_halvedText : parse halvedText = .ok severed.condition := by
  have unit : Json.Text.IsUnit (CodePoint.ofString "\\udc00") (.ofNat 0xdc00) :=
    ⟨'d', 'c', '0', '0', rfl, rfl⟩
  have low : Json.Text.Spells (CodePoint.ofString "\\udc00" ++ []) [.ofNat 0xdc00] :=
    .unit unit (by rintro ⟨⟩) .nil
  have spelled : Json.Text.Spells (.ofNat 0xd800 :: (CodePoint.ofString "\\udc00" ++ [])) halves.toList :=
    low.plain (by rintro ⟨⟩) (by rintro ⟨⟩) (by decide)
  have literal := settled_takeLiteral_string spelled []
  have chars : halvedText.toList = CodePoint.ofString "intrinsic" ++ .char '(' :: (nameChars "n" ++
      .char ')' :: .char '=' :: .char '"' ::
        (.ofNat 0xd800 :: (CodePoint.ofString "\\udc00" ++ []) ++ .char '"' :: [])) := by
    decide
  obtain ⟨shorter, reads⟩ := settled_takeCondition_intrinsic (settled_takeIntrinsic_one "n" literal)
  rw [parse, chars, Condition.read, reads]
  rfl

/-- The members of a record with this text. -/
def halved : Json.Members :=
  [("eventTtl", .int 2), ("expiresAt", .int 0), ("filter", .text halvedText)]

/-- **Not every payload without overflow is normalised**: the record of what was decoded from these members
in ASCII is decoded as something else. -/
theorem not_decode_encode_of_halved :
    decode reader "a" (.text (Json.write .ascii (.object halved))) = .ok severed ∧
      (∀ v ∈ severed.condition.values, v.overflows = false) ∧
      ∃ written, encode severed = .ok written ∧ decode reader "a" (.text written) ≠ .ok severed := by
  have readsAs : List.Forall₂ (Json.ReadsAs .ascii) halved halved :=
    .cons ⟨rfl, Json.denotes_int _ (by decide)⟩ <| .cons ⟨rfl, Json.denotes_int _ (by decide)⟩ <|
      .cons ⟨rfl, Json.denotes_text .ascii halvedText⟩ .nil
  have json := json_write (List.cons_ne_nil _ _) readsAs
  have reads : reader halvedText = .ok severed.condition := by
    rw [reader, parse_halvedText]
    rfl
  have drawn : sketch (Json.merge [] halved) = .ok (halvedText, fun name condition =>
      { name, condition, expiresAt := 0, eventTtl := ⟨2000000, by decide⟩, owner := none }) := rfl
  have decodes : decode reader "a" (.text (Json.write .ascii (.object halved))) = .ok severed :=
    decode_of_sketch "a" json drawn reads
  obtain ⟨-, literals, hint, n, whole⟩ := decoded_of_decode decodes
  have finite : ∀ v ∈ severed.condition.values, v.overflows = false := by decide
  refine ⟨decodes, finite, text severed, encode_of_isLiteral literals hint, ?_⟩
  intro same
  obtain ⟨-, joined⟩ := (decode_text_eq_ok_iff_of_isLiteral literals hint whole).1 same
  exact Subscription.joined_eq_self_iff.1 joined.symm (by decide)

end Record

end EventRoster
