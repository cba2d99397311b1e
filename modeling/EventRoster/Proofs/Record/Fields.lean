import EventRoster.Proofs.Json.Grammar
import EventRoster.Proofs.Number.Nearest
import EventRoster.Record.Reader

/-!
# What a record says

The fields of a record are read off its text by the grammar of JSON: the text is an object, and the last
member of a name is the one that counts.  What they describe is said of the values themselves, the numbers
as rational numbers.

* `HasFields`: the fields of a text.
* `IsValid`: the valid records.
* `Describes`: the subscription that the fields of a record describe.
-/

namespace EventRoster

/-! ## Numbers -/

namespace Json

/-- The rational number that a value is.  Truth values, and what is not finite, are none. -/
def number? : Json → Option ℚ
  | .int n => some n
  | .float (.finite negative size) => some (Number.Binary64.signedValue negative size)
  | _ => none

end Json

namespace Number

/-- The nearest integer on the way to zero. -/
def towardZero (r : ℚ) : Int :=
  if 0 ≤ r then ⌊r⌋ else ⌈r⌉

theorem towardZero_intCast (n : Int) : towardZero n = n := by
  rw [towardZero, Int.floor_intCast, Int.ceil_intCast, ite_self]

theorem towardZero_neg (r : ℚ) : towardZero (-r) = -towardZero r := by
  rw [towardZero, towardZero]
  rcases lt_trichotomy r 0 with negative | rfl | positive
  · rw [if_pos (by linarith), if_neg (by linarith), Int.floor_neg]
  · simp
  · rw [if_neg (by linarith), if_pos positive.le, Int.ceil_neg]

theorem towardZero_signedValue (negative : Bool) (size : Magnitude) :
    towardZero (Binary64.signedValue negative size) = signed negative size.floor := by
  have floor : towardZero size.value = (size.floor : Int) := by
    rw [towardZero, if_pos size.value_nonneg, Magnitude.value, Rat.floor_natCast_div_natCast]
    rfl
  cases negative
  · exact floor
  · show towardZero (-size.value) = -(size.floor : Int)
    rw [towardZero_neg, floor]

end Number

namespace Record

open EventRoster.Failure EventRoster.Number

/-- A whole number is read off a number by going toward zero. -/
theorem wholeNumber?_eq (v : Json) : wholeNumber? v = v.number?.map towardZero := by
  cases v with
  | int n =>
    show some n = some (towardZero n)
    rw [towardZero_intCast]
  | float x =>
    cases x with
    | finite negative size =>
      show some (signed negative size.floor) = some (towardZero (Binary64.signedValue negative size))
      rw [towardZero_signedValue]
    | infinite negative => rfl
    | nan => rfl
  | null | bool | text | array | object => rfl

/-- The seconds of some duration: up to a billion days of either sign. -/
def FitsDuration (seconds : Int) : Prop :=
  -Time.dayLimit * Time.secondsPerDay ≤ seconds ∧ seconds < (Time.dayLimit + 1) * Time.secondsPerDay

theorem fitsDuration_iff {seconds : Int} :
    FitsDuration seconds ↔ Time.leastMicros ≤ seconds * Time.microsPerSecond ∧
      seconds * Time.microsPerSecond ≤ Time.greatestMicros := by
  simp only [FitsDuration, Time.leastMicros, Time.greatestMicros, Time.dayLimit, Time.secondsPerDay,
    Time.microsPerSecond]
  omega

/-! ## What a record says -/

/-- The value of each field of a record that has one. -/
abbrev Fields := Field → Option Json

/-- The fields of a text that is an object: the last member of a name is the one that counts. -/
def HasFields (s : Text) (fields : Fields) : Prop :=
  ∃ members, Json.IsObject s.toList members ∧
    fields = fun field => Json.lastBound members field.name

/-- The fields of the members that an object binds. -/
def fieldsOf (bound : Json.Members) : Fields :=
  fun field => Json.get? bound field.name

theorem hasFields_iff {s : Text} {fields : Fields} :
    HasFields s fields ↔
      ∃ bound, Json.readText s.toList = .ok (.object bound) ∧ fields = fieldsOf bound := by
  have last : ∀ members : Json.Members,
      fieldsOf (Json.merge [] members) = fun field => Json.lastBound members field.name := by
    intro members
    funext field
    rw [fieldsOf, Json.get?_merge]
    exact Option.or_none
  constructor
  · rintro ⟨members, object, rfl⟩
    exact ⟨_, Json.readText_eq_ok_object_iff.2 ⟨members, object, rfl⟩, (last members).symm⟩
  · rintro ⟨bound, reads, rfl⟩
    obtain ⟨members, object, rfl⟩ := Json.readText_eq_ok_object_iff.1 reads
    exact ⟨members, object, last members⟩

/-- A text has one value in each field. -/
theorem HasFields.unique {s : Text} {fields fields' : Fields} (h : HasFields s fields)
    (h' : HasFields s fields') : fields = fields' := by
  obtain ⟨bound, reads, rfl⟩ := hasFields_iff.1 h
  obtain ⟨bound', reads', rfl⟩ := hasFields_iff.1 h'
  rw [reads] at reads'
  cases reads'
  rfl

namespace Fields

variable (fields : Fields)

/-- The field is not there, or is null. -/
def Lacks (field : Field) : Prop :=
  fields field = none ∨ fields field = some .null

/-- The field holds a text. -/
def HasText (field : Field) (t : Text) : Prop :=
  fields field = some (.text t)

/-- The field holds a number. -/
def HasNumber (field : Field) (r : ℚ) : Prop :=
  ∃ v, fields field = some v ∧ v.number? = some r

/-- The field holds a value of its type. -/
def Typed : Field → Prop
  | .condition => ∃ t, fields.HasText .condition t
  | .expiresAt => ∃ r, fields.HasNumber .expiresAt r
  | .eventTtl => ∃ r, fields.HasNumber .eventTtl r
  | .owner => ∃ t, fields.HasText .owner t

variable {fields : Fields} {field : Field}

theorem HasNumber.unique {r r' : ℚ} (h : fields.HasNumber field r) (h' : fields.HasNumber field r') :
    r = r' := by
  obtain ⟨v, held, number⟩ := h
  obtain ⟨v', held', number'⟩ := h'
  rw [held] at held'
  cases held'
  rw [number] at number'
  exact Option.some.inj number'

theorem HasNumber.exists_ne_null {r : ℚ} (h : fields.HasNumber field r) :
    ∃ v, fields field = some v ∧ v ≠ .null := by
  obtain ⟨v, held, number⟩ := h
  refine ⟨v, held, ?_⟩
  rintro rfl
  cases number

/-- A field with another value than null does not lack it. -/
theorem not_lacks {v : Json} (held : fields field = some v) (other : v ≠ .null) :
    ¬fields.Lacks field := by
  rw [Lacks, held, Option.some.injEq]
  exact fun lacks => lacks.elim nofun other

end Fields

/-- **The valid records.** -/
structure IsValid (reader : ConditionReader) (fields : Fields) : Prop where
  condition : ∃ t c, fields.HasText .condition t ∧ reader t = .ok c
  expiresAt : ∃ r, fields.HasNumber .expiresAt r
  eventTtl : ∃ r, fields.HasNumber .eventTtl r ∧ FitsDuration (towardZero r)
  owner : fields.Lacks .owner ∨ ∃ t, fields.HasText .owner t

/-- **The subscription that a record describes.** -/
structure Describes (reader : ConditionReader) (name : String) (fields : Fields) (s : Subscription) :
    Prop where
  name : s.name = name
  condition : ∃ t, fields.HasText .condition t ∧ reader t = .ok s.condition
  expiresAt : ∃ r, fields.HasNumber .expiresAt r ∧ s.expiresAt = towardZero r
  eventTtl : ∃ r, fields.HasNumber .eventTtl r ∧ s.eventTtl.micros = towardZero r * Time.microsPerSecond
  owner : fields.Lacks .owner ∧ s.owner = none ∨ ∃ t, fields.HasText .owner t ∧ s.owner = some t

/-- The valid records are those that describe something. -/
theorem exists_describes_iff {reader : ConditionReader} (name : String) {fields : Fields} :
    (∃ s, Describes reader name fields s) ↔ IsValid reader fields := by
  constructor
  · rintro ⟨s, -, ⟨t, text, reads⟩, ⟨r, hint, -⟩, ⟨q, seconds, micros⟩, owner⟩
    have range := s.eventTtl.inRange
    rw [micros] at range
    refine ⟨⟨t, _, text, reads⟩, ⟨r, hint⟩, ⟨q, seconds, fitsDuration_iff.2 range⟩, ?_⟩
    exact owner.imp And.left fun ⟨t, text, _⟩ => ⟨t, text⟩
  · rintro ⟨⟨t, c, text, reads⟩, ⟨r, hint⟩, ⟨q, seconds, fits⟩, lacks | ⟨o, owner⟩⟩
    · exact ⟨⟨name, c, towardZero r, ⟨_, fitsDuration_iff.1 fits⟩, none⟩, rfl, ⟨t, text, reads⟩,
        ⟨r, hint, rfl⟩, ⟨q, seconds, rfl⟩, .inl ⟨lacks, rfl⟩⟩
    · exact ⟨⟨name, c, towardZero r, ⟨_, fitsDuration_iff.1 fits⟩, some o⟩, rfl, ⟨t, text, reads⟩,
        ⟨r, hint, rfl⟩, ⟨q, seconds, rfl⟩, .inr ⟨o, owner, rfl⟩⟩

end Record

end EventRoster
