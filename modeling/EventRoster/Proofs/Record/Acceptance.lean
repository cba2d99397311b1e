import EventRoster.Proofs.Json.Integers
import EventRoster.Proofs.Record.Complaints
import EventRoster.Proofs.Record.NormalForm

/-!
# The records that are accepted

A text is accepted exactly if it is a valid record, and refused for the first thing that is wrong with it
otherwise (`judges_text`).  Only an integer with too many digits ends the reading of JSON otherwise, and
where one does, it is a token of the text.
-/

namespace EventRoster.Record

open EventRoster.Failure

/-- **Why a text is refused.** -/
inductive Refuses (reader : ConditionReader) (name : String) (s : Text) : Failure → Prop
  | notJson (none : ∀ v, ¬Json.Padded s.toList v) {problem : Json.Problem} {left : Nat}
      (stopped : Json.readText s.toList = .error (.malformed problem left)) :
    Refuses reader name s (notJson name
      (.ofStandard .jsonDecodeError ((Json.Place.ofLeft s.toList left).describe problem.message)))
  | notAnObject {v : Json} (json : Json.Padded s.toList v) (other : ∀ members, v ≠ .object members) :
    Refuses reader name s (.ofRaised (.corrupt "payload is not a JSON object" name none))
  | fields {fields : Fields} {f : Failure} (object : HasFields s fields)
      (first : FirstOf (complaints reader name fields) f) : Refuses reader name s f

section Texts

variable {reader : ConditionReader} {name : String} {s : Text}

theorem decode_of_object {bound : Json.Members} (reads : Json.readText s.toList = .ok (.object bound)) :
    decode reader name (.text s) = (ofMembers reader name bound).mapError (Fault.failure name) := by
  rw [decode, read, Payload.json, readJson, reads]

/-- A text that is an object is decoded by its fields. -/
theorem exists_decides (reader : ConditionReader) (name : String) {fields : Fields}
    (object : HasFields s fields) :
    ∃ step, decode reader name (.text s) = step.mapError (Fault.failure name) ∧
      Decides name step (complaints reader name fields) (Describes reader name fields) := by
  obtain ⟨bound, reads, rfl⟩ := hasFields_iff.1 object
  exact ⟨_, decode_of_object reads, decides_ofMembers reader name bound⟩

theorem HasFields.exists_padded {fields : Fields} (object : HasFields s fields) :
    ∃ bound, Json.Padded s.toList (.object bound) := by
  obtain ⟨bound, reads, -⟩ := hasFields_iff.1 object
  exact ⟨bound, Json.readText_eq_ok_iff.1 reads⟩

/-- An object is refused for its fields only. -/
theorem refuses_iff_firstOf {fields : Fields} {f : Failure} (object : HasFields s fields) :
    Refuses reader name s f ↔ FirstOf (complaints reader name fields) f := by
  refine ⟨fun h => ?_, .fields object⟩
  obtain ⟨bound, padded⟩ := object.exists_padded
  cases h with
  | notJson none => exact (none _ padded).elim
  | notAnObject json other => exact (other bound (json.unique padded)).elim
  | fields object' first =>
    rw [object.unique object']
    exact first

/-- What becomes of a text that is no object: there is one failure. -/
structure FailsWhole (reader : ConditionReader) (name : String) (s : Text) (f : Failure) : Prop where
  nothing (fields : Fields) : ¬HasFields s fields
  decodes : decode reader name (.text s) = .error f
  only (g : Failure) : Refuses reader name s g ↔ f = g

theorem failsWhole_of_malformed (reader : ConditionReader) (name : String) {problem : Json.Problem}
    {left : Nat} (stopped : Json.readText s.toList = .error (.malformed problem left)) :
    FailsWhole reader name s
      ((Fault.malformed problem (Json.Place.ofLeft s.toList left)).failure name) := by
  have none : ∀ v, ¬Json.Padded s.toList v := by
    intro v padded
    rw [← Json.readText_eq_ok_iff, stopped] at padded
    cases padded
  refine ⟨fun fields object => object.exists_padded.elim fun _ => none _, ?_, fun g => ⟨?_, ?_⟩⟩
  · rw [decode, read, Payload.json, readJson, stopped]
    rfl
  · intro h
    cases h with
    | notJson _ stopped' =>
      rw [stopped] at stopped'
      cases stopped'
      rfl
    | notAnObject json => exact (none _ json).elim
    | fields object => exact object.exists_padded.elim fun _ padded => (none _ padded).elim
  · rintro rfl
    exact .notJson none stopped

theorem failsWhole_of_other (reader : ConditionReader) (name : String) {v : Json}
    (reads : Json.readText s.toList = .ok v) (other : ∀ bound, v ≠ .object bound) :
    FailsWhole reader name s (Fault.notAnObject.failure name) := by
  have json := Json.readText_eq_ok_iff.1 reads
  have nothing : ∀ fields, ¬HasFields s fields := by
    intro fields object
    obtain ⟨bound, padded⟩ := object.exists_padded
    exact other bound (json.unique padded)
  refine ⟨nothing, ?_, fun g => ⟨?_, ?_⟩⟩
  · rw [decode, read, Payload.json, readJson, reads]
    cases v with
    | object bound => exact (other bound rfl).elim
    | null | bool | int | float | text | array => rfl
  · intro h
    cases h with
    | notJson none => exact (none v json).elim
    | notAnObject => rfl
    | fields object => exact (nothing _ object).elim
  · rintro rfl
    exact .notAnObject json other

theorem hasFields_or_failsWhole (reader : ConditionReader) (name : String)
    (short : ∀ n, Json.readText s.toList ≠ .error (.longInteger n)) :
    (∃ fields, HasFields s fields) ∨ ∃ f, FailsWhole reader name s f := by
  cases reads : Json.readText s.toList with
  | error fault =>
    cases fault with
    | longInteger n => exact (short n reads).elim
    | malformed problem left => exact .inr ⟨_, failsWhole_of_malformed reader name reads⟩
  | ok v =>
    by_cases isObject : ∃ bound, v = .object bound
    · obtain ⟨bound, rfl⟩ := isObject
      exact .inl ⟨_, hasFields_iff.2 ⟨bound, reads, rfl⟩⟩
    · exact .inr ⟨_, failsWhole_of_other reader name reads fun bound same => isObject ⟨bound, same⟩⟩

/-- **How a text is judged**: accepted exactly if it is a valid record, as the subscription that its fields
describe, or refused for the first thing that is wrong with it.  Nothing but its fields matters. -/
structure Judges (reader : ConditionReader) (name : String) (s : Text) : Prop where
  accepts : (∃ sub, decode reader name (.text s) = .ok sub) ↔
    ∃ fields, HasFields s fields ∧ IsValid reader fields
  result (sub : Subscription) : decode reader name (.text s) = .ok sub ↔
    ∃ fields, HasFields s fields ∧ Describes reader name fields sub
  failure (f : Failure) : decode reader name (.text s) = .error f ↔ Refuses reader name s f
  alike (s' : Text) (fields : Fields) (object : HasFields s fields) (object' : HasFields s' fields) :
    decode reader name (.text s') = decode reader name (.text s)

theorem decode_eq_ok_iff (short : ∀ n, Json.readText s.toList ≠ .error (.longInteger n))
    (sub : Subscription) : decode reader name (.text s) = .ok sub ↔
      ∃ fields, HasFields s fields ∧ Describes reader name fields sub := by
  rcases hasFields_or_failsWhole reader name short with ⟨fields, object⟩ | ⟨f, fails⟩
  · obtain ⟨step, decodes, decides⟩ := exists_decides reader name object
    have only : (∃ fields, HasFields s fields ∧ Describes reader name fields sub) ↔
        Describes reader name fields sub := by
      constructor
      · rintro ⟨fields', object', describes⟩
        rwa [object.unique object']
      · exact fun describes => ⟨fields, object, describes⟩
    rw [only, ← decides.ok, decodes, mapError_eq_ok_iff]
  · rw [fails.decodes]
    exact ⟨nofun, fun ⟨fields, object, _⟩ => (fails.nothing fields object).elim⟩

theorem decode_eq_error_iff (short : ∀ n, Json.readText s.toList ≠ .error (.longInteger n))
    (f : Failure) : decode reader name (.text s) = .error f ↔ Refuses reader name s f := by
  rcases hasFields_or_failsWhole reader name short with ⟨fields, object⟩ | ⟨g, fails⟩
  · obtain ⟨step, decodes, decides⟩ := exists_decides reader name object
    rw [refuses_iff_firstOf object, ← decides.error, decodes]
  · rw [fails.decodes, fails.only, Except.error.injEq]

/-- A text is judged by its fields, unless an integer with too many digits stops the reader of JSON. -/
theorem judges_of_readText (reader : ConditionReader) (name : String)
    (short : ∀ n, Json.readText s.toList ≠ .error (.longInteger n)) : Judges reader name s where
  accepts := by
    simp only [decode_eq_ok_iff short, ← exists_describes_iff name]
    exact ⟨fun ⟨sub, fields, object, describes⟩ => ⟨fields, object, sub, describes⟩,
      fun ⟨fields, object, sub, describes⟩ => ⟨sub, fields, object, describes⟩⟩
  result := decode_eq_ok_iff short
  failure := decode_eq_error_iff short
  alike s' fields object object' := by
    obtain ⟨step, decodes, decides⟩ := exists_decides reader name object
    obtain ⟨step', decodes', decides'⟩ := exists_decides reader name object'
    rw [decodes, decodes', decides'.mapError_eq decides]

/-- **Every text is judged by its fields**, if no integer in it has too many digits. -/
theorem judges_text (reader : ConditionReader) (name : String)
    (short : ∀ n, ¬Json.LongIn s.toList n) : Judges reader name s :=
  judges_of_readText reader name fun n stops => short n (Json.longIn_of_readText stops)

/-- A record in no order, with a member of no account and one that is bound twice, is judged. -/
theorem judges_text_shuffled :
    (∀ n, ¬Json.LongIn (Json.write .unicode (.object shuffled)).toList n) ∧
      Judges Condition.reader "a" (Json.write .unicode (.object shuffled)) := by
  have length : (Json.write .unicode (.object shuffled)).toList.length ≤ Number.digitLimit := by
    decide +kernel
  have short : ∀ n, ¬Json.LongIn (Json.write .unicode (.object shuffled)).toList n := fun n =>
    Json.not_longIn_of_length_le length
  exact ⟨short, judges_text Condition.reader "a" short⟩

end Texts

end EventRoster.Record
