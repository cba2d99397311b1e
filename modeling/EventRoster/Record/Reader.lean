import EventRoster.Json.Bytes
import EventRoster.Json.Read
import EventRoster.Record.Fault
import EventRoster.Record.Payload
import EventRoster.Subscription

/-!
# Reading stored records

A record is a JSON object with a condition, an expiry, a retention and perhaps an owner.  The order
in which these are looked at decides which of several faults is reported: first whether all required
fields are there, then the types in turn, then the range of the retention, and last the condition.
Other members are of no account.
-/

namespace EventRoster.Record

/-- The JSON value in a text. -/
def readJson (s : List CodePoint) (read : List CodePoint → Except Json.Fault Json) : Except Fault Json :=
  match read s with
  | .ok v => .ok v
  | .error (.malformed problem left) => .error (.malformed problem (Json.Place.ofLeft s left))
  | .error (.longInteger digits) => .error (.longInteger digits)

/-- The JSON value in a payload. -/
def Payload.json : Payload → Except Fault Json
  | .text s => readJson s.toList Json.readText
  | .bytes b =>
    match Json.Bytes.decode? b with
    | some s => readJson s Json.read
    | none => .error .undecodable
  | .other typeName => .error (.foreign typeName)

/-- The value of a field, unless it is absent or null. -/
def value? (members : Json.Members) (field : Field) : Option Json :=
  match Json.get? members field.name with
  | none | some .null => none
  | some v => some v

/-- The value of a required field. -/
def required (members : Json.Members) (field : Field) : Except Fault Json :=
  match value? members field with
  | some v => .ok v
  | none => .error (.missing field)

/-- The integer in a number, its fraction dropped.  Truth values and numbers that are not finite are
none. -/
def wholeNumber? : Json → Option Int
  | .int n => some n
  | .float x => x.truncate?
  | _ => none

/-- The text in a field. -/
def asText (field : Field) : Json → Except Fault Text
  | .text s => .ok s
  | _ => .error (.wrongType field)

/-- The whole number in a field. -/
def asNumber (field : Field) (v : Json) : Except Fault Int :=
  match wholeNumber? v with
  | some n => .ok n
  | none => .error (.wrongType field)

/-- The owner in a record, if it names one. -/
def readOwner (members : Json.Members) : Except Fault (Option Text) :=
  match value? members .owner with
  | none => .ok none
  | some v => (asText .owner v).map some

/-- The retention of some seconds. -/
def readRetention (seconds : Int) : Except Fault Duration :=
  (Duration.ofSeconds seconds).mapError .retentionOutOfRange

/-- The subscription with a name that the members of an object describe. -/
def ofMembers (reader : ConditionReader) (name : String) (members : Json.Members) :
    Except Fault Subscription := do
  let condition ← required members .condition
  let expiresAt ← required members .expiresAt
  let eventTtl ← required members .eventTtl
  let text ← asText .condition condition
  let expiry ← asNumber .expiresAt expiresAt
  let seconds ← asNumber .eventTtl eventTtl
  let owner ← readOwner members
  let retention ← readRetention seconds
  let parsed ← (reader text).mapError .refused
  pure { name, condition := parsed, expiresAt := expiry, eventTtl := retention, owner }

/-- The subscription with a name that a payload describes. -/
def read (reader : ConditionReader) (name : String) (payload : Payload) :
    Except Fault Subscription :=
  match payload.json with
  | .error fault => .error fault
  | .ok (.object members) => ofMembers reader name members
  | .ok _ => .error .notAnObject

/-- The subscription with a name that a payload describes, or the failure to find one. -/
def decode (reader : ConditionReader) (name : String) (payload : Payload) :
    Except Failure Subscription :=
  (read reader name payload).mapError (Fault.failure name)

end EventRoster.Record
