import EventRoster.Condition.Refused
import EventRoster.Json.Fault

/-!
# What is wrong with a stored record

A payload that is no record is corrupt, and says in what way.  Two faults of the payload's own making
are not among them: bytes in no encoding, and integers with too many digits, are refused before it is
known whether they are JSON.  A condition that cannot be read is refused by its reader.
-/

namespace EventRoster.Record

open EventRoster.Failure

/-- The fields of a record. -/
inductive Field
  | condition
  | expiresAt
  | eventTtl
  | owner
deriving DecidableEq, Repr

/-- The name of a field in the payload. -/
def Field.name : Field → String
  | condition => "filter"
  | expiresAt => "expiresAt"
  | eventTtl => "eventTtl"
  | owner => "ownerId"

/-- The words for a field that holds another type of value than it should. -/
def Field.typeMessage : Field → String
  | condition => "filter is not a string"
  | expiresAt => "expiresAt is not a number"
  | eventTtl => "eventTtl is not a number"
  | owner => "ownerId is not a string"

/-- Why a payload is no record. -/
inductive Fault
  | foreign (typeName : String)
  | malformed (problem : Json.Problem) (place : Json.Place)
  | undecodable
  | longInteger (digits : Nat)
  | notAnObject
  | missing (field : Field)
  | wrongType (field : Field)
  | retentionOutOfRange (reason : String)
  | refused (failure : Failure)
deriving DecidableEq

/-- What the payload of a corrupt record was refused for by a reader of JSON. -/
def notJson (name : String) (cause : Raised) : Failure :=
  ⟨.corrupt "payload is not valid JSON" name (some cause.mention), [cause]⟩

/-- The failure that a fault in the payload of a named record is. -/
def Fault.failure (name : String) : Fault → Failure
  | foreign typeName =>
    notJson name (.ofStandard .typeError s!"the JSON object must be str, bytes or bytearray, not {typeName}")
  | malformed problem place =>
    notJson name (.ofStandard .jsonDecodeError (place.describe problem.message))
  | undecodable => .ofRaised (.ofStandard .unicodeDecodeError "invalid bytes")
  | longInteger digits => Condition.longInteger digits
  | notAnObject => .ofRaised (.corrupt "payload is not a JSON object" name none)
  | missing field => .ofRaised (.missingField field.name name)
  | wrongType field => .ofRaised (.corrupt field.typeMessage name none)
  | retentionOutOfRange reason =>
    let cause := Raised.ofStandard .overflowError reason
    ⟨.corrupt "eventTtl is out of range" name (some cause.mention), [cause]⟩
  | refused failure => failure

end EventRoster.Record
