import EventRoster.Json.Value

/-!
# Payloads

What is found in the payload column of a row.  A payload is text as a rule, and bytes if the column
was made for them; anything else is known only by the name of its type.
-/

namespace EventRoster.Record

/-- The content of a payload column. -/
inductive Payload
  | text (s : Text)
  | bytes (b : List UInt8)
  | other (typeName : String)
deriving DecidableEq, Repr

/-- The payload that is a JSON value itself. -/
def Payload.ofJson : Json → Payload
  | .null => other "NoneType"
  | .bool _ => other "bool"
  | .int _ => other "int"
  | .float _ => other "float"
  | .text s => text s
  | .array _ => other "list"
  | .object _ => other "dict"

end EventRoster.Record
