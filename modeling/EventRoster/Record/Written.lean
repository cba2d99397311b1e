import EventRoster.Record.Fault
import EventRoster.Subscription

/-!
# The written form of records

A subscription is stored as a JSON object without blanks and in ASCII, its members in the order of
their names, so that equal subscriptions are stored as equal texts.  The name is not part of it: it
is the key of the row.

Integers with too many digits to be read back are not written.
-/

namespace EventRoster

namespace Condition

mutual

/-- Whether all integers in a condition are short enough to be written. -/
def writable : Condition → Bool
  | constant _ => true
  | not inner => writable inner
  | all parts => writableList parts
  | any parts => writableList parts
  | intrinsic _ first others => (first :: others).all fun v => match v with
    | .int n => digitCount n ≤ Number.digitLimit
    | _ => true

/-- Whether all integers in some conditions are short enough to be written. -/
def writableList : List Condition → Bool
  | [] => true
  | part :: parts => writable part && writableList parts

end

end Condition

namespace Record

/-- The failure to write an integer with too many digits. -/
def unwritable : Failure :=
  .ofRaised (.ofStandard .valueError
    (s!"Exceeds the limit ({Number.digitLimit} digits) for integer string conversion; " ++
      "use sys.set_int_max_str_digits() to increase the limit"))

/-- The members of a record, in the order of their names. -/
def members (s : Subscription) : Json.Members :=
  [(Field.eventTtl.name, .int s.eventTtl.truncatedSeconds),
    (Field.expiresAt.name, .int s.expiresAt),
    (Field.condition.name, .text s.condition.text),
    (Field.owner.name, match s.owner with
      | some owner => .text owner
      | none => .null)]

/-- The text of a record. -/
def text (s : Subscription) : Text :=
  Json.write .ascii (.object (members s))

/-- The text of a record, or the failure to write it. -/
def encode (s : Subscription) : Except Failure Text :=
  if s.condition.writable && Condition.digitCount s.expiresAt ≤ Number.digitLimit then .ok (text s)
  else .error unwritable

end Record

end EventRoster
