import EventRoster.Json.Write

/-!
# Scalars

The values that a condition compares an intrinsic with, and that a few settings hold: null, truth
values, integers, binary64 numbers and text.  `1`, `1.0` and `true` are three scalars.
-/

namespace EventRoster

/-- A scalar value. -/
inductive Scalar
  | null
  | bool (b : Bool)
  | int (n : Int)
  | float (x : Number.Binary64)
  | text (s : Text)
deriving DecidableEq

namespace Scalar

/-- The scalar as a JSON value. -/
def toJson : Scalar → Json
  | null => .null
  | bool b => .bool b
  | int n => .int n
  | float x => .float x
  | text s => .text s

/-- The scalar as a literal of a condition: JSON that keeps every code point that it can. -/
def chars : Scalar → List CodePoint
  | null => "null"
  | bool b => Json.boolChars b
  | int n => CodePoint.ofChars (Number.intChars n)
  | float x => CodePoint.ofChars (x.chars Number.jsonStyle)
  | text s => Json.Text.literal .unicode s.toList

end Scalar

end EventRoster
