import EventRoster.Json.Fault
import EventRoster.Text.Quoted

/-!
# What is wrong with the text of a condition

A refusal names the first thing that is wrong and the place where it is.  One refusal has no place:
an integer with too many digits is not wrong as text, but too long to read.
-/

namespace EventRoster.Condition

/-- What a reader found instead of what it needed. -/
inductive Complaint
  | expected (c : Char)
  | trailingInput
  | expectedCondition
  | unknownCondition (name : Text)
  | expectedName
  | unterminatedString
  | expectedLiteral
  | invalidLiteral (problem : Json.Problem)
  | notText
deriving DecidableEq, Repr

/-- The words for a complaint. -/
def Complaint.message : Complaint → String
  | expected c => "Expected " ++ Text.quoted (String.singleton c)
  | trailingInput => "Unexpected trailing input"
  | expectedCondition => "Expected a condition"
  | unknownCondition name => "Unknown condition " ++ Text.quoted name
  | expectedName => "Expected intrinsic name"
  | unterminatedString => "Unterminated string"
  | expectedLiteral => "Expected a literal"
  | invalidLiteral problem => "Invalid literal (" ++ problem.message ++ ")"
  | notText => "Condition must be a string"

/-- Why reading stopped, with the number of code points left where it did. -/
inductive Fault
  | misread (complaint : Complaint) (left : Nat)
  | longInteger (digits : Nat)
deriving DecidableEq, Repr

/-- A text that is no condition, what is wrong with it and where. -/
structure Misreading where
  text : Text
  complaint : Complaint
  position : Nat
deriving DecidableEq, Repr

/-- The words for a misreading. -/
def Misreading.message (m : Misreading) : String :=
  s!"{m.complaint.message} at position {m.position}: {Text.quoted m.text}"

/-- Why a text was refused. -/
inductive Refusal
  | misread (m : Misreading)
  | longInteger (digits : Nat)
deriving DecidableEq, Repr

/-- A fault as a refusal of the whole text. -/
def Fault.refuse (text : Text) : Fault → Refusal
  | misread complaint left => .misread ⟨text, complaint, text.length - left⟩
  | longInteger digits => .longInteger digits

end EventRoster.Condition
