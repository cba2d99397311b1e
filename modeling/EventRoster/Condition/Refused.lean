import EventRoster.Condition.Reader
import EventRoster.Failure.Basic

/-!
# Refused conditions as failures

A misread condition is an error of its own kind, which names the text and the place.  An integer that
is too long to read is a fault of values, and not of conditions.
-/

namespace EventRoster

/-- What reads the conditions of stored subscriptions. -/
abbrev ConditionReader := Text → Except Failure Condition

namespace Condition

open EventRoster.Failure

/-- The failure behind an integer with too many digits. -/
def longInteger (digits : Nat) : Failure :=
  .ofRaised (.ofStandard .valueError (Json.longIntegerMessage Number.digitLimit digits))

/-- A misreading as a failure.  A bad literal is raised from what is wrong with it as JSON. -/
def Misreading.failure (m : Misreading) : Failure :=
  let error := Raised.parse m.complaint.message m.text m.position
  match m.complaint with
  | .invalidLiteral problem => ⟨error, [.ofStandard .jsonDecodeError problem.message]⟩
  | _ => .ofRaised error

/-- A refusal as a failure. -/
def Refusal.failure : Refusal → Failure
  | .misread m => m.failure
  | .longInteger digits => Condition.longInteger digits

/-- Reads the written form of conditions. -/
def reader : ConditionReader := fun text =>
  (parse text).mapError Refusal.failure

/-- Reads every text as the condition that nothing meets. -/
def nothingReader : ConditionReader := fun _ =>
  .ok (constant false)

/-- A misreading is an error of reading conditions that carries the text and the place. -/
theorem Misreading.failure_error (m : Misreading) :
    m.failure.error = Raised.parse m.complaint.message m.text m.position := by
  rw [failure]
  split <;> rfl

end Condition

end EventRoster
