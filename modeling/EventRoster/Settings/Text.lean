import EventRoster.Failure.Basic
import EventRoster.Json.Fault
import EventRoster.Number.Setting

/-!
# Numbers in settings, and why they are refused

An integer or a binary64 number in a setting is refused with a value error, which the setting that
holds it wraps into an error of its own.
-/

namespace EventRoster.Settings

open EventRoster.Failure

/-- The number of characters of a refused integer that are shown. -/
def shownLimit : Nat := 200

/-- Why the text of an integer is refused. -/
def intFault (text : String) : Number.Setting.Fault → Raised
  | .notAnInteger =>
    .ofStandard .valueError ("invalid literal for int() with base 10: " ++
      String.ofList ((Text.Quoted.chars (CodePoint.ofString text)).take shownLimit))
  | .tooLong digits => .ofStandard .valueError (Json.longIntegerMessage Number.digitLimit digits)

/-- The integer in a setting. -/
def readInt (text : String) : Except Raised Int :=
  (Number.Setting.readInt text.toList).mapError (intFault text)

/-- The binary64 number in a setting. -/
def readFloat (text : String) : Except Raised Number.Binary64 :=
  match Number.Setting.readFloat? text.toList with
  | some x => .ok x
  | none =>
    .error (.ofStandard .valueError s!"could not convert string to float: {Text.quoted text}")

/-- An error of the configuration for which another one is to blame. -/
def blaming (message : String) (cause : Raised) : Failure :=
  ⟨.configuration message (some cause.mention), [cause]⟩

end EventRoster.Settings
