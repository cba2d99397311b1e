import EventRoster.Journal
import EventRoster.Text.Line

/-!
# Readable lines

A readable line begins with the time, the level and the name of its event, padded so that lines stand
well below one another, and with the logger's name if that is told.  The rest follows in name order,
each value after its name.  A stack and an exception stand below the line.

Names, events and unquoted values are written as they are, so that one line of the journal may take up
more than one line of text; `Journal.height` counts them.
-/

namespace EventRoster.Journal

open EventRoster.Json (Members joined get?)

/-! ## Values -/

/-- A value by itself. -/
def bareChars : Json → List CodePoint
  | .text s => s.toList
  | v => CodePoint.ofChars v.spelledChars

/-- Whether a text with this code point could be misread after a name. -/
def isMisread (c : CodePoint) : Bool :=
  c = ' ' || c = '\t' || c = '=' || c = '\r' || c = '\n' || c = '"' || c = '\''

/-- A value after its name.  Text is quoted where it could be misread. -/
def namedChars : Json → List CodePoint
  | .text s =>
    if s.toList.any isMisread then CodePoint.ofChars (Text.Quoted.chars s.toList) else s.toList
  | v => CodePoint.ofChars v.spelledChars

/-- A text with spaces after it up to a width. -/
def widened (width : Nat) (s : List CodePoint) : List CodePoint :=
  s ++ List.replicate (width - s.length) (.char ' ')

/-- A text in brackets. -/
def bracketed (s : List CodePoint) : List CodePoint :=
  .char '[' :: (s ++ [.char ']'])

/-- A value that counts as given: not null, false, zero or empty. -/
def isGiven : Json → Bool
  | .null => false
  | .bool b => b
  | .int n => n != 0
  | .float (.finite _ size) => size.num != 0
  | .float _ => true
  | .text s => s != ""
  | .array items => !items.isEmpty
  | .object members => !members.isEmpty

/-! ## The line -/

/-- What stands at the beginning of a line, and how it is written there. -/
def columns : List (Text × (Json → List CodePoint)) :=
  [("timestamp", bareChars), ("level", fun v => bracketed (widened 9 (bareChars v))),
    ("event", fun v => widened 30 (bareChars v)), ("logger", fun v => bracketed (bareChars v)),
    ("logger_name", fun v => bracketed (bareChars v))]

/-- What stands below a line. -/
def below : List Text :=
  ["stack", "exception", "exc_info"]

/-- The members with places of their own at the beginning of the line. -/
def heading (members : Members) : List (List CodePoint) :=
  columns.filterMap fun (name, write) => (get? members name).map write

/-- The members that stand after their names, in name order. -/
def named (members : Members) : List (List CodePoint) :=
  let others := Json.without members (columns.map (·.1) ++ below)
  let inOrder := others.mergeSort fun (m, _) (n, _) => !n.isBefore m
  inOrder.map fun (name, value) => name.toList ++ .char '=' :: namedChars value

/-- A line without what stands below it. -/
def headline (members : Members) : List CodePoint :=
  let pieces := (heading members ++ named members).filter (!·.isEmpty)
  ((joined [.char ' '] pieces).reverse.dropWhile (· = .char ' ')).reverse

/-! ## Below the line -/

/-- A member that has to be text, if it is there. -/
def textOf? (members : Members) (name : String) : Except Failure (Option (List CodePoint)) :=
  match get? members name with
  | none | some .null => .ok none
  | some (.text s) => .ok (some s.toList)
  | some _ => .error (.ofRaised (.ofStandard .typeError s!"{name} is no text"))

/-- What parts a stack from an exception. -/
def ruler : List CodePoint :=
  (.char '\n') :: .char '\n' :: (List.replicate 79 (.char '=') ++ [.char '\n'])

/-- What stands below a line: a stack, an exception, and a ruler between them.  The ruler is drawn as
well for an exception that was asked for and is not there. -/
def tail (members : Members) : Except Failure (List CodePoint) := do
  let stack ← textOf? members "stack"
  let thrown ← textOf? members "exception"
  let asked := ((get? members "exc_info").map isGiven).getD false
  let stackChars := match stack with
    | none => []
    | some s => .char '\n' :: (s ++ if asked || thrown.isSome then ruler else [])
  pure (stackChars ++ ((thrown.map (.char '\n' :: ·)).getD []))

/-- A line of the journal as readable text, with the line feed at its end. -/
def readable (members : Members) : Except Failure (List CodePoint) := do
  let rest ← tail members
  pure (headline members ++ rest ++ [.char '\n'])

/-- How many lines of text a readable line of the journal takes up. -/
def height (members : Members) : Except Failure Nat :=
  (readable members).map fun s => (Text.lines s).length

end EventRoster.Journal
