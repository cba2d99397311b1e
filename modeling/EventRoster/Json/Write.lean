import EventRoster.Json.Text
import EventRoster.Json.Value
import EventRoster.Number.Written
import EventRoster.Text.Quoted

/-!
# Writing JSON values

`Json.chars` writes a value as JSON without any spaces.  `Json.spelled` writes it the way messages
show a value that stands where text was expected: with capitalised words, quoted text and a space
after every comma and colon.
-/

namespace EventRoster.Json

/-- Joins pieces with a separator between them. -/
def joined {α : Type} (separator : List α) : List (List α) → List α
  | [] => []
  | [piece] => piece
  | piece :: pieces => piece ++ separator ++ joined separator pieces

/-- A truth value as a JSON word. -/
def boolChars (b : Bool) : List CodePoint :=
  if b then "true" else "false"

mutual

/-- A value as JSON. -/
def chars (charset : Text.Charset) : Json → List CodePoint
  | .null => "null"
  | .bool b => boolChars b
  | .int n => CodePoint.ofChars (Number.intChars n)
  | .float x => CodePoint.ofChars (x.chars Number.jsonStyle)
  | .text s => Text.literal charset s.toList
  | .array items => .char '[' :: (joined [.char ','] (itemChars charset items) ++ [.char ']'])
  | .object members => .char '{' :: (joined [.char ','] (memberChars charset members) ++ [.char '}'])

/-- The items of an array as JSON. -/
def itemChars (charset : Text.Charset) : List Json → List (List CodePoint)
  | [] => []
  | item :: items => chars charset item :: itemChars charset items

/-- The members of an object as JSON. -/
def memberChars (charset : Text.Charset) : List (EventRoster.Text × Json) → List (List CodePoint)
  | [] => []
  | (name, value) :: members =>
    (Text.literal charset name.toList ++ .char ':' :: chars charset value) :: memberChars charset members

end

mutual

/-- A value as messages show it. -/
def spelledChars : Json → List Char
  | .null => "None".toList
  | .bool b => if b then "True".toList else "False".toList
  | .int n => Number.intChars n
  | .float x => x.chars Number.messageStyle
  | .text s => EventRoster.Text.Quoted.chars s.toList
  | .array items => '[' :: (joined [',', ' '] (spelledItems items) ++ [']'])
  | .object members => '{' :: (joined [',', ' '] (spelledMembers members) ++ ['}'])

/-- The items of an array as messages show them. -/
def spelledItems : List Json → List (List Char)
  | [] => []
  | item :: items => spelledChars item :: spelledItems items

/-- The members of an object as messages show them. -/
def spelledMembers : List (EventRoster.Text × Json) → List (List Char)
  | [] => []
  | (name, value) :: members =>
    (EventRoster.Text.Quoted.chars name.toList ++ ':' :: ' ' :: spelledChars value) ::
      spelledMembers members

end

/-- A value as JSON. -/
def write (charset : Text.Charset) (v : Json) : EventRoster.Text :=
  .ofList (v.chars charset)

/-- A value as messages show it. -/
def spelled (v : Json) : String :=
  String.ofList v.spelledChars

end EventRoster.Json
