import EventRoster.Text.CodePoint

/-!
# What is wrong with a JSON text

A fault is a problem and the place where it was noticed.  The readers count the place from the end,
as the number of code points left, since that is what a reader has in hand; `Place.ofLeft` turns it
into the offset, line and column that a message names.
-/

namespace EventRoster.Json

/-- A way in which a text fails to be JSON. -/
inductive Problem
  | expectingValue
  | expectingName
  | expectingColon
  | expectingComma
  | unterminatedString
  | controlCharacter
  | badEscape
  | badUnicodeEscape
  | extraData
  | byteOrderMark
deriving DecidableEq, Repr

/-- The words for a problem. -/
def Problem.message : Problem → String
  | expectingValue => "Expecting value"
  | expectingName => "Expecting property name enclosed in double quotes"
  | expectingColon => "Expecting ':' delimiter"
  | expectingComma => "Expecting ',' delimiter"
  | unterminatedString => "Unterminated string starting at"
  | controlCharacter => "Invalid control character at"
  | badEscape => "Invalid \\escape"
  | badUnicodeEscape => "Invalid \\uXXXX escape"
  | extraData => "Extra data"
  | byteOrderMark => "Unexpected UTF-8 BOM (decode using utf-8-sig)"

/-- Why reading stopped: the text is no JSON from some place on, or an integer has more digits than
are read. -/
inductive Fault
  | malformed (problem : Problem) (left : Nat)
  | longInteger (digits : Nat)
deriving DecidableEq, Repr

/-- The words for an integer text with too many digits. -/
def longIntegerMessage (limit digits : Nat) : String :=
  s!"Exceeds the limit ({limit} digits) for integer string conversion: value has {digits} digits; " ++
    "use sys.set_int_max_str_digits() to increase the limit"

/-- A place in a text: its offset in code points, and its line and column, both counted from one. -/
structure Place where
  offset : Nat
  line : Nat
  column : Nat
deriving DecidableEq, Repr

/-- The place with a given number of code points before it. -/
def Place.ofOffset (text : List CodePoint) (offset : Nat) : Place :=
  let before := text.take offset
  { offset
    line := before.count (.char '\n') + 1
    column := offset - (before.reverse.dropWhile (· ≠ .char '\n')).length + 1 }

/-- The place with a given number of code points from it to the end. -/
def Place.ofLeft (text : List CodePoint) (left : Nat) : Place :=
  Place.ofOffset text (text.length - left)

/-- A message with its place. -/
def Place.describe (p : Place) (message : String) : String :=
  s!"{message}: line {p.line} column {p.column} (char {p.offset})"

end EventRoster.Json
