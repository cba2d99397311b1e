import EventRoster.Text.CodePoint
import EventRoster.Text.Hex
import EventRoster.Text.Printable

/-!
# Quoted text

Messages show a text in quotes, so that its ends and every character that cannot be seen are
visible.  Single quotes are taken unless the text holds a single and no double one; the chosen quote
and the backslash are escaped, three control characters have letters, and any other code point that
cannot be seen, as no surrogate can, is written in two, four or eight hexadecimal digits.
-/

namespace EventRoster.Text.Quoted

/-- The quote that a text is shown in. -/
def mark (s : List CodePoint) : Char :=
  if s.contains (.char '\'') && !s.contains (.char '"') then '"' else '\''

/-- One character of a text shown in the given quotes. -/
def shown (quote c : Char) : List Char :=
  if c = quote ∨ c = '\\' then ['\\', c]
  else if c = '\t' then ['\\', 't']
  else if c = '\n' then ['\\', 'n']
  else if c = '\r' then ['\\', 'r']
  else if isPrintable c then [c]
  else if c.toNat ≤ 0xff then '\\' :: 'x' :: hexPadded 2 c.toNat
  else if c.toNat ≤ 0xffff then '\\' :: 'u' :: hexPadded 4 c.toNat
  else '\\' :: 'U' :: hexPadded 8 c.toNat

/-- One code point of a text shown in the given quotes. -/
def shownPoint (quote : Char) : CodePoint → List Char
  | .char c => shown quote c
  | .surrogate n => '\\' :: 'u' :: hexPadded 4 (CodePoint.surrogate n).toNat

/-- A text in quotes. -/
def chars (s : List CodePoint) : List Char :=
  let quote := mark s
  quote :: (s.flatMap (shownPoint quote) ++ [quote])

end Quoted

/-- A text in quotes. -/
def quoted (s : Text) : String :=
  String.ofList (Quoted.chars s.toList)

end EventRoster.Text
