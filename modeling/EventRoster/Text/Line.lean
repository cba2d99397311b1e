import EventRoster.Text.CodePoint
import EventRoster.Text.Range

/-!
# Lines of text

Text is cut into lines after every character that ends a line: line feeds and their like, three of
the information separators, and the line and paragraph separators.  A carriage return and the line
feed after it end one line together.
-/

namespace EventRoster.Text

/-- The characters that end a line. -/
def lineEnds : List CodeRange :=
  [⟨0x0a, 0x0d⟩, ⟨0x1c, 0x1e⟩, ⟨0x85, 0x85⟩, ⟨0x2028, 0x2029⟩]

/-- Whether a code point ends a line. -/
def endsLine (c : CodePoint) : Bool :=
  inRanges lineEnds c.toNat

/-- The lines of a text, without what ends them.  What stands after the last end is a line if it is
not empty. -/
def lines : List CodePoint → List (List CodePoint)
  | [] => []
  | .char '\r' :: .char '\n' :: rest => [] :: lines rest
  | c :: rest =>
    if endsLine c then [] :: lines rest
    else
      match lines rest with
      | [] => [[c]]
      | line :: others => (c :: line) :: others

@[simp] theorem lines_nil : lines [] = [] := rfl

end EventRoster.Text
