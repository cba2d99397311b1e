import EventRoster.Text.Range

/-!
# Blank characters

Two sets of blank characters are in use.  Between the tokens of a condition, around a host of a
contact list and wherever text is trimmed, every Unicode white space character and the four
information separators are blank.  Around a number in a setting the separators are not.
-/

namespace EventRoster.Text

/-- The white space characters of Unicode, with the information separators U+001C to U+001F. -/
def blankRanges : List CodeRange :=
  [⟨0x09, 0x0d⟩, ⟨0x1c, 0x20⟩, ⟨0x85, 0x85⟩, ⟨0xa0, 0xa0⟩, ⟨0x1680, 0x1680⟩, ⟨0x2000, 0x200a⟩,
    ⟨0x2028, 0x2029⟩, ⟨0x202f, 0x202f⟩, ⟨0x205f, 0x205f⟩, ⟨0x3000, 0x3000⟩]

/-- Whether a character is blank. -/
def isBlank (c : Char) : Bool :=
  inRanges blankRanges c.toNat

/-- Whether a character may pad a number: a blank that is not an information separator. -/
def isPadding (c : Char) : Bool :=
  isBlank c && !(0x1c ≤ c.toNat && c.toNat ≤ 0x1f)

/-- The text without the characters of a class at its two ends. -/
def trimBy (p : Char → Bool) (s : List Char) : List Char :=
  ((s.dropWhile p).reverse.dropWhile p).reverse

/-- The text without blanks at its two ends. -/
def trim (s : List Char) : List Char :=
  trimBy isBlank s

end EventRoster.Text
