/-!
# Lower case, as far as ASCII patterns can tell

A name is searched for patterns of ASCII letters regardless of case.  Besides the ASCII capitals
just two characters have a lower case with an ASCII letter in it: the Kelvin sign, which becomes
`k`, and the dotted capital I, which becomes `i` and a combining dot.  Any other character may be
kept as it is, since neither it nor its lower case can take part in a match.
-/

namespace EventRoster.Text

/-- The lower case of a character, exact wherever an ASCII letter results. -/
def lowerChar (c : Char) : List Char :=
  if 'A' ≤ c ∧ c ≤ 'Z' then [Char.ofNat (c.toNat + 32)]
  else if c = '\u212a' then ['k']
  else if c = '\u0130' then ['i', '\u0307']
  else [c]

/-- The lower case of a text, exact wherever an ASCII letter results. -/
def lower (s : List Char) : List Char :=
  s.flatMap lowerChar

/-- Whether a pattern occurs in a text without a gap. -/
def occursIn (pattern : List Char) : List Char → Bool
  | [] => pattern.isEmpty
  | c :: rest => pattern.isPrefixOf (c :: rest) || occursIn pattern rest

end EventRoster.Text
