import EventRoster.Json.Fault
import EventRoster.Text.Hex
import EventRoster.Text.Taken

/-!
# JSON strings

`Text.encode` writes the inside of a string, and `Text.takeBody` reads it up to the closing quote.
Written text escapes quotes, backslashes and control characters; where the output has to be ASCII it
escapes all other code points too, those beyond U+FFFF as a surrogate pair.

The escape of a surrogate stands for that surrogate, unless it is read as half of a pair: two escapes in a
row that are a pair are one character.  So a string that holds the two halves of a pair one after the
other is not told apart, in ASCII, from one that holds the character.
-/

namespace EventRoster.Json.Text

open EventRoster.Text

/-- Which code points a string escapes besides those that it must. -/
inductive Charset
  | unicode
  | ascii
deriving DecidableEq, Repr

/-- A code unit of UTF-16 as an escape. -/
def unitEscape (n : Nat) : List CodePoint :=
  '\\' :: 'u' :: CodePoint.ofChars (hexPadded 4 n)

/-- A code point as one escape, or as two if it lies beyond U+FFFF. -/
def escape (c : CodePoint) : List CodePoint :=
  if c.toNat < 0x10000 then unitEscape c.toNat
  else
    unitEscape (0xd800 + (c.toNat - 0x10000) / 0x400) ++
      unitEscape (0xdc00 + (c.toNat - 0x10000) % 0x400)

/-- A code point inside a string. -/
def encodePoint (charset : Charset) (c : CodePoint) : List CodePoint :=
  if c = '"' then ['\\', '"']
  else if c = '\\' then ['\\', '\\']
  else if c = '\n' then ['\\', 'n']
  else if c = '\r' then ['\\', 'r']
  else if c = '\t' then ['\\', 't']
  else if c = '\x0c' then ['\\', 'f']
  else if c = '\x08' then ['\\', 'b']
  else if c.toNat < 0x20 then escape c
  else if charset = .ascii ∧ 0x7f ≤ c.toNat then escape c
  else [c]

/-- The inside of a string. -/
def encode (charset : Charset) (s : List CodePoint) : List CodePoint :=
  s.flatMap (encodePoint charset)

/-- A string with its quotes. -/
def literal (charset : Charset) (s : List CodePoint) : List CodePoint :=
  .char '"' :: (encode charset s ++ [.char '"'])

/-- The character that a letter after a backslash stands for. -/
def letterEscape? (c : CodePoint) : Option CodePoint :=
  if c = '"' ∨ c = '\\' ∨ c = '/' then some c
  else if c = 'b' then some (.char '\x08')
  else if c = 'f' then some (.char '\x0c')
  else if c = 'n' then some (.char '\n')
  else if c = 'r' then some (.char '\r')
  else if c = 't' then some (.char '\t')
  else none

/-- The code unit in the four digits after `\u`.  At least one code point has to follow them, since
the string has to end. -/
def takeUnit? : List CodePoint → Option (CodePoint × List CodePoint)
  | .char a :: .char b :: .char c :: .char d :: e :: rest =>
    (ofHex? [a, b, c, d]).map fun n => (.ofNat n, e :: rest)
  | _ => none

/-- The second half of a surrogate pair, if its escape follows.  An escape that is cut short by the
end of the text is left for the next step to complain about; one with a wrong digit is a fault here.
-/
def takeLow? (s : List CodePoint) : Except Fault (Option (CodePoint × List CodePoint)) :=
  match s with
  | .char '\\' :: .char 'u' :: digits =>
    if digits.length < 5 then .ok none
    else
      match takeUnit? digits with
      | none => .error (.malformed .badUnicodeEscape (digits.length + 1))
      | some (unit, rest) => if unit.isLow then .ok (some (unit, rest)) else .ok none
  | _ => .ok none

theorem takeUnit?_length {s rest : List CodePoint} {unit : CodePoint}
    (h : takeUnit? s = some (unit, rest)) :
    rest.length < s.length := by
  unfold takeUnit? at h
  split at h
  · obtain ⟨m, -, eq⟩ := Option.map_eq_some_iff.1 h
    obtain ⟨-, rfl⟩ := Prod.mk.inj eq
    simp only [List.length_cons]
    omega
  · simp at h

theorem takeLow?_length {s rest : List CodePoint} {low : CodePoint}
    (h : takeLow? s = .ok (some (low, rest))) :
    rest.length < s.length := by
  unfold takeLow? at h
  split at h
  · next digits =>
    split at h
    · simp at h
    · split at h
      · simp at h
      · next m r eq =>
        have := takeUnit?_length eq
        split at h
        · obtain ⟨-, rfl⟩ := Prod.mk.inj (Option.some.inj (Except.ok.inj h))
          simp only [List.length_cons]
          omega
        · simp at h
  · simp at h

/-- The code point that the escape after `\u` stands for, together with the escape behind it if the two
are a pair. -/
def takeUnicode (s : List CodePoint) : Except Fault (Taken CodePoint s) :=
  match h : takeUnit? s with
  | none => .error (.malformed .badUnicodeEscape (s.length + 1))
  | some (unit, rest) =>
    have shorter := takeUnit?_length h
    if unit.isHigh then
      match hl : takeLow? rest with
      | .error e => .error e
      | .ok (some (low, rest')) =>
        .ok ⟨.pair unit low, rest', Nat.lt_trans (takeLow?_length hl) shorter⟩
      | .ok none => .ok ⟨unit, rest, shorter⟩
    else .ok ⟨unit, rest, shorter⟩

/-- The code point that the escape after a backslash stands for.  `opened` is the number of code points
from the opening quote on. -/
def takeEscape (opened : Nat) (s : List CodePoint) : Except Fault (Taken CodePoint s) :=
  match s with
  | [] => .error (.malformed .unterminatedString opened)
  | c :: rest =>
    if c = 'u' then
      match takeUnicode rest with
      | .error e => .error e
      | .ok taken => .ok (taken.widen (by simp))
    else
      match letterEscape? c with
      | some d => .ok ⟨d, rest, by simp⟩
      | none => .error (.malformed .badEscape (rest.length + 2))

/-- The inside of a string, up to and with the closing quote.  `opened` is the number of code points
from the opening quote on, where a missing end is reported. -/
def takeBody (opened : Nat) (s : List CodePoint) : Except Fault (Taken (List CodePoint) s) :=
  match s with
  | [] => .error (.malformed .unterminatedString opened)
  | c :: rest =>
    if c = '"' then .ok ⟨[], rest, by simp⟩
    else if c = '\\' then
      match takeEscape opened rest with
      | .error e => .error e
      | .ok escaped =>
        match takeBody opened escaped.rest with
        | .error e => .error e
        | .ok body =>
          .ok ⟨escaped.value :: body.value, body.rest, by
            have := escaped.shorter
            have := body.shorter
            simp only [List.length_cons]
            omega⟩
    else if c.toNat < 0x20 then .error (.malformed .controlCharacter (rest.length + 1))
    else
      match takeBody opened rest with
      | .error e => .error e
      | .ok body =>
        .ok ⟨c :: body.value, body.rest, by
          have := body.shorter
          simp only [List.length_cons]
          omega⟩
termination_by s.length
decreasing_by
  all_goals simp only [List.length_cons]
  · have := escaped.shorter
    omega
  · omega

end EventRoster.Json.Text
