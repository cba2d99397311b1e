import EventRoster.Number.Literal
import EventRoster.Text.Blank
import EventRoster.Text.Digit

/-!
# Numbers in settings

Numbers that people write into environment variables and addresses are read more liberally than the
literals of JSON: blanks around them are dropped, the digits may be of any script, single underscores
may separate digits, and leading zeros are allowed.  A binary64 number may leave out the digits on
one side of its point and may be called infinite or not a number.
-/

namespace EventRoster.Number.Setting

open EventRoster.Text

/-- Digits of any script in ASCII, all else as it is. -/
def inAscii (s : List Char) : List Char :=
  s.map fun c => match digitValue? c with
    | some d => Char.ofNat (48 + d)
    | none => c

/-- The text without padding, its digits in ASCII. -/
def prepared (s : List Char) : List Char :=
  inAscii (trimBy isPadding s)

/-- What is wrong with the text of an integer. -/
inductive Fault
  | notAnInteger
  | tooLong (digits : Nat)
deriving DecidableEq, Repr

/-- The digits at the front of a text with single underscores between them, and the rest.  There is
no result if the text does not begin with a digit or an underscore stands elsewhere. -/
def takeGrouped? : List Char → Option (List Char × List Char)
  | [] => none
  | c :: rest =>
    if c.isDigit then
      match rest with
      | [] => some ([c], [])
      | d :: more =>
        if d = '_' then (takeGrouped? more).map fun (digits, left) => (c :: digits, left)
        else if d.isDigit then
          (takeGrouped? (d :: more)).map fun (digits, left) => (c :: digits, left)
        else some ([c], d :: more)
    else none

/-- The integer that a setting spells.  The length of its digits is judged before what follows
them. -/
def readInt (s : List Char) : Except Fault Int :=
  let (negative, unsigned) := takeSign (prepared s)
  match takeGrouped? unsigned with
  | none => .error .notAnInteger
  | some (digits, rest) =>
    if digitLimit < digits.length then .error (.tooLong digits.length)
    else if rest.isEmpty then .ok (signed negative (Nat.ofDigitChars 10 digits 0))
    else .error .notAnInteger

/-- The text without underscores, if each of them stands between two digits. -/
def ungrouped? : List Char → Option (List Char)
  | [] => some []
  | '_' :: _ => none
  | [c] => some [c]
  | c :: '_' :: d :: rest =>
    if c.isDigit && d.isDigit then (ungrouped? (d :: rest)).map (c :: ·) else none
  | c :: d :: rest => (ungrouped? (d :: rest)).map (c :: ·)

/-- The digits before and after the point, at least one in all, and the rest. -/
def takeMantissa? (s : List Char) : Option (List Char × List Char × List Char) :=
  let (whole, afterWhole) := takeDigits s
  let (fraction, rest) := match afterWhole with
    | '.' :: afterPoint => takeDigits afterPoint
    | _ => ([], afterWhole)
  if whole.isEmpty && fraction.isEmpty then none else some (whole, fraction, rest)

/-- The names of the numbers that are not finite, in lower case. -/
def named? (negative : Bool) (s : List Char) : Option Binary64 :=
  let name := String.ofList (s.map Char.toLower)
  if name = "inf" ∨ name = "infinity" then some (.infinite negative)
  else if name = "nan" then some .nan
  else none

/-- The binary64 number that a setting spells, if it spells one. -/
def readFloat? (s : List Char) : Option Binary64 := do
  let plain ← ungrouped? (prepared s)
  let (negative, unsigned) := takeSign plain
  match takeMantissa? unsigned with
  | none => named? negative unsigned
  | some (whole, fraction, rest) =>
    let (power, left) := takePower rest
    if left.isEmpty then some (Literal.toBinary64 ⟨negative, whole, fraction, power⟩) else none

/-- Plain digits are their own grouping. -/
theorem takeGrouped?_digits {c : Char} {digits : List Char}
    (h : ∀ d ∈ c :: digits, d.isDigit = true) :
    takeGrouped? (c :: digits) = some (c :: digits, []) := by
  induction digits generalizing c with
  | nil => simp [takeGrouped?, h c (by simp)]
  | cons d rest ih =>
    have hd : d.isDigit = true := h d (by simp)
    have notUnderscore : d ≠ '_' := by rintro rfl; exact absurd hd (by decide)
    have := ih (c := d) fun e he => h e (by simp_all)
    rw [takeGrouped?]
    simp [h c (by simp), hd, this, notUnderscore]

end EventRoster.Number.Setting
