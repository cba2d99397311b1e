import EventRoster.Text.Cut
import EventRoster.Text.Hex

/-!
# Internet addresses

A host in brackets has to be an address of the sixth version.  Such an address is eight groups of up
to four hexadecimal digits with colons between them, of which one run of zero groups may be left out;
the last two groups may be written as an address of the fourth version.  A zone may follow a percent
sign.
-/

namespace EventRoster.StoreUrl

/-- Whether some characters are a decimal number up to 255 without a leading zero. -/
def isOctet (s : List Char) : Bool :=
  !s.isEmpty && s.all Char.isDigit && s.length ≤ 3 && (s == ['0'] || s.head? != some '0') &&
    Nat.ofDigitChars 10 s 0 ≤ 255

/-- Whether some characters are an address of the fourth version. -/
def isAddress4 (s : List Char) : Bool :=
  let octets := Text.splitAt '.' s
  octets.length == 4 && octets.all isOctet

/-- Whether some characters are a group of an address of the sixth version. -/
def isGroup (s : List Char) : Bool :=
  !s.isEmpty && s.length ≤ 4 && s.all fun c => (Text.hexValue? c).isSome

/-- The number of groups that some pieces stand for, of which the last may be an address of the
fourth version.  There is no such number if a piece is no group. -/
def groupCount? : List (List Char) → Option Nat
  | [] => some 0
  | [last] => if isGroup last then some 1 else if isAddress4 last then some 2 else none
  | piece :: pieces => if isGroup piece then (groupCount? pieces).map (· + 1) else none

/-- The pieces between colons; there are none in an empty text. -/
def pieces (s : List Char) : List (List Char) :=
  if s.isEmpty then [] else Text.splitAt ':' s

/-- What stands before and after the first double colon. -/
def cutGap? : List Char → Option (List Char × List Char)
  | ':' :: ':' :: rest => some ([], rest)
  | c :: rest => (cutGap? rest).map fun (a, b) => (c :: a, b)
  | [] => none

/-- Whether some characters are an address of the sixth version without a zone. -/
def isGroups (s : List Char) : Bool :=
  match cutGap? s with
  | none => groupCount? (pieces s) == some 8
  | some (front, back) =>
    (pieces front).all isGroup &&
      match groupCount? (pieces back) with
      | some n => (pieces front).length + n ≤ 7
      | none => false

/-- Whether some characters are an address of the sixth version. -/
def isAddress6 (s : List Char) : Bool :=
  !s.contains '/' &&
    match Text.cut? '%' s with
    | none => isGroups s
    | some (address, zone) => !zone.isEmpty && !zone.contains '%' && isGroups address

/-- Whether some characters are an address of a version to come: the version in hexadecimal after a
`v`, a point, and anything. -/
def isFutureAddress (s : List Char) : Bool :=
  match s with
  | 'v' :: rest =>
    match Text.cut? '.' rest with
    | some (version, address) =>
      !version.isEmpty && version.all (fun c => (Text.hexValue? c).isSome) && !address.isEmpty
    | none => false
  | _ => false

/-- The unspecified address has no groups of its own. -/
example : isAddress6 [':', ':'] = true := by decide

end EventRoster.StoreUrl
