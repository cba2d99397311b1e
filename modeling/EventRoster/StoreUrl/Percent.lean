import EventRoster.Text.Cut
import EventRoster.Text.Hex
import EventRoster.Text.Utf8

/-!
# Values in the query of an address

A query is a list of names with values.  In both, a plus sign is a space and a percent sign with two
hexadecimal digits is a byte.  Bytes are read as UTF-8, each run of ASCII by itself, and what is not
UTF-8 becomes U+FFFD.  Names without a value do not count.
-/

namespace EventRoster.StoreUrl

/-- The text of some characters, with the bytes before them that still wait to be read. -/
def unescapeAfter (pending : List UInt8) : List Char → List Char
  | [] => Text.Utf8.decodeReplacing pending.reverse
  | '%' :: a :: b :: rest =>
    match Text.hexValue? a, Text.hexValue? b with
    | some high, some low =>
      unescapeAfter (UInt8.ofNat (high * 16 + low) :: pending) rest
    | _, _ => unescapeAfter (UInt8.ofNat 37 :: pending) (a :: b :: rest)
  | c :: rest =>
    if c.toNat < 128 then unescapeAfter (UInt8.ofNat c.toNat :: pending) rest
    else Text.Utf8.decodeReplacing pending.reverse ++ c :: unescapeAfter [] rest

/-- The text of some characters in which bytes are written in hexadecimal. -/
def unescape (s : List Char) : List Char :=
  unescapeAfter [] s

/-- The text of a name or a value in a query. -/
def unescapeQuery (s : List Char) : List Char :=
  unescape (s.map fun c => if c = '+' then ' ' else c)

/-- The name and the value in a piece of a query, unless the value is missing. -/
def queryPair? (piece : List Char) : Option (List Char × List Char) :=
  match Text.cut? '=' piece with
  | some (_, []) | none => none
  | some (name, value) => some (unescapeQuery name, unescapeQuery value)

/-- The names in a query with their values. -/
def queryPairs (query : List Char) : List (List Char × List Char) :=
  (Text.splitAt '&' query).filterMap queryPair?

/-- The last value of a name in a query. -/
def lastValue? (query : List Char) (name : String) : Option String :=
  (((queryPairs query).reverse.find? fun (n, _) => n == name.toList).map (·.2)).map String.ofList

end EventRoster.StoreUrl
