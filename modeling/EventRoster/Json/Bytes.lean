import EventRoster.Text.Utf8

/-!
# JSON in bytes

JSON that arrives as bytes is decoded as UTF-8, UTF-16 or UTF-32.  A byte order mark decides which,
and is dropped; without one the zero bytes among the first four do, since JSON begins with ASCII.
Surrogates are let through in all of them.
-/

namespace EventRoster.Json.Bytes

/-- The order of the bytes of a code unit. -/
inductive Endian
  | big
  | little
deriving DecidableEq, Repr

/-- An encoding of text. -/
inductive Encoding
  | utf8
  | utf16 (order : Endian)
  | utf32 (order : Endian)
deriving DecidableEq, Repr

/-- The encoding of some bytes, and the bytes without their mark. -/
def detect (bytes : List UInt8) : Encoding × List UInt8 :=
  match bytes with
  | 0x00 :: 0x00 :: 0xfe :: 0xff :: rest => (.utf32 .big, rest)
  | 0xff :: 0xfe :: 0x00 :: 0x00 :: rest => (.utf32 .little, rest)
  | 0xfe :: 0xff :: rest => (.utf16 .big, rest)
  | 0xff :: 0xfe :: rest => (.utf16 .little, rest)
  | 0xef :: 0xbb :: 0xbf :: rest => (.utf8, rest)
  | a :: b :: c :: d :: _ =>
    if a = 0 then (if b = 0 then .utf32 .big else .utf16 .big, bytes)
    else if b = 0 then (if c = 0 ∧ d = 0 then .utf32 .little else .utf16 .little, bytes)
    else (.utf8, bytes)
  | [a, b] =>
    if a = 0 then (.utf16 .big, bytes) else if b = 0 then (.utf16 .little, bytes) else (.utf8, bytes)
  | _ => (.utf8, bytes)

/-- The sixteen bits in two bytes. -/
def unit16 (order : Endian) (a b : UInt8) : Nat :=
  match order with
  | .big => a.toNat * 256 + b.toNat
  | .little => b.toNat * 256 + a.toNat

/-- The thirty-two bits in four bytes. -/
def unit32 (order : Endian) (a b c d : UInt8) : Nat :=
  match order with
  | .big => unit16 .big a b * 65536 + unit16 .big c d
  | .little => unit16 .little c d * 65536 + unit16 .little a b

/-- The sixteen-bit code units of some bytes, if they come in pairs. -/
def units16? (order : Endian) : List UInt8 → Option (List Nat)
  | [] => some []
  | [_] => none
  | a :: b :: rest => (units16? order rest).map (unit16 order a b :: ·)

/-- The code points of UTF-16 code units. -/
def ofUnits16 (units : List Nat) : List CodePoint :=
  CodePoint.joined (units.map .ofNat)

/-- The code points of UTF-32, if the bytes come in fours and stay within Unicode. -/
def ofUtf32? (order : Endian) : List UInt8 → Option (List CodePoint)
  | [] => some []
  | a :: b :: c :: d :: rest =>
    let n := unit32 order a b c d
    if n < 0x110000 then (ofUtf32? order rest).map (.ofNat n :: ·) else none
  | _ => none

/-- The text of some bytes in a given encoding. -/
def decodeAs? : Encoding → List UInt8 → Option (List CodePoint)
  | .utf8, bytes => EventRoster.Text.Utf8.decode? bytes
  | .utf16 order, bytes => (units16? order bytes).map ofUnits16
  | .utf32 order, bytes => ofUtf32? order bytes

/-- The text of some bytes, in the encoding that they show. -/
def decode? (bytes : List UInt8) : Option (List CodePoint) :=
  let (encoding, rest) := detect bytes
  decodeAs? encoding rest

end EventRoster.Json.Bytes
