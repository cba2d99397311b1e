import EventRoster.Text.CodePoint

/-!
# UTF-8

Bytes are decoded one character at a time.  Where they are no character, what is wrong is the longest
run of bytes that could begin one, or a single byte; a reader may stop there or put U+FFFD in its
place and go on.
-/

namespace EventRoster.Text.Utf8

/-- What the front of a byte sequence is. -/
inductive Step (bytes : List UInt8)
  | char (c : Char) (rest : List UInt8) (shorter : rest.length < bytes.length)
  | broken (rest : List UInt8) (shorter : rest.length < bytes.length)

/-- Whether a byte continues a character. -/
def isContinuation (b : UInt8) : Bool :=
  0x80 ≤ b && b < 0xc0

/-- Whether a second byte may follow a first byte of a character of more than one byte. -/
def fits (first second : UInt8) : Bool :=
  isContinuation second &&
    (first != 0xe0 || 0xa0 ≤ second) && (first != 0xed || second < 0xa0) &&
    (first != 0xf0 || 0x90 ≤ second) && (first != 0xf4 || second < 0x90)

/-- The six bits that a continuation contributes. -/
def low (b : UInt8) : Nat :=
  b.toNat % 64

/-- The character or the broken run at the front of some bytes. -/
def step (b : UInt8) (rest : List UInt8) : Step (b :: rest) :=
  if b < 0x80 then .char (Char.ofNat b.toNat) rest (by simp)
  else if 0xc2 ≤ b && b < 0xe0 then
    match rest with
    | c :: rest =>
      if isContinuation c then
        .char (Char.ofNat (b.toNat % 32 * 64 + low c)) rest (by simp only [List.length_cons]; omega)
      else .broken (c :: rest) (by simp)
    | [] => .broken [] (by simp)
  else if 0xe0 ≤ b && b < 0xf0 then
    match rest with
    | c :: d :: rest =>
      if fits b c then
        if isContinuation d then
          .char (Char.ofNat (b.toNat % 16 * 4096 + low c * 64 + low d)) rest
            (by simp only [List.length_cons]; omega)
        else .broken (d :: rest) (by simp)
      else .broken (c :: d :: rest) (by simp)
    | [c] => if fits b c then .broken [] (by simp) else .broken [c] (by simp)
    | [] => .broken [] (by simp)
  else if 0xf0 ≤ b && b < 0xf5 then
    match rest with
    | c :: d :: e :: rest =>
      if fits b c then
        if isContinuation d then
          if isContinuation e then
            .char (Char.ofNat (b.toNat % 8 * 262144 + low c * 4096 + low d * 64 + low e)) rest
              (by simp only [List.length_cons]; omega)
          else .broken (e :: rest) (by simp)
        else .broken (d :: e :: rest) (by simp)
      else .broken (c :: d :: e :: rest) (by simp)
    | [c, d] =>
      if fits b c then
        if isContinuation d then .broken [] (by simp) else .broken [d] (by simp)
      else .broken [c, d] (by simp)
    | [c] => if fits b c then .broken [] (by simp) else .broken [c] (by simp)
    | [] => .broken [] (by simp)
  else .broken rest (by simp)

/-- The text of some bytes, with U+FFFD for each broken run. -/
def decodeReplacing (bytes : List UInt8) : List Char :=
  match bytes with
  | [] => []
  | b :: rest =>
    match step b rest with
    | .char c left _ => c :: decodeReplacing left
    | .broken left _ => '\ufffd' :: decodeReplacing left
termination_by bytes.length
decreasing_by all_goals assumption

/-- Whether three bytes are the form that a surrogate would have. -/
def isSurrogate (b c d : UInt8) : Bool :=
  b == 0xed && 0xa0 ≤ c && isContinuation c && isContinuation d

/-- The text of some bytes, unless they are broken.  The three bytes that a surrogate would have are let
through as that. -/
def decode? (bytes : List UInt8) : Option (List CodePoint) :=
  match bytes with
  | [] => some []
  | b :: rest =>
    match step b rest with
    | .char c left _ => (decode? left).map (.char c :: ·)
    | .broken .. =>
      match rest with
      | c :: d :: left =>
        if isSurrogate b c d then
          (decode? left).map (.ofNat (b.toNat % 16 * 4096 + low c * 64 + low d) :: ·)
        else none
      | _ => none
termination_by bytes.length
decreasing_by
  · assumption
  · simp only [List.length_cons]
    omega

/-- The UTF-8 bytes of a text. -/
def encode (s : List Char) : List UInt8 :=
  s.flatMap String.utf8EncodeChar

end EventRoster.Text.Utf8
