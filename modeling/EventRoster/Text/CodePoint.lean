/-!
# Code points

The texts of JSON and of conditions are rows of code points.  Most code points are characters.  The
others are the surrogates: a high one directly before a low one is how UTF-16, and the escapes of JSON,
spell a character beyond U+FFFF, and by themselves they stand for nothing.  A text may hold them all the
same, in any order.

`joined` puts the characters in place of the pairs that spell them, from left to right.
-/

namespace EventRoster

/-- A code point: a character, or one of the surrogates from U+D800 on. -/
inductive CodePoint
  | char (c : Char)
  | surrogate (n : Fin 0x800)
deriving DecidableEq, Repr

namespace CodePoint

instance : Coe Char CodePoint := ⟨char⟩

/-- The number of a code point. -/
def toNat : CodePoint → Nat
  | char c => c.toNat
  | surrogate n => 0xd800 + n

instance : Hashable CodePoint := ⟨fun c => hash c.toNat⟩

/-- The code point of a number that is one. -/
def ofNat (n : Nat) : CodePoint :=
  if h : 0xd800 ≤ n ∧ n < 0xe000 then surrogate ⟨n - 0xd800, by omega⟩ else char (Char.ofNat n)

/-- Whether a code point is a character of a class. -/
def is (p : Char → Bool) : CodePoint → Bool
  | char c => p c
  | surrogate _ => false

/-- Whether a code point is the first of a surrogate pair. -/
def isHigh : CodePoint → Bool
  | char _ => false
  | surrogate n => n < 0x400

/-- Whether a code point is the second of a surrogate pair. -/
def isLow : CodePoint → Bool
  | char _ => false
  | surrogate n => 0x400 ≤ n

/-- The character that a surrogate pair spells. -/
def pair (high low : CodePoint) : CodePoint :=
  char (Char.ofNat (0x10000 + (high.toNat - 0xd800) * 0x400 + (low.toNat - 0xdc00)))

/-- The characters of a text without surrogates, as code points. -/
def ofChars (s : List Char) : List CodePoint :=
  s.map char

/-- The code points of a text without surrogates. -/
def ofString (s : String) : List CodePoint :=
  ofChars s.toList

instance : Coe String (List CodePoint) := ⟨ofString⟩

/-- The characters in front of the first surrogate of a text, and what stands from there on. -/
def spanChars : List CodePoint → List Char × List CodePoint
  | char c :: rest => (c :: (spanChars rest).1, (spanChars rest).2)
  | s => ([], s)

/-- A text with the characters in place of the surrogate pairs that spell them. -/
def joined : List CodePoint → List CodePoint
  | [] => []
  | [c] => [c]
  | c :: d :: rest =>
    if c.isHigh && d.isLow then pair c d :: joined rest else c :: joined (d :: rest)

end CodePoint

namespace CodePoint

@[simp] theorem toNat_char (c : Char) : (char c).toNat = c.toNat := rfl

/-- The numbers of characters lie on either side of the surrogates. -/
theorem toNat_char_lt_or_gt (c : Char) : c.toNat < 0xd800 ∨ 0xdfff < c.toNat ∧ c.toNat < 0x110000 :=
  c.valid

@[simp] theorem ofChars_nil : ofChars [] = [] := rfl

@[simp] theorem ofChars_cons (c : Char) (s : List Char) : ofChars (c :: s) = char c :: ofChars s := rfl

@[simp] theorem ofChars_append (s t : List Char) : ofChars (s ++ t) = ofChars s ++ ofChars t :=
  List.map_append

@[simp] theorem length_ofChars (s : List Char) : (ofChars s).length = s.length :=
  List.length_map _

theorem ofChars_injective {s t : List Char} (h : ofChars s = ofChars t) : s = t :=
  (List.map_inj_right fun _ _ => char.inj).1 h

@[simp] theorem ofString_inj {s t : String} : ofString s = ofString t ↔ s = t :=
  ⟨fun h => String.toList_injective (ofChars_injective h), congrArg ofString⟩

theorem ofChars_spanChars_append (s : List CodePoint) :
    ofChars (spanChars s).1 ++ (spanChars s).2 = s := by
  fun_induction spanChars s with
  | case1 c rest ih => rw [ofChars_cons, List.cons_append, ih]
  | case2 => rfl

theorem spanChars_ofChars_append (s : List Char) (t : List CodePoint) :
    spanChars (ofChars s ++ t) = (s ++ (spanChars t).1, (spanChars t).2) := by
  induction s with
  | nil => rfl
  | cons c s ih => rw [ofChars_cons, List.cons_append, spanChars, ih, List.cons_append]

end CodePoint

/-- A text as a row of code points. -/
structure Text where
  ofList ::
  toList : List CodePoint
deriving DecidableEq, Hashable, Repr, Inhabited

namespace Text

instance : Coe String Text := ⟨fun s => ofList (CodePoint.ofString s)⟩

/-- The text of one character. -/
def singleton (c : Char) : Text :=
  ofList [.char c]

/-- The number of code points of a text. -/
def length (s : Text) : Nat :=
  s.toList.length

/-- Whether a text comes before another one in the order of code points. -/
def isBefore (s t : Text) : Bool :=
  decide (s.toList.map CodePoint.toNat < t.toList.map CodePoint.toNat)

/-- A text with the characters in place of the surrogate pairs that spell them. -/
def joined (s : Text) : Text :=
  ofList (CodePoint.joined s.toList)

@[simp] theorem toList_ofList (s : List CodePoint) : (ofList s).toList = s := rfl

@[simp] theorem ofList_toList (s : Text) : ofList s.toList = s := rfl

@[simp] theorem toList_singleton (c : Char) : (singleton c).toList = [.char c] := rfl

theorem toList_injective {s t : Text} (h : s.toList = t.toList) : s = t :=
  congrArg ofList h

end Text

end EventRoster
