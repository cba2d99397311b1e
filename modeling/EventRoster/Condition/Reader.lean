import EventRoster.Condition.Basic
import EventRoster.Condition.Fault
import EventRoster.Json.Read
import EventRoster.Text.Blank

/-!
# Reading conditions

A condition is read by recursive descent.  Blanks may stand before every token and at the end.  Each
step is given what is left of the text and says how much of it is left afterwards, which is also how
a fault says where it is.

String literals are cut out by a scan of their own, which only looks for the closing quote, and the
piece is then read as JSON.

As in JSON there is no limit to the depth of nesting, where an interpreter would stop at its recursion limit.
-/

namespace EventRoster.Condition

open EventRoster.Text

/-- A reading step: a value with the rest of the text, or a fault. -/
abbrev Step (α : Type) (s : List CodePoint) := Except Fault (Taken α s)

/-- Whether a code point may stand between tokens. -/
def isBlank (c : CodePoint) : Bool :=
  c.is Text.isBlank

/-- The text without its leading blanks. -/
def skipBlank (s : List CodePoint) : List CodePoint :=
  s.dropWhile isBlank

@[simp] theorem skipBlank_nil : skipBlank [] = [] := rfl

theorem skipBlank_length_le (s : List CodePoint) : (skipBlank s).length ≤ s.length :=
  (List.dropWhile_sublist _).length_le

/-- A complaint about the first code point that is no blank. -/
def misreadAt (complaint : Complaint) (s : List CodePoint) : Fault :=
  .misread complaint (skipBlank s).length

/-- The first code point that is no blank, with what follows it. -/
def peek? (s : List CodePoint) : Option (Taken CodePoint s) :=
  match h : skipBlank s with
  | [] => none
  | c :: rest =>
    some ⟨c, rest, by
      have := skipBlank_length_le s
      rwa [h] at this⟩

/-- What follows a given character, if it comes next. -/
def next? (c : Char) (s : List CodePoint) : Option (Taken Unit s) :=
  match peek? s with
  | none => none
  | some first => if first.value = c then some ⟨(), first.rest, first.shorter⟩ else none

/-- A character that has to come next. -/
def expect (c : Char) (s : List CodePoint) : Step Unit s :=
  match next? c s with
  | some taken => .ok taken
  | none => .error (misreadAt (.expected c) s)

/-- Whether a code point may stand in a word. -/
def isLetter (c : CodePoint) : Bool :=
  c.is fun c => ('A' ≤ c && c ≤ 'Z') || ('a' ≤ c && c ≤ 'z')

/-- The word that comes next. -/
def takeWord? (s : List CodePoint) : Option (Taken (List CodePoint) s) :=
  match peek? s with
  | none => none
  | some first =>
    if isLetter first.value then
      some ⟨first.value :: first.rest.takeWhile isLetter, first.rest.dropWhile isLetter,
        Nat.lt_of_le_of_lt (List.dropWhile_sublist _).length_le first.shorter⟩
    else none

/-- What stands up to the quote that closes a string, and what follows the quote.  A backslash
takes the next code point with it, whatever that is. -/
def scanString : List CodePoint → Option (List CodePoint × List CodePoint)
  | [] => none
  | c :: rest =>
    if c = '"' then some ([], rest)
    else if c = '\\' then
      match rest with
      | [] => none
      | d :: rest => (scanString rest).map fun (inside, after) => (c :: d :: inside, after)
    else (scanString rest).map fun (inside, after) => (c :: inside, after)

theorem scanString_length {s inside after : List CodePoint} (h : scanString s = some (inside, after)) :
    after.length < s.length := by
  fun_induction scanString s generalizing inside after with
  | case1 => simp at h
  | case2 =>
    obtain ⟨-, rfl⟩ := Prod.mk.inj (Option.some.inj h)
    simp
  | case3 => simp at h
  | case4 d rest _ ih =>
    obtain ⟨⟨i, a⟩, hrest, heq⟩ := Option.map_eq_some_iff.1 h
    obtain ⟨-, rfl⟩ := Prod.mk.inj heq
    have := ih hrest
    simp only [List.length_cons]
    omega
  | case5 c rest _ _ ih =>
    obtain ⟨⟨i, a⟩, hrest, heq⟩ := Option.map_eq_some_iff.1 h
    obtain ⟨-, rfl⟩ := Prod.mk.inj heq
    have := ih hrest
    simp only [List.length_cons]
    omega

/-- A fault of a JSON literal as a fault of the condition around it, placed where the literal begins.
-/
def ofJsonFault (left : Nat) : Json.Fault → Fault
  | .malformed problem _ => .misread (.invalidLiteral problem) left
  | .longInteger digits => .longInteger digits

/-- The text that a piece of JSON spells, which has to be one string and nothing more. -/
def readPiece (piece : List CodePoint) : Except Json.Fault Text :=
  match Json.takeString .expectingValue piece with
  | .error e => .error e
  | .ok string =>
    if string.rest.isEmpty then .ok string.value
    else .error (.malformed .extraData string.rest.length)

/-- The string after its opening quote. -/
def takeString (s : List CodePoint) : Step Text s :=
  match h : scanString s with
  | none => .error (.misread .unterminatedString (s.length + 1))
  | some (inside, after) =>
    match readPiece (.char '"' :: (inside ++ [.char '"'])) with
    | .error e => .error (ofJsonFault (s.length + 1) e)
    | .ok text => .ok ⟨text, after, scanString_length h⟩

/-- The scalar of a number. -/
def ofNumber : Number.Value → Scalar
  | .int n => .int n
  | .float x => .float x

/-- The scalar that is spelled by a word. -/
def ofWord? (word : List CodePoint) : Option Scalar :=
  if word = CodePoint.ofString "true" then some (.bool true)
  else if word = CodePoint.ofString "false" then some (.bool false)
  else if word = CodePoint.ofString "null" then some .null
  else none

/-- The number or word at the very front of a text. -/
def takePlain (s : List CodePoint) : Step Scalar s :=
  match Number.takeNumber? s with
  | some number =>
    match number.value.value with
    | .error digits => .error (.longInteger digits)
    | .ok value => .ok (number.map fun _ => ofNumber value)
  | none =>
    match takeWord? s with
    | none => .error (misreadAt .expectedLiteral s)
    | some word =>
      match ofWord? word.value with
      | none => .error (misreadAt .expectedLiteral s)
      | some value => .ok (word.map fun _ => value)

/-- The literal that has to come next. -/
def takeLiteral (s : List CodePoint) : Step Scalar s :=
  match next? '"' s with
  | some opened =>
    match takeString opened.rest with
    | .error e => .error e
    | .ok string => .ok ((string.map .text).widen (Nat.le_of_lt opened.shorter))
  | none =>
    match takePlain (skipBlank s) with
    | .error e => .error e
    | .ok plain => .ok (plain.widen (skipBlank_length_le s))

/-- The name of an intrinsic, which has to come next. -/
def takeName (s : List CodePoint) : Step Text s :=
  match next? '"' s with
  | none => .error (misreadAt .expectedName s)
  | some opened =>
    match takeString opened.rest with
    | .error e => .error e
    | .ok string => .ok (string.widen (Nat.le_of_lt opened.shorter))

/-- The literals that follow the first one, up to and with the closing parenthesis. -/
def takeOthers (s : List CodePoint) : Step (List Scalar) s :=
  match next? ',' s with
  | none =>
    match expect ')' s with
    | .error e => .error e
    | .ok closed => .ok (closed.map fun _ => [])
  | some comma =>
    match takeLiteral comma.rest with
    | .error e => .error e
    | .ok literal =>
      have shorter := Nat.lt_trans literal.shorter comma.shorter
      match takeOthers literal.rest with
      | .error e => .error e
      | .ok others => .ok ((others.map (literal.value :: ·)).widen (Nat.le_of_lt shorter))
termination_by s.length

/-- The test of an intrinsic, after its opening parenthesis. -/
def takeIntrinsic (s : List CodePoint) : Step Condition s :=
  match takeName s with
  | .error e => .error e
  | .ok name =>
    match next? ':' name.rest with
    | some colon =>
      match takeLiteral colon.rest with
      | .error e => .error e
      | .ok first =>
        have shorter := Nat.lt_trans (Nat.lt_trans first.shorter colon.shorter) name.shorter
        match takeOthers first.rest with
        | .error e => .error e
        | .ok others =>
          .ok ((others.map (intrinsic name.value first.value)).widen (Nat.le_of_lt shorter))
    | none =>
      match expect ')' name.rest with
      | .error e => .error e
      | .ok closed =>
        match expect '=' closed.rest with
        | .error e => .error e
        | .ok equals =>
          have shorter := Nat.lt_trans (Nat.lt_trans equals.shorter closed.shorter) name.shorter
          match takeLiteral equals.rest with
          | .error e => .error e
          | .ok literal =>
            .ok ((literal.map (intrinsic name.value · [])).widen (Nat.le_of_lt shorter))

/-- A constant condition, after its opening parenthesis. -/
def takeConstant (value : Bool) (s : List CodePoint) : Step Condition s :=
  match expect ')' s with
  | .error e => .error e
  | .ok closed => .ok (closed.map fun _ => constant value)

mutual

/-- The condition that has to come next. -/
def takeCondition (s : List CodePoint) : Step Condition s :=
  match takeWord? s with
  | none => .error (misreadAt .expectedCondition s)
  | some word =>
    match expect '(' word.rest with
    | .error e => .error e
    | .ok opened =>
      have shorter := Nat.lt_trans opened.shorter word.shorter
      if word.value = CodePoint.ofString "alwaysTrue" then
        (takeConstant true opened.rest).map (·.widen (Nat.le_of_lt shorter))
      else if word.value = CodePoint.ofString "alwaysFalse" then
        (takeConstant false opened.rest).map (·.widen (Nat.le_of_lt shorter))
      else if word.value = CodePoint.ofString "not" then
        match takeCondition opened.rest with
        | .error e => .error e
        | .ok inner =>
          match expect ')' inner.rest with
          | .error e => .error e
          | .ok closed =>
            .ok ⟨not inner.value, closed.rest,
              Nat.lt_trans (Nat.lt_trans closed.shorter inner.shorter) shorter⟩
      else if word.value = CodePoint.ofString "and" then
        match takeParts opened.rest with
        | .error e => .error e
        | .ok parts => .ok ((parts.map all).widen (Nat.le_of_lt shorter))
      else if word.value = CodePoint.ofString "or" then
        match takeParts opened.rest with
        | .error e => .error e
        | .ok parts => .ok ((parts.map any).widen (Nat.le_of_lt shorter))
      else if word.value = CodePoint.ofString "intrinsic" then
        (takeIntrinsic opened.rest).map (·.widen (Nat.le_of_lt shorter))
      else .error (misreadAt (.unknownCondition (.ofList word.value)) s)
termination_by (s.length, 0)

/-- The parts of a connective, after its opening parenthesis. -/
def takeParts (s : List CodePoint) : Step (List Condition) s :=
  match next? ')' s with
  | some closed => .ok (closed.map fun _ => [])
  | none => takeSeveral s
termination_by (s.length, 2)

/-- The parts of a connective that has some, from the first of them on. -/
def takeSeveral (s : List CodePoint) : Step (List Condition) s :=
  match takeCondition s with
  | .error e => .error e
  | .ok part =>
    match next? ',' part.rest with
    | some comma =>
      have shorter := Nat.lt_trans comma.shorter part.shorter
      match takeSeveral comma.rest with
      | .error e => .error e
      | .ok parts => .ok ((parts.map (part.value :: ·)).widen (Nat.le_of_lt shorter))
    | none =>
      match expect ')' part.rest with
      | .error e => .error e
      | .ok closed => .ok ⟨[part.value], closed.rest, Nat.lt_trans closed.shorter part.shorter⟩
termination_by (s.length, 1)

end

/-- The condition that some code points spell. -/
def read (s : List CodePoint) : Except Fault Condition :=
  match takeCondition s with
  | .error e => .error e
  | .ok condition =>
    match peek? condition.rest with
    | none => .ok condition.value
    | some _ => .error (misreadAt .trailingInput condition.rest)

/-- The condition that a text spells. -/
def parse (text : Text) : Except Refusal Condition :=
  match read text.toList with
  | .ok condition => .ok condition
  | .error fault => .error (fault.refuse text)

/-- The condition that a value spells, which has to be text. -/
def ofJson : Json → Except Refusal Condition
  | .text s => parse s
  | v => .error (.misread ⟨v.spelled, .notText, 0⟩)

end EventRoster.Condition
