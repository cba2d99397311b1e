import EventRoster.Json.Text
import EventRoster.Json.Value
import EventRoster.Number.Literal
import EventRoster.Text.Cut

/-!
# Reading JSON

A text is read as one JSON value with blanks around it.  The grammar is the standard one, with the
three words `NaN`, `Infinity` and `-Infinity` as further numbers.  Reading goes from left to right
and stops at the first fault, an integer with too many digits included, so a fault never hides an
earlier one.

Values may be nested to any depth.  An interpreter that recurses into them gives up at its recursion limit;
there is no such limit here.
-/

namespace EventRoster.Json

open EventRoster.Text

/-- Whether a code point may stand between the tokens of JSON. -/
def isSpace (c : CodePoint) : Bool :=
  c = ' ' || c = '\t' || c = '\n' || c = '\r'

/-- The text without its leading spaces. -/
def skipSpace (s : List CodePoint) : List CodePoint :=
  s.dropWhile isSpace

theorem skipSpace_length_le (s : List CodePoint) : (skipSpace s).length ≤ s.length :=
  (List.dropWhile_sublist _).length_le

/-- The values that are spelled by a word, with their words. -/
def words : List (List CodePoint × Json) :=
  [("null", .null), ("true", .bool true), ("false", .bool false),
    ("NaN", .float .nan), ("Infinity", .float (.infinite false)),
    ("-Infinity", .float (.infinite true))]

/-- The value of the word at the front of a text. -/
def takeWord? (s : List CodePoint) : Option (Json × List CodePoint) :=
  words.findSome? fun (word, value) => (after? word s).map fun rest => (value, rest)

theorem after?_length {p s rest : List CodePoint} (hp : p ≠ []) (h : after? p s = some rest) :
    rest.length < s.length := by
  rw [after?_eq_some_iff] at h
  subst h
  have := List.length_pos_iff.2 hp
  simp only [List.length_append]
  omega

theorem takeWord?_length {s rest : List CodePoint} {v : Json} (h : takeWord? s = some (v, rest)) :
    rest.length < s.length := by
  obtain ⟨⟨word, value⟩, hmem, hword⟩ := List.exists_of_findSome?_eq_some h
  obtain ⟨r, hr, heq⟩ := Option.map_eq_some_iff.1 hword
  obtain ⟨-, rfl⟩ := Prod.mk.inj heq
  refine after?_length ?_ hr
  rintro rfl
  simp [words, CodePoint.ofString] at hmem

/-- The JSON value of a number. -/
def ofNumber : Number.Value → Json
  | .int n => .int n
  | .float x => .float x

/-- A word or a number. -/
def takeScalar (s : List CodePoint) : Except Fault (Taken Json s) :=
  match h : takeWord? s with
  | some (value, rest) => .ok ⟨value, rest, takeWord?_length h⟩
  | none =>
    match Number.takeNumber? s with
    | none => .error (.malformed .expectingValue s.length)
    | some taken =>
      match taken.value.value with
      | .error digits => .error (.longInteger digits)
      | .ok number => .ok (taken.map fun _ => ofNumber number)

/-- The string that a text begins with, or the problem that it begins with none. -/
def takeString (missing : Problem) (s : List CodePoint) : Except Fault (Taken Text s) :=
  match s with
  | [] => .error (.malformed missing 0)
  | c :: rest =>
    if c = '"' then
      match Text.takeBody (rest.length + 1) rest with
      | .error e => .error e
      | .ok body => .ok ((body.map Text.ofList).widen (Nat.le_succ _))
    else .error (.malformed missing (rest.length + 1))

/-- The first code point after spaces, with what follows it. -/
def nextChar? (s : List CodePoint) : Option (Taken CodePoint s) :=
  match h : skipSpace s with
  | [] => none
  | c :: rest =>
    some ⟨c, rest, by
      have := skipSpace_length_le s
      rwa [h] at this⟩

/-- The problem that what stands after spaces is not what has to stand there. -/
def misplaced (problem : Problem) (s : List CodePoint) : Fault :=
  .malformed problem (skipSpace s).length

/-- The colon after a name, with the spaces around it. -/
def takeColon (s : List CodePoint) : Except Fault (Taken Unit s) :=
  match nextChar? s with
  | none => .error (misplaced .expectingColon s)
  | some next =>
    if next.value = ':' then
      .ok ⟨(), skipSpace next.rest,
        Nat.lt_of_le_of_lt (skipSpace_length_le next.rest) next.shorter⟩
    else .error (misplaced .expectingColon s)

/-- What follows an item: the closing character, which gives `true`, or a comma, which gives
`false`. -/
def takeSeparator (close : CodePoint) (s : List CodePoint) : Except Fault (Taken Bool s) :=
  match nextChar? s with
  | none => .error (misplaced .expectingComma s)
  | some next =>
    if next.value = close then .ok ⟨true, next.rest, next.shorter⟩
    else if next.value = ',' then
      .ok ⟨false, skipSpace next.rest,
        Nat.lt_of_le_of_lt (skipSpace_length_le next.rest) next.shorter⟩
    else .error (misplaced .expectingComma s)

/-- What is left after the closing character, if an array or object closes at once. -/
def takeEmpty? (close : CodePoint) (s : List CodePoint) : Option (Taken Unit s) :=
  match nextChar? s with
  | none => none
  | some next => if next.value = close then some ⟨(), next.rest, next.shorter⟩ else none

mutual

/-- The value at the very front of a text. -/
def takeValue (s : List CodePoint) : Except Fault (Taken Json s) :=
  match s with
  | [] => .error (.malformed .expectingValue 0)
  | c :: rest =>
    have inside : (skipSpace rest).length < (c :: rest).length :=
      Nat.lt_succ_of_le (skipSpace_length_le rest)
    if c = '"' then
      match takeString .expectingValue (c :: rest) with
      | .error e => .error e
      | .ok string => .ok (string.map .text)
    else if c = '[' then
      match takeEmpty? ']' rest with
      | some closed => .ok ((closed.map fun _ => .array []).widen (by simp))
      | none =>
        match takeItems (skipSpace rest) with
        | .error e => .error e
        | .ok items => .ok ((items.map Json.array).widen (Nat.le_of_lt inside))
    else if c = '{' then
      match takeEmpty? '}' rest with
      | some closed => .ok ((closed.map fun _ => .object []).widen (by simp))
      | none =>
        match takeMembers [] (skipSpace rest) with
        | .error e => .error e
        | .ok members => .ok ((members.map Json.object).widen (Nat.le_of_lt inside))
    else takeScalar (c :: rest)
termination_by (s.length, 1)

/-- The items of an array from the first of them on, up to and with the closing bracket. -/
def takeItems (s : List CodePoint) : Except Fault (Taken (List Json) s) :=
  match takeValue s with
  | .error e => .error e
  | .ok item =>
    match takeSeparator ']' item.rest with
    | .error e => .error e
    | .ok next =>
      have shorter := Nat.lt_trans next.shorter item.shorter
      if next.value then .ok ⟨[item.value], next.rest, shorter⟩
      else
        match takeItems next.rest with
        | .error e => .error e
        | .ok items => .ok ((items.map (item.value :: ·)).widen (Nat.le_of_lt shorter))
termination_by (s.length, 2)

/-- The members of an object from the first name on, up to and with the closing brace, added to those
bound before. -/
def takeMembers (bound : Members) (s : List CodePoint) : Except Fault (Taken Members s) :=
  match takeString .expectingName s with
  | .error e => .error e
  | .ok name =>
    match takeColon name.rest with
    | .error e => .error e
    | .ok colon =>
      have afterColon := Nat.lt_trans colon.shorter name.shorter
      match takeValue colon.rest with
      | .error e => .error e
      | .ok value =>
        match takeSeparator '}' value.rest with
        | .error e => .error e
        | .ok next =>
          have shorter := Nat.lt_trans (Nat.lt_trans next.shorter value.shorter) afterColon
          if next.value then .ok ⟨bind bound name.value value.value, next.rest, shorter⟩
          else
            match takeMembers (bind bound name.value value.value) next.rest with
            | .error e => .error e
            | .ok members => .ok (members.widen (Nat.le_of_lt shorter))
termination_by (s.length, 2)

end

/-- The JSON value that the code points of decoded bytes spell. -/
def read (s : List CodePoint) : Except Fault Json :=
  match takeValue (skipSpace s) with
  | .error e => .error e
  | .ok value =>
    match skipSpace value.rest with
    | [] => .ok value.value
    | extra => .error (.malformed .extraData extra.length)

/-- The JSON value that a text spells.  A text has no use for a byte order mark, so one at its front
is a fault, while decoding bytes drops theirs. -/
def readText (s : List CodePoint) : Except Fault Json :=
  match s with
  | .char '\ufeff' :: _ => .error (.malformed .byteOrderMark s.length)
  | _ => read s

end EventRoster.Json
