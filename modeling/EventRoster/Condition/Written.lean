import EventRoster.Condition.Basic

/-!
# The written form of a condition

Each condition has one written form, without blanks: `alwaysTrue()`, `not(c)`, `and(c,d)`, `or()`,
`intrinsic("name")=literal` for a test against one value and `intrinsic("name":literal,literal)` for
a test against several.  It is what the registry stores.
-/

namespace EventRoster.Condition

/-- The name of an intrinsic as it is written. -/
def nameChars (name : Text) : List CodePoint :=
  Json.Text.literal .unicode name.toList

/-- The test of an intrinsic in writing. -/
def intrinsicChars (name : Text) (first : Scalar) (others : List Scalar) : List CodePoint :=
  CodePoint.ofString "intrinsic(" ++ nameChars name ++
    match others with
    | [] => CodePoint.ofString ")=" ++ first.chars
    | _ => .char ':' :: (Json.joined [.char ','] ((first :: others).map Scalar.chars) ++ [.char ')'])

mutual

/-- A condition in writing. -/
def chars : Condition → List CodePoint
  | constant true => "alwaysTrue()"
  | constant false => "alwaysFalse()"
  | not inner => CodePoint.ofString "not(" ++ chars inner ++ [.char ')']
  | all parts => CodePoint.ofString "and(" ++ listChars parts ++ [.char ')']
  | any parts => CodePoint.ofString "or(" ++ listChars parts ++ [.char ')']
  | intrinsic name first others => intrinsicChars name first others

/-- Conditions in writing, with commas between them. -/
def listChars : List Condition → List CodePoint
  | [] => []
  | part :: parts => chars part ++ restChars parts

/-- Conditions in writing, with a comma before each of them. -/
def restChars : List Condition → List CodePoint
  | [] => []
  | part :: parts => .char ',' :: (chars part ++ restChars parts)

end

/-- A condition in writing. -/
def text (c : Condition) : Text :=
  .ofList c.chars

/-- The number of digits of an integer. -/
def digitCount (n : Int) : Nat :=
  (Number.natChars n.natAbs).length

end EventRoster.Condition
