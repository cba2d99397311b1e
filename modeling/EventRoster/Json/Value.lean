import EventRoster.Number.Binary64
import EventRoster.Text.CodePoint

/-!
# JSON values

The values of JSON, with integers and binary64 numbers apart, since the two are told apart wherever a
value is shown or compared.  An object holds each name once, in the order in which the names were
first bound, with the value bound last.
-/

namespace EventRoster

/-- A JSON value. -/
inductive Json
  | null
  | bool (b : Bool)
  | int (n : Int)
  | float (x : Number.Binary64)
  | text (s : Text)
  | array (items : List Json)
  | object (members : List (Text × Json))
deriving Inhabited

namespace Json

/-- A text without surrogates as a JSON value. -/
def ofString (s : String) : Json :=
  text s

/-- The members of an object. -/
abbrev Members := List (Text × Json)

/-- Binds a name.  A name that is bound already keeps its place. -/
def bind (members : Members) (name : Text) (value : Json) : Members :=
  match members with
  | [] => [(name, value)]
  | (n, v) :: rest => if n = name then (n, value) :: rest else (n, v) :: bind rest name value

/-- The value bound to a name. -/
def get? (members : Members) (name : Text) : Option Json :=
  match members with
  | [] => none
  | (n, v) :: rest => if n = name then some v else get? rest name

/-- The members of the first object overridden and extended by those of the second. -/
def merge (base extension : Members) : Members :=
  extension.foldl (fun acc (n, v) => bind acc n v) base

/-- The members without those of some names. -/
def without (members : Members) (names : List Text) : Members :=
  members.filter fun (n, _) => !names.contains n

@[simp] theorem get?_nil (name : Text) : get? [] name = none := rfl

theorem get?_bind (members : Members) (name other : Text) (value : Json) :
    get? (bind members name value) other =
      if name = other then some value else get? members other := by
  induction members with
  | nil => simp [bind, get?]
  | cons head rest ih =>
    obtain ⟨n, v⟩ := head
    by_cases hn : n = name
    · subst hn
      by_cases ho : n = other <;> simp [bind, get?, ho]
    · by_cases ho : n = other
      · subst ho
        simp [bind, get?, hn, Ne.symm hn]
      · simp [bind, get?, hn, ho, ih]

end Json

end EventRoster
