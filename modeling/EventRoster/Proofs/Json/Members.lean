import EventRoster.Json.Write
import EventRoster.Proofs.Json.Grammar
import EventRoster.Proofs.Json.Strings

/-!
# Objects of plain values are read back as they are written

A value in writing denotes what it is read back as.  For null and for integers that are short enough
that is the value itself, and for text it is the text as its string is read back.  An object is read
back as what its members are: a name that occurs more than once is bound to its last value, which is what
`merge` says.
-/

namespace EventRoster.Json

open EventRoster.Text

/-! ## Values -/

section Values

variable (charset : Text.Charset)

/-- A string in writing is the text that it is read back as. -/
theorem denotes_text (s : Text) :
    Denotes ((text s).chars charset) (.text (.ofList (charset.readBack s.toList))) := by
  rw [chars]
  exact .text (Text.spells_encode charset s.toList)

/-- Null in writing is null. -/
theorem denotes_null : Denotes (null.chars charset) null := by
  rw [chars]
  exact .word List.mem_cons_self

/-- An integer in writing is that integer, if it is short enough. -/
theorem denotes_int {n : Int} (h : (Number.natChars n.natAbs).length ≤ Number.digitLimit) :
    Denotes ((int n).chars charset) (int n) := by
  have spelled := Number.Literal.isSpelledBy_chars (Number.wellFormed_ofInt n)
  rw [chars, ← Number.chars_ofInt]
  exact .number spelled.isWrittenAs (Number.value_ofInt h)

end Values

/-! ## Members -/

/-- A member in writing is read back as another. -/
def ReadsAs (charset : Text.Charset) (member read : Text × Json) : Prop :=
  read.1 = .ofList (charset.readBack member.1.toList) ∧ Denotes (member.2.chars charset) read.2

section Members

variable {charset : Text.Charset} {members read : Members}

/-- A name in writing is the name that it is read back as. -/
theorem isName_literal (charset : Text.Charset) (name : Text) :
    IsName (Text.literal charset name.toList) (.ofList (charset.readBack name.toList)) :=
  .mk .nil (Text.spells_encode charset name.toList) .nil

/-- The members of an object in writing are what they are read back as. -/
theorem written_memberChars (nonempty : members ≠ [])
    (h : List.Forall₂ (ReadsAs charset) members read) :
    Written (joined [.char ','] (memberChars charset members)) read := by
  induction h with
  | nil => exact absurd rfl nonempty
  | @cons member member' members read reads others ih =>
    obtain ⟨name, v⟩ := member
    obtain ⟨name', w⟩ := member'
    obtain ⟨rfl, denotes⟩ := reads
    have named := isName_literal charset name
    have value : Padded (v.chars charset) w := by
      have padded := Padded.mk .nil denotes .nil
      rwa [List.nil_append, List.append_nil] at padded
    cases others with
    | nil => exact .last named value
    | @cons next _ members _ reads others =>
      have more := Written.more named value (ih (List.cons_ne_nil _ _))
      obtain ⟨next, u⟩ := next
      show Written (Text.literal charset name.toList ++ .char ':' :: v.chars charset ++ [.char ','] ++
        joined [.char ','] (memberChars charset ((next, u) :: members))) _
      simpa only [List.append_assoc, List.cons_append, List.nil_append] using more

/-- **An object is read back** as what its members are read back as. -/
theorem read_object (nonempty : members ≠ []) (h : List.Forall₂ (ReadsAs charset) members read) :
    readText ((object members).chars charset) = .ok (.object (merge [] read)) := by
  have padded := Padded.mk .nil (Denotes.object (written_memberChars nonempty h)) .nil
  rw [List.nil_append, List.append_nil] at padded
  rw [readText_eq_ok_iff, chars]
  exact padded

end Members

end EventRoster.Json
