/-!
# What a reading step takes

A reader goes over a text from left to right and is given what is left of it.  A step that succeeds
takes at least one character, and its result says so, which is what lets a reader call itself on
the rest without counting anything.
-/

namespace EventRoster.Text

/-- A value read from the front of a text, with the rest, which is shorter. -/
structure Taken (α : Type) {κ : Type} (s : List κ) where
  value : α
  rest : List κ
  shorter : rest.length < s.length

namespace Taken

variable {α β κ : Type} {s t : List κ}

/-- The value and the rest, without the fact that relates them to the text. -/
def toPair (p : Taken α s) : α × List κ :=
  (p.value, p.rest)

/-- The same rest with another value. -/
def map (f : α → β) (p : Taken α s) : Taken β s :=
  ⟨f p.value, p.rest, p.shorter⟩

/-- What was taken from a shorter text is taken from the longer one. -/
def widen (p : Taken α s) (h : s.length ≤ t.length) : Taken α t :=
  ⟨p.value, p.rest, Nat.lt_of_lt_of_le p.shorter h⟩

@[simp] theorem toPair_mk (a : α) (r : List κ) (h : r.length < s.length) :
    (Taken.mk a r h).toPair = (a, r) := rfl

@[simp] theorem toPair_map (f : α → β) (p : Taken α s) :
    (p.map f).toPair = (f p.value, p.rest) := rfl

@[simp] theorem toPair_widen (p : Taken α s) (h : s.length ≤ t.length) :
    (p.widen h).toPair = p.toPair := rfl

end Taken

end EventRoster.Text
