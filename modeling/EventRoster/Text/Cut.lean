/-!
# Cutting text at a character

Composite texts are taken apart at single characters: at the first one, at the last one, or at all
of them.  A cut gives what stands before and what stands after, without the character itself.
-/

namespace EventRoster.Text

/-- What stands before and after the first occurrence of a character. -/
def cut? (c : Char) (s : List Char) : Option (List Char × List Char) :=
  match s with
  | [] => none
  | d :: rest => if d = c then some ([], rest) else (cut? c rest).map fun (a, b) => (d :: a, b)

/-- What stands before and after the last occurrence of a character. -/
def cutLast? (c : Char) (s : List Char) : Option (List Char × List Char) :=
  match s with
  | [] => none
  | d :: rest =>
    match cutLast? c rest with
    | some (a, b) => some (d :: a, b)
    | none => if d = c then some ([], rest) else none

/-- The pieces of a text between the occurrences of a character: always one more than those. -/
def splitAt (c : Char) : List Char → List (List Char)
  | [] => [[]]
  | d :: rest =>
    if d = c then [] :: splitAt c rest
    else
      match splitAt c rest with
      | [] => [[d]]
      | piece :: pieces => (d :: piece) :: pieces

/-- What stands after a run of characters that the text begins with. -/
def after? {α : Type} [DecidableEq α] : List α → List α → Option (List α)
  | [], s => some s
  | _ :: _, [] => none
  | c :: cs, d :: s => if c = d then after? cs s else none

theorem cut?_eq_some {c : Char} {s a b : List Char} (h : cut? c s = some (a, b)) :
    s = a ++ c :: b ∧ c ∉ a := by
  induction s generalizing a with
  | nil => simp [cut?] at h
  | cons d rest ih =>
    rw [cut?] at h
    split at h
    · next hd =>
      obtain ⟨rfl, rfl⟩ := Prod.mk.inj (Option.some.inj h)
      simp [hd]
    · next hd =>
      obtain ⟨⟨a', b'⟩, hrest, heq⟩ := Option.map_eq_some_iff.1 h
      obtain ⟨rfl, rfl⟩ := Prod.mk.inj heq
      obtain ⟨rfl, hmem⟩ := ih hrest
      refine ⟨by simp, ?_⟩
      simp only [List.mem_cons, not_or]
      exact ⟨fun e => hd e.symm, hmem⟩

theorem cut?_eq_none {c : Char} {s : List Char} : cut? c s = none ↔ c ∉ s := by
  induction s with
  | nil => simp [cut?]
  | cons d rest ih =>
    rw [cut?]
    split
    · next hd => simp [hd]
    · next hd => simp [ih, Ne.symm (a := d) (b := c) hd]

theorem cutLast?_eq_none {c : Char} {s : List Char} : cutLast? c s = none ↔ c ∉ s := by
  induction s with
  | nil => simp [cutLast?]
  | cons d rest ih =>
    rw [cutLast?]
    split
    · next h => simp [← ih, h]
    · next h =>
      split
      · next hd => simp [hd]
      · next hd => simp [ih.1 h, Ne.symm (a := d) (b := c) hd]

theorem cutLast?_eq_some {c : Char} {s a b : List Char} (h : cutLast? c s = some (a, b)) :
    s = a ++ c :: b ∧ c ∉ b := by
  induction s generalizing a with
  | nil => simp [cutLast?] at h
  | cons d rest ih =>
    rw [cutLast?] at h
    split at h
    · next a' b' hrest =>
      obtain ⟨rfl, rfl⟩ := Prod.mk.inj (Option.some.inj h)
      obtain ⟨rfl, hmem⟩ := ih hrest
      exact ⟨by simp, hmem⟩
    · next hnone =>
      split at h
      · next hd =>
        obtain ⟨rfl, rfl⟩ := Prod.mk.inj (Option.some.inj h)
        exact ⟨by simp [hd], cutLast?_eq_none.1 hnone⟩
      · simp at h

theorem after?_eq_some_iff {α : Type} [DecidableEq α] {p s rest : List α} :
    after? p s = some rest ↔ s = p ++ rest := by
  induction p generalizing s with
  | nil => simp [after?]
  | cons c cs ih =>
    cases s with
    | nil => simp [after?]
    | cons d s =>
      rw [after?]
      split
      · next h => simp [h, ih]
      · next h => simp [Ne.symm h]

end EventRoster.Text
