import EventRoster.Proofs.Text.Front
import EventRoster.Text.Blank
import EventRoster.Text.Cut

/-!
# Cutting what was put together

A text that was put together of pieces with a character between them comes apart into the same pieces,
if the character stands in none of them.  Every text is put together of its pieces in this way, so that
what is said about pieces is said about texts.

Trimming is known by what it leaves: `IsTrimmed` says what stands around it and that its ends stay.
-/

namespace EventRoster.Text

variable {c : Char} {a b s : List Char} {pieces : List (List Char)}

/-! ## At one place -/

/-- A text is cut at the first place where the character stands. -/
theorem cut?_append (absent : c ∉ a) (b : List Char) : cut? c (a ++ c :: b) = some (a, b) := by
  induction a with
  | nil => rw [List.nil_append, cut?, if_pos rfl]
  | cons d a ih =>
    rw [List.cons_append, cut?, if_neg (List.ne_of_not_mem_cons absent).symm,
      ih (List.not_mem_of_not_mem_cons absent)]
    rfl

/-- A text is cut at the last place where the character stands. -/
theorem cutLast?_append (a : List Char) (absent : c ∉ b) :
    cutLast? c (a ++ c :: b) = some (a, b) := by
  induction a with
  | nil => rw [List.nil_append, cutLast?, cutLast?_eq_none.2 absent, if_pos rfl]
  | cons d a ih => rw [List.cons_append, cutLast?, ih]

/-! ## Everywhere -/

theorem splitAt_of_not_mem (absent : c ∉ s) : splitAt c s = [s] := by
  induction s with
  | nil => rfl
  | cons d s ih =>
    rw [splitAt, if_neg (List.ne_of_not_mem_cons absent).symm,
      ih (List.not_mem_of_not_mem_cons absent)]

theorem splitAt_append (absent : c ∉ a) (b : List Char) :
    splitAt c (a ++ c :: b) = a :: splitAt c b := by
  induction a with
  | nil => rw [List.nil_append, splitAt, if_pos rfl]
  | cons d a ih =>
    rw [List.cons_append, splitAt, if_neg (List.ne_of_not_mem_cons absent).symm,
      ih (List.not_mem_of_not_mem_cons absent)]

/-- **Pieces that were put together come apart again.** -/
theorem splitAt_intercalate (ne : pieces ≠ []) (absent : ∀ piece ∈ pieces, c ∉ piece) :
    splitAt c ([c].intercalate pieces) = pieces := by
  induction pieces with
  | nil => exact absurd rfl ne
  | cons piece pieces ih =>
    have here := absent piece List.mem_cons_self
    cases pieces with
    | nil =>
      rw [List.intercalate_singleton]
      exact splitAt_of_not_mem here
    | cons next pieces =>
      have later : ∀ piece ∈ next :: pieces, c ∉ piece :=
        fun piece h => absent piece (List.mem_cons_of_mem _ h)
      rw [List.intercalate_cons_cons, List.append_assoc, List.singleton_append,
        splitAt_append here, ih (List.cons_ne_nil _ _) later]

theorem splitAt_ne_nil (c : Char) (s : List Char) : splitAt c s ≠ [] := by
  cases s with
  | nil => exact List.cons_ne_nil _ _
  | cons d s =>
    rw [splitAt]
    split
    · exact List.cons_ne_nil _ _
    · split <;> exact List.cons_ne_nil _ _

/-- **A text is put together of its pieces**, and the character stands in none of them. -/
theorem intercalate_splitAt (c : Char) (s : List Char) :
    [c].intercalate (splitAt c s) = s ∧ ∀ piece ∈ splitAt c s, c ∉ piece := by
  induction s with
  | nil => exact ⟨rfl, by simp [splitAt]⟩
  | cons d s ih =>
    obtain ⟨whole, absent⟩ := ih
    obtain ⟨piece, pieces, split⟩ := List.exists_cons_of_ne_nil (splitAt_ne_nil c s)
    rw [split] at whole absent
    rw [splitAt]
    by_cases here : d = c
    · rw [if_pos here, split, List.intercalate_cons_cons, whole, here]
      refine ⟨rfl, fun piece h => ?_⟩
      rcases List.mem_cons.1 h with rfl | h
      · exact List.not_mem_nil
      · exact absent piece h
    · rw [if_neg here, split]
      constructor
      · show [c].intercalate ((d :: piece) :: pieces) = d :: s
        rw [← whole]
        cases pieces with
        | nil => rw [List.intercalate_singleton, List.intercalate_singleton]
        | cons next pieces => rw [List.intercalate_cons_cons, List.intercalate_cons_cons]; rfl
      · intro other h
        rcases List.mem_cons.1 h with rfl | h
        · exact List.not_mem_cons_of_ne_of_not_mem (Ne.symm here) (absent piece List.mem_cons_self)
        · exact absent other (List.mem_cons_of_mem _ h)

/-- What is put together with a character is over a class if the character and all pieces are. -/
theorem forall_mem_intercalate {P : Char → Prop} (between : P c)
    (all : ∀ piece ∈ pieces, ∀ d ∈ piece, P d) : ∀ d ∈ [c].intercalate pieces, P d := by
  induction pieces with
  | nil => exact List.forall_mem_nil _
  | cons piece pieces ih =>
    have here := all piece List.mem_cons_self
    have later := ih fun piece hp => all piece (List.mem_cons_of_mem _ hp)
    cases pieces with
    | nil => rwa [List.intercalate_singleton]
    | cons next pieces =>
      rw [List.intercalate_cons_cons]
      exact List.forall_mem_append.2
        ⟨List.forall_mem_append.2 ⟨here, List.forall_mem_singleton.2 between⟩, later⟩

/-- Pieces are empty if nothing results of putting them together. -/
theorem eq_nil_of_intercalate_eq_nil (h : [c].intercalate pieces = []) :
    ∀ piece ∈ pieces, piece = [] := by
  match pieces with
  | [] => exact List.forall_mem_nil _
  | [piece] =>
    rw [List.intercalate_singleton] at h
    exact List.forall_mem_singleton.2 h
  | piece :: next :: pieces =>
    rw [List.intercalate_cons_cons, List.append_assoc] at h
    exact absurd (List.append_eq_nil_iff.1 h).2 (List.cons_ne_nil _ _)

/-! ## At both ends -/

/-- What is left of a text without the characters of a class around it. -/
def IsTrimmed (p : Char → Bool) (s core : List Char) : Prop :=
  ∃ front back, s = front ++ core ++ back ∧ (∀ c ∈ front ++ back, p c = true) ∧
    Bars p core ∧ Bars p core.reverse

variable {p : Char → Bool} {core : List Char}

/-- What holds no character of the class is left if only such characters stand around it. -/
theorem isTrimmed_of_forall {p : Char → Bool} {front core back : List Char}
    (around : ∀ c ∈ front ++ back, p c = true) (none : ∀ c ∈ core, p c = false) :
    IsTrimmed p (front ++ core ++ back) core :=
  ⟨front, back, rfl, around, fun c hc => none c (List.mem_of_mem_head? hc),
    fun c hc => none c (List.mem_reverse.1 (List.mem_of_mem_head? hc))⟩

/-- There is nothing to trim from what is left. -/
theorem IsTrimmed.self {p : Char → Bool} {s core : List Char} (h : IsTrimmed p s core) :
    IsTrimmed p core core := by
  obtain ⟨-, -, -, -, begins, ends⟩ := h
  exact ⟨[], [], (List.append_nil _).symm, List.forall_mem_nil _, begins, ends⟩

theorem bars_dropWhile (p : Char → Bool) (s : List Char) : Bars p (s.dropWhile p) := by
  induction s with
  | nil => exact bars_nil
  | cons c s ih =>
    cases hc : p c with
    | true => rwa [List.dropWhile_cons_of_pos hc]
    | false =>
      rw [List.dropWhile_cons_of_neg (Bool.eq_false_iff.1 hc)]
      exact bars_cons.2 hc

theorem forall_mem_takeWhile (p : Char → Bool) (s : List Char) :
    ∀ c ∈ s.takeWhile p, p c = true :=
  List.all_eq_true.1 List.all_takeWhile

/-- **Trimming leaves what there is without the characters at the ends.** -/
theorem isTrimmed_trimBy (p : Char → Bool) (s : List Char) : IsTrimmed p s (trimBy p s) := by
  have front := List.takeWhile_append_dropWhile (p := p) (l := s)
  have back := congrArg List.reverse
    (List.takeWhile_append_dropWhile (p := p) (l := (s.dropWhile p).reverse))
  rw [List.reverse_append, List.reverse_reverse] at back
  refine ⟨s.takeWhile p, ((s.dropWhile p).reverse.takeWhile p).reverse, ?_, ?_, ?_, ?_⟩
  · rw [List.append_assoc, trimBy, back, front]
  · intro c hc
    rcases List.mem_append.1 hc with hc | hc
    · exact forall_mem_takeWhile p s c hc
    · exact forall_mem_takeWhile p _ c (List.mem_reverse.1 hc)
  · -- What is left begins as the text without its front does, unless nothing is left.
    intro c hc
    have begins := bars_dropWhile p s
    rw [← back] at begins
    refine begins c ?_
    rw [trimBy, Option.mem_def] at hc
    rw [Option.mem_def, List.head?_append, hc]
    rfl
  · rw [trimBy, List.reverse_reverse]
    exact bars_dropWhile p _

theorem trimBy_of_isTrimmed (h : IsTrimmed p s core) : trimBy p s = core := by
  obtain ⟨front, back, rfl, all, begins, ends⟩ := h
  have inFront : ∀ c ∈ front, p c = true := fun c hc => all c (List.mem_append_left _ hc)
  have inBack : ∀ c ∈ back.reverse, p c = true :=
    fun c hc => all c (List.mem_append_right _ (List.mem_reverse.1 hc))
  cases core with
  | nil =>
    have none : (front ++ [] ++ back).dropWhile p = [] := by
      have dropped := dropWhile_append_of_bars all bars_nil
      rwa [List.append_nil] at dropped ⊢
    rw [trimBy, none]
    rfl
  | cons d core =>
    have next : Bars p (d :: core ++ back) := bars_cons.2 (bars_cons.1 begins)
    rw [trimBy, List.append_assoc, dropWhile_append_of_bars inFront next, List.reverse_append,
      dropWhile_append_of_bars inBack ends, List.reverse_reverse]

end EventRoster.Text
