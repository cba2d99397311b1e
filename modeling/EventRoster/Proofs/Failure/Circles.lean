import EventRoster.Failure.CauseGraph
import Mathlib.Data.List.Chain
import Mathlib.Data.List.Perm.Subperm
import Mathlib.Logic.Relation
import Mathlib.Order.Preorder.Finite

/-!
# Where the walk along the causes ends

Every exception has at most one cause, so that from one of them there is one way to go, and among
finitely many the way either comes to an exception that has no cause but itself or meets some
exception twice.  The walk notices that an exception is its own cause.  It does not notice that an
exception which it has left comes back, and goes round for ever.

* `Trail`: the places on the way to a root.  There is at most one trail from a place, it consists of the
  places that are reached, and no place is on it twice.
* `exists_trail_iff`: there is a trail from a place if and only if no two exceptions that are reached are
  each behind the other.
* `ends_walk_iff`, `ends_classify?_iff`, `ends_ask_iff`: what each question needs for an answer.
* `traverses_iff`: all questions are answered, and the causes are listed one by one, exactly if the way
  does not run in a circle.
-/

namespace EventRoster.Failure.CauseGraph

/-! ## Ways along the causes -/

variable (graph : CauseGraph)

/-- The exception at a place. -/
def error? (place : Nat) : Option Raised :=
  graph[place]?.map (·.error)

/-- The exception at one place was raised from the one at another, which may be the same. -/
def IsCause (effect cause : Nat) : Prop :=
  (graph[effect]?.bind (·.cause)) = some cause ∧ cause < graph.length

/-- From one place the causes lead to another, in any number of steps. -/
def Reaches : Nat → Nat → Prop :=
  Relation.ReflTransGen graph.IsCause

/-- The way from a place comes to two exceptions each of which is behind the other. -/
def RunsInCircle (place : Nat) : Prop :=
  ∃ p q, p ≠ q ∧ graph.Reaches place p ∧ graph.Reaches p q ∧ graph.Reaches q p

/-- The exception at a place has no cause but itself. -/
def IsRoot (place : Nat) : Prop :=
  ∀ cause, graph.IsCause place cause → cause = place

/-- The places on the way to a root. -/
inductive Trail : Nat → List Nat → Prop
  | root {place : Nat} (inside : place < graph.length) (isRoot : graph.IsRoot place) :
    Trail place [place]
  | step {place next : Nat} {places : List Nat} (cause : graph.IsCause place next)
      (other : next ≠ place) (more : Trail next places) : Trail place (place :: places)

variable {graph}

section Trail

variable {p q : Nat} {places others : List Nat}

theorem IsCause.lt (h : graph.IsCause p q) : p < graph.length := by
  by_contra outside
  simp [IsCause, List.getElem?_eq_none (Nat.le_of_not_lt outside)] at h

/-- An exception has one cause. -/
theorem IsCause.unique {r : Nat} (h : graph.IsCause p q) (h' : graph.IsCause p r) : q = r := by
  have same := h.1.symm.trans h'.1
  exact Option.some.inj same

theorem Trail.inside (h : graph.Trail p places) : p < graph.length := by
  cases h with
  | root inside isRoot => exact inside
  | step cause other more => exact cause.lt

theorem Trail.mem_self (h : graph.Trail p places) : p ∈ places := by
  cases h <;> exact List.mem_cons_self

/-- There is one trail from a place. -/
theorem Trail.unique (h : graph.Trail p places) (h' : graph.Trail p others) : places = others := by
  induction h generalizing others with
  | root inside isRoot =>
    cases h' with
    | root => rfl
    | step cause other more => exact absurd (isRoot _ cause) other
  | step cause other more ih =>
    cases h' with
    | root inside isRoot => exact absurd (isRoot _ cause) other
    | step cause' other' more' =>
      obtain rfl := cause.unique cause'
      rw [ih more']

/-- The places of a trail are reached. -/
theorem Trail.reaches (h : graph.Trail p places) (member : q ∈ places) : graph.Reaches p q := by
  induction h with
  | root inside isRoot =>
    rw [List.mem_singleton] at member
    exact member ▸ .refl
  | step cause other more ih =>
    rcases List.mem_cons.mp member with rfl | member
    · exact .refl
    · exact .head cause (ih member)

/-- **From what is reached, the rest of the trail goes on.** -/
theorem Trail.exists_of_reaches (h : graph.Trail p places) (reaches : graph.Reaches p q) :
    ∃ rest, graph.Trail q rest ∧ rest <:+ places ∧ (q = p ∨ rest.length < places.length) := by
  induction reaches using Relation.ReflTransGen.head_induction_on generalizing places with
  | refl => exact ⟨places, h, List.suffix_rfl, .inl rfl⟩
  | @head p next cause reaches ih =>
    cases h with
    | root inside isRoot =>
      obtain rfl := isRoot _ cause
      exact ih (.root inside isRoot)
    | step cause' other more =>
      obtain rfl := cause.unique cause'
      obtain ⟨rest, trail, suffix, -⟩ := ih more
      have le := suffix.length_le
      refine ⟨rest, trail, suffix.trans (List.suffix_cons _ _), .inr ?_⟩
      simp only [List.length_cons]
      omega

/-- A trail consists of the places that are reached. -/
theorem Trail.mem_iff (h : graph.Trail p places) : q ∈ places ↔ graph.Reaches p q := by
  refine ⟨h.reaches, fun reaches => ?_⟩
  obtain ⟨rest, trail, suffix, -⟩ := h.exists_of_reaches reaches
  exact suffix.subset trail.mem_self

/-- No place is on a trail twice: its own trail would be shorter than itself. -/
theorem Trail.nodup (h : graph.Trail p places) : places.Nodup := by
  induction h with
  | root => exact List.nodup_singleton _
  | @step p next places cause other more ih =>
    refine List.nodup_cons.mpr ⟨fun again => ?_, ih⟩
    obtain ⟨rest, trail, suffix, -⟩ := more.exists_of_reaches (more.reaches again)
    have le := suffix.length_le
    rw [trail.unique (.step cause other more), List.length_cons] at le
    omega

/-- A trail is no longer than the graph. -/
theorem Trail.length_le (h : graph.Trail p places) : places.length ≤ graph.length := by
  have within : places ⊆ List.range graph.length := by
    intro q member
    obtain ⟨rest, trail, -, -⟩ := h.exists_of_reaches (h.reaches member)
    exact List.mem_range.mpr trail.inside
  have le := (List.subperm_of_subset h.nodup within).length_le
  rwa [List.length_range] at le

end Trail

/-! ## When there is a trail -/

section Exists

variable {p q : Nat} {places : List Nat}

/-- No two places of a trail are each behind the other, for each would have the shorter trail. -/
theorem Trail.not_runsInCircle (h : graph.Trail p places) : ¬graph.RunsInCircle p := by
  rintro ⟨a, b, apart, reaches, there, back⟩
  obtain ⟨placesA, trailA, -, -⟩ := h.exists_of_reaches reaches
  obtain ⟨placesB, trailB, -, same | shorter⟩ := trailA.exists_of_reaches there
  · exact apart same.symm
  obtain ⟨again, trailA', -, same | shorter'⟩ := trailB.exists_of_reaches back
  · exact apart same
  rw [trailA.unique trailA'] at shorter
  omega

/-- A place without a trail. -/
def Endless (graph : CauseGraph) : Type :=
  {place : Fin graph.length // ¬∃ places, graph.Trail place places}

instance (graph : CauseGraph) : Finite graph.Endless :=
  inferInstanceAs (Finite {place : Fin graph.length // ¬∃ places, graph.Trail place places})

/-- Where there is no trail there is a cause, and no trail from it. -/
theorem Endless.exists_next (q : graph.Endless) :
    ∃ next : graph.Endless, graph.IsCause q.1 next.1 ∧ next ≠ q := by
  obtain ⟨⟨q, inside⟩, endless⟩ := q
  have cause : ∃ next, graph.IsCause q next ∧ next ≠ q := by
    by_contra none
    push Not at none
    exact endless ⟨[q], .root inside none⟩
  obtain ⟨next, cause, other⟩ := cause
  refine ⟨⟨⟨next, cause.2⟩, ?_⟩, cause, fun same => other ?_⟩
  · rintro ⟨places, trail⟩
    exact endless ⟨_, .step cause other trail⟩
  · exact congrArg (fun q : graph.Endless => q.1.1) same

theorem Endless.reaches_iterate {follow : graph.Endless → graph.Endless}
    (cause : ∀ q, graph.IsCause q.1 (follow q).1) (q : graph.Endless) (k : Nat) :
    graph.Reaches q.1 (follow^[k] q).1 := by
  induction k with
  | zero => exact .refl
  | succ k ih =>
    rw [Function.iterate_succ_apply']
    exact .tail ih (cause _)

/-- Without an end the way meets some place twice, and what lies between is a circle. -/
theorem Endless.runsInCircle (start : graph.Endless) : graph.RunsInCircle start.1 := by
  choose follow cause other using fun q : graph.Endless => q.exists_next
  have ahead := Endless.reaches_iterate cause
  obtain ⟨i, j, less, again⟩ :=
    Set.finite_univ.exists_lt_map_eq_of_forall_mem fun k => Set.mem_univ (follow^[k] start)
  obtain ⟨k, rfl⟩ := Nat.exists_eq_add_of_lt less
  have round : follow^[k] (follow (follow^[i] start)) = follow^[i] start := by
    rw [← Function.iterate_succ_apply, ← Function.iterate_add_apply, again]
    congr 1
    omega
  have back := ahead (follow (follow^[i] start)) k
  rw [round] at back
  refine ⟨_, _, ?_, ahead start i, .single (cause _), back⟩
  intro same
  exact other (follow^[i] start) (Subtype.ext (Fin.ext same.symm))

/-- **There is a trail from a place if and only if the way does not run in a circle.** -/
theorem exists_trail_iff (inside : p < graph.length) :
    (∃ places, graph.Trail p places) ↔ ¬graph.RunsInCircle p := by
  constructor
  · rintro ⟨places, trail⟩
    exact trail.not_runsInCircle
  · intro straight
    by_contra endless
    exact straight (Endless.runsInCircle ⟨⟨p, inside⟩, endless⟩)

end Exists

/-! ## The walks -/

/-- A walk that is given a number of steps comes to an end within some number. -/
def Ends {α : Type} (walk : Nat → Option α) : Prop :=
  ∃ steps answer, walk steps = some answer

section Walks

variable {p q : Nat} {places : List Nat}

/-- A place that is reached has an exception. -/
theorem exists_getElem? (inside : p < graph.length) : ∃ node, graph[p]? = some node :=
  ⟨graph[p], List.getElem?_eq_getElem inside⟩

/-- What an exception says of its cause, if that is one of the graph. -/
theorem IsCause.exists_node {next : Nat} (h : graph.IsCause p next) :
    ∃ node, graph[p]? = some node ∧ node.cause = some next := by
  obtain ⟨node, found⟩ := exists_getElem? h.lt
  refine ⟨node, found, ?_⟩
  simpa [IsCause, found] using h.1

/-- An exception is a root, or it says which other one is its cause. -/
theorem isRoot_or_isCause {node : Linked} (found : graph[p]? = some node) :
    (graph.IsRoot p ∧ ∀ next, node.cause = some next → next = p ∨ graph[next]? = none) ∨
      ∃ next, node.cause = some next ∧ next ≠ p ∧ graph.IsCause p next := by
  by_cases isRoot : graph.IsRoot p
  · refine .inl ⟨isRoot, fun next named => ?_⟩
    by_cases inside : next < graph.length
    · exact .inl (isRoot next (by simp [IsCause, found, named, inside]))
    · exact .inr (List.getElem?_eq_none (Nat.le_of_not_lt inside))
  · rw [IsRoot] at isRoot
    push Not at isRoot
    obtain ⟨next, cause, other⟩ := isRoot
    obtain ⟨node', found', named⟩ := cause.exists_node
    obtain rfl : node = node' := Option.some.inj (found.symm.trans found')
    exact .inr ⟨next, named, other, cause⟩

theorem walk_succ {node : Linked} (found : graph[p]? = some node) (steps : Nat) :
    graph.walk (steps + 1) p =
      match node.cause with
      | none => some [node.error]
      | some next =>
        if next = p then some [node.error] else (graph.walk steps next).map (node.error :: ·) := by
  cases cause : node.cause <;> simp [walk, found, cause]

/-- **The walk with steps enough tells the exceptions of the trail.** -/
theorem Trail.walk_eq (h : graph.Trail p places) {steps : Nat} (enough : places.length < steps) :
    ∃ errors, graph.walk steps p = some errors ∧ errors.map some = places.map graph.error? := by
  induction h generalizing steps with
  | @root p inside isRoot =>
    obtain ⟨node, found⟩ := exists_getElem? inside
    obtain ⟨-, cause⟩ | ⟨next, -, other, cause⟩ := isRoot_or_isCause found
    · obtain ⟨steps, rfl⟩ : ∃ n, steps = n + 2 := ⟨steps - 2, by simp at enough; omega⟩
      refine ⟨[node.error], ?_, by simp [error?, found]⟩
      rw [walk_succ found]
      cases named : node.cause with
      | none => rfl
      | some next =>
        rcases cause next named with rfl | outside
        · simp
        · simp [walk, outside]
    · exact absurd (isRoot _ cause) other
  | @step p next places cause other more ih =>
    obtain ⟨node, found, named⟩ := cause.exists_node
    cases steps with
    | zero => simp at enough
    | succ steps =>
      obtain ⟨errors, walks, same⟩ := @ih steps (by simpa using enough)
      refine ⟨node.error :: errors, ?_, ?_⟩
      · simp [walk_succ found, named, other, walks]
      · simp [same, error?, found]

/-- **A walk that comes to an end has gone along a trail.** -/
theorem exists_trail_of_walk {steps : Nat} {errors : List Raised} (inside : p < graph.length)
    (h : graph.walk steps p = some errors) : ∃ places, graph.Trail p places := by
  induction steps generalizing p errors with
  | zero => cases h
  | succ steps ih =>
    obtain ⟨node, found⟩ := exists_getElem? inside
    obtain ⟨isRoot, -⟩ | ⟨next, named, other, cause⟩ := isRoot_or_isCause found
    · exact ⟨[p], .root inside isRoot⟩
    · simp only [walk_succ found, named, if_neg other, Option.map_eq_some_iff] at h
      obtain ⟨errors, walks, -⟩ := h
      obtain ⟨places, trail⟩ := ih cause.2 walks
      exact ⟨p :: places, .step cause other trail⟩

/-- The walk along the causes ends if and only if the way does not run in a circle. -/
theorem ends_walk_iff (inside : p < graph.length) :
    Ends (graph.walk · p) ↔ ¬graph.RunsInCircle p := by
  rw [← exists_trail_iff inside]
  constructor
  · rintro ⟨steps, errors, walks⟩
    exact exists_trail_of_walk inside walks
  · rintro ⟨places, trail⟩
    obtain ⟨errors, walks, -⟩ := trail.walk_eq (Nat.lt_succ_self _)
    exact ⟨_, errors, walks⟩

/-- An exception with a code is reported without a walk, and any other at the end of one. -/
theorem ends_classify?_iff {e : Raised} (found : graph.error? p = some e) :
    Ends (graph.classify? · p) ↔ e.code? ≠ none ∨ ¬graph.RunsInCircle p := by
  obtain ⟨node, held, rfl⟩ := Option.map_eq_some_iff.1 found
  obtain ⟨inside, -⟩ := List.getElem?_eq_some_iff.1 held
  rw [← ends_walk_iff inside]
  cases code : node.error.code? with
  | some c => simp [Ends, classify?, held, code]
  | none => simp [Ends, classify?, rootFirst?, held, code]

variable {verdict : Raised → Option Bool}

theorem ask_succ {node : Linked} (found : graph[p]? = some node) (steps : Nat) :
    ask verdict graph (steps + 1) p =
      match verdict node.error with
      | some answer => some answer
      | none =>
        match node.cause with
        | none => some false
        | some next => if next = p then some false else ask verdict graph steps next := by
  cases said : verdict node.error <;> cases cause : node.cause <;> simp [ask, found, said, cause]

/-- **A question that is asked along a trail gets the first verdict on it**, which is no if there is
none. -/
theorem Trail.ask_eq (h : graph.Trail p places) {steps : Nat} (enough : places.length < steps)
    {errors : List Raised} (same : errors.map some = places.map graph.error?) :
    ask verdict graph steps p = some (decided verdict errors) := by
  induction h generalizing steps errors with
  | @root p inside isRoot =>
    obtain ⟨node, found⟩ := exists_getElem? inside
    obtain ⟨-, cause⟩ | ⟨next, -, other, cause⟩ := isRoot_or_isCause found
    · obtain ⟨steps, rfl⟩ : ∃ n, steps = n + 2 := ⟨steps - 2, by simp at enough; omega⟩
      obtain rfl : errors = [node.error] := by
        simpa [error?, found, List.map_eq_singleton_iff] using same
      rw [ask_succ found, decided, List.findSome?_singleton]
      cases verdict node.error with
      | some answer => rfl
      | none =>
        cases named : node.cause with
        | none => rfl
        | some next =>
          rcases cause next named with rfl | outside
          · simp
          · simp [ask, outside]
    · exact absurd (isRoot _ cause) other
  | @step p next places cause other more ih =>
    obtain ⟨node, found, named⟩ := cause.exists_node
    obtain ⟨steps, rfl⟩ : ∃ n, steps = n + 1 := ⟨steps - 1, by simp at enough; omega⟩
    obtain ⟨rest, rfl, tail⟩ : ∃ rest, errors = node.error :: rest ∧
        rest.map some = places.map graph.error? := by
      simpa [error?, found, List.map_eq_cons_iff] using same
    have answer := @ih steps (by simpa using enough) rest tail
    rw [ask_succ found, decided, List.findSome?_cons, named]
    cases verdict node.error with
    | some answer => rfl
    | none => simp [other, answer, decided]

/-- Some exception that is reached decides the question. -/
def IsDecided (verdict : Raised → Option Bool) (graph : CauseGraph) (place : Nat) : Prop :=
  ∃ q e, graph.Reaches place q ∧ graph.error? q = some e ∧ verdict e ≠ none

/-- A verdict is met before the way could run in a circle, which is only behind it. -/
theorem ends_ask_of_isDecided (h : IsDecided verdict graph p) : Ends (ask verdict graph · p) := by
  obtain ⟨q, e, reaches, found, decides⟩ := h
  obtain ⟨node, held, rfl⟩ := Option.map_eq_some_iff.1 found
  induction reaches using Relation.ReflTransGen.head_induction_on with
  | refl =>
    obtain ⟨answer, said⟩ := Option.ne_none_iff_exists'.1 decides
    exact ⟨1, answer, (ask_succ held 0).trans (by rw [said])⟩
  | @head p next cause reaches ih =>
    obtain ⟨node', held', named⟩ := cause.exists_node
    obtain ⟨steps, answer, asked⟩ := ih
    by_cases same : next = p
    · exact ⟨steps, answer, same ▸ asked⟩
    · cases said : verdict node'.error with
      | some answer => exact ⟨1, answer, (ask_succ held' 0).trans (by rw [said])⟩
      | none =>
        refine ⟨steps + 1, answer, (ask_succ held' steps).trans ?_⟩
        simpa [said, named, same] using asked

/-- **A question along the causes is answered if and only if the way does not run in a circle or some
exception on it decides.** -/
theorem ends_ask_iff (inside : p < graph.length) :
    Ends (ask verdict graph · p) ↔ IsDecided verdict graph p ∨ ¬graph.RunsInCircle p := by
  constructor
  · rintro ⟨steps, answer, asked⟩
    induction steps generalizing p with
    | zero => cases asked
    | succ steps ih =>
      obtain ⟨node, found⟩ := exists_getElem? inside
      cases said : verdict node.error with
      | some answer =>
        exact .inl ⟨p, node.error, .refl, by simp [error?, found], by simp [said]⟩
      | none =>
        obtain ⟨isRoot, -⟩ | ⟨next, named, other, cause⟩ := isRoot_or_isCause found
        · exact .inr (Trail.root inside isRoot).not_runsInCircle
        · have asked' := (ask_succ found steps).symm.trans asked
          rcases ih cause.2 (by simpa [said, named, other] using asked') with ⟨q, e, reaches, rest⟩ | straight
          · exact .inl ⟨q, e, .head cause reaches, rest⟩
          · obtain ⟨places, trail⟩ := (exists_trail_iff cause.2).2 straight
            exact .inr (Trail.step cause other trail).not_runsInCircle
  · rintro (decided | straight)
    · exact ends_ask_of_isDecided decided
    · obtain ⟨places, trail⟩ := (exists_trail_iff inside).2 straight
      obtain ⟨errors, -, same⟩ := trail.walk_eq (Nat.lt_succ_self _)
      exact ⟨_, _, trail.ask_eq (Nat.lt_succ_self _) same⟩

end Walks

/-! ## All questions -/

/-- The places that are reached from one, listed from the root to it. -/
structure IsTraversal (graph : CauseGraph) (place : Nat) (places : List Nat) : Prop where
  /-- No exception is listed twice. -/
  nodup : places.Nodup
  /-- The exceptions that are listed are those that are reached. -/
  mem_iff : ∀ p, p ∈ places ↔ graph.Reaches place p
  /-- Each is the cause of the next. -/
  linked : places.IsChain fun cause effect => graph.IsCause effect cause
  /-- The first is a root. -/
  root : ∀ p ∈ places.head?, graph.IsRoot p
  /-- The last is the one from which they are reached. -/
  last : places.getLast? = some place

/-- All questions about the exception at a place are answered, and the causes listed. -/
structure Traverses (graph : CauseGraph) (place : Nat) : Prop where
  lists : ∃ places errors, graph.IsTraversal place places ∧
    errors.map some = places.map graph.error? ∧
    ∀ steps, graph.length < steps → graph.rootFirst? steps place = some errors
  finds : ∀ kind, Ends (graph.find? kind · place)
  classifies : Ends (graph.classify? · place)
  asksTransience : Ends (graph.ask Raised.transience · place)
  asksPermanence : Ends (graph.ask Raised.permanence · place)

/-- The questions about the exception at a place are answered as they are about a failure, in more steps
than there are exceptions. -/
structure AnswersAs (graph : CauseGraph) (place : Nat) (f : Failure) : Prop where
  rootFirst : ∀ steps, graph.length < steps → graph.rootFirst? steps place = some f.rootFirst
  find : ∀ kind steps, graph.length < steps → graph.find? kind steps place = some (f.find? kind)
  classify : ∀ steps, graph.length < steps → graph.classify? steps place = some f.classify
  transience : ∀ steps, graph.length < steps →
    graph.ask Raised.transience steps place = some f.isTransient
  permanence : ∀ steps, graph.length < steps →
    graph.ask Raised.permanence steps place = some f.isPermanent

section Questions

variable {p : Nat} {places : List Nat}

theorem Trail.isChain (h : graph.Trail p places) : places.IsChain graph.IsCause := by
  induction h with
  | root => exact .singleton _
  | step cause other more ih =>
    cases more with
    | root => exact .cons_cons cause ih
    | step => exact .cons_cons cause ih

theorem Trail.head?_eq (h : graph.Trail p places) : places.head? = some p := by
  cases h <;> rfl

/-- A trail comes to a root. -/
theorem Trail.isRoot_of_mem_getLast? (h : graph.Trail p places) {root : Nat}
    (last : root ∈ places.getLast?) : graph.IsRoot root := by
  induction h with
  | root inside isRoot =>
    obtain rfl := Option.some.inj last
    exact isRoot
  | step cause other more ih =>
    refine ih ?_
    cases more <;> exact last

/-- A trail is a traversal backwards. -/
theorem Trail.isTraversal (h : graph.Trail p places) : graph.IsTraversal p places.reverse where
  nodup := List.nodup_reverse.mpr h.nodup
  mem_iff q := by rw [List.mem_reverse, h.mem_iff]
  linked := List.isChain_reverse.mpr h.isChain
  root q first := h.isRoot_of_mem_getLast? (by rwa [List.head?_reverse] at first)
  last := by rw [List.getLast?_reverse, h.head?_eq]

/-- The failure that is found at the place of a trail consists of the exceptions on it. -/
theorem Trail.exists_failure? (h : graph.Trail p places) :
    ∃ f, graph.failure? p = some f ∧ f.links.map some = places.map graph.error? := by
  obtain ⟨errors, walks, same⟩ := h.walk_eq (Nat.lt_succ_of_le h.length_le)
  cases errors with
  | nil => cases h <;> cases same
  | cons error causes => exact ⟨⟨error, causes⟩, by rw [failure?, links?, walks], same⟩

/-- **Along a trail, what is asked of the walk is answered as for the failure** that is found there. -/
theorem Trail.answersAs (h : graph.Trail p places) {f : Failure}
    (same : f.links.map some = places.map graph.error?) : graph.AnswersAs p f := by
  have most := h.length_le
  have rootFirst : ∀ steps, graph.length < steps → graph.rootFirst? steps p = some f.rootFirst := by
    intro steps enough
    obtain ⟨errors, walks, same'⟩ := h.walk_eq (Nat.lt_of_le_of_lt most enough)
    have links : errors = f.links :=
      List.map_injective_iff.mpr (Option.some_injective _) (same'.trans same.symm)
    rw [rootFirst?, walks, links]
    rfl
  have ask : ∀ verdict steps, graph.length < steps →
      ask verdict graph steps p = some (decided verdict f.links) :=
    fun verdict steps enough => h.ask_eq (Nat.lt_of_le_of_lt most enough) same
  refine ⟨rootFirst, fun kind steps enough => ?_, fun steps enough => ?_, ask _, ask _⟩
  · rw [find?, rootFirst steps enough]
    rfl
  · obtain ⟨node, found⟩ := exists_getElem? h.inside
    have error : node.error = f.error := by
      have front := congrArg List.head? same
      rw [List.head?_map, List.head?_map, h.head?_eq] at front
      simpa [links, error?, found, eq_comm] using front
    rw [classify?, found, rootFirst steps enough, Failure.classify, ← error]
    cases code : node.error.code? <;> simp [code]

/-- All questions are answered along a trail. -/
theorem Trail.traverses (h : graph.Trail p places) : graph.Traverses p := by
  obtain ⟨f, -, same⟩ := h.exists_failure?
  have answers := h.answersAs same
  have enough := Nat.lt_succ_self graph.length
  refine ⟨⟨_, _, h.isTraversal, ?_, answers.rootFirst⟩, fun kind => ⟨_, _, answers.find kind _ enough⟩,
    ⟨_, _, answers.classify _ enough⟩, ⟨_, _, answers.transience _ enough⟩,
    ⟨_, _, answers.permanence _ enough⟩⟩
  rw [rootFirst, List.map_reverse, same, List.map_reverse]

/-- The walk of what is listed has an end. -/
theorem Traverses.ends_walk (h : graph.Traverses p) : Ends (graph.walk · p) := by
  obtain ⟨places, errors, -, -, told⟩ := h.lists
  obtain ⟨links, walks, -⟩ := Option.map_eq_some_iff.1 (told _ (Nat.lt_succ_self _))
  exact ⟨_, links, walks⟩

theorem traverses_iff_not_runsInCircle (inside : p < graph.length) :
    graph.Traverses p ↔ ¬graph.RunsInCircle p := by
  constructor
  · exact fun h => (ends_walk_iff inside).1 h.ends_walk
  · intro straight
    obtain ⟨places, trail⟩ := (exists_trail_iff inside).2 straight
    exact trail.traverses

end Questions

/-- **The walk along the causes answers all questions about an exception, and lists its causes one by
one from the root, if and only if its way does not run in a circle** of two exceptions or more.  In such
a circle a code that the exception carries is still told, and a verdict that is met on the way; all other
walks go round for ever.  Where there is no circle the answers are those for the failure at the place. -/
theorem traverses_iff (graph : CauseGraph) (place : Fin graph.length) :
    (graph.Traverses place ↔ ¬graph.RunsInCircle place) ∧
      (Ends (graph.classify? · place) ↔
        graph[place].error.code? ≠ none ∨ ¬graph.RunsInCircle place) ∧
      (∀ verdict, Ends (graph.ask verdict · place) ↔
        graph.IsDecided verdict place ∨ ¬graph.RunsInCircle place) ∧
      (¬graph.RunsInCircle place → ∃ f, graph.failure? place = some f ∧ graph.AnswersAs place f) := by
  have found : graph.error? place = some graph[place].error := by
    simp [error?]
  refine ⟨traverses_iff_not_runsInCircle place.2, ends_classify?_iff found,
    fun verdict => ends_ask_iff place.2, fun straight => ?_⟩
  obtain ⟨places, trail⟩ := (exists_trail_iff place.2).2 straight
  obtain ⟨f, failure, same⟩ := trail.exists_failure?
  exact ⟨f, failure, trail.answersAs same⟩

/-- Two exceptions each of which is the cause of the other. -/
def eachOther : CauseGraph :=
  [⟨.ofStandard .runtimeError "", some 1⟩, ⟨.ofStandard .runtimeError "", some 0⟩]

theorem runsInCircle_eachOther : eachOther.RunsInCircle 0 :=
  ⟨0, 1, by decide, .refl, .single ⟨rfl, by decide⟩, .single ⟨rfl, by decide⟩⟩

/-- No exception of the two decides a question that says nothing of their class. -/
theorem not_isDecided_eachOther {verdict : Raised → Option Bool}
    (silent : verdict (.ofStandard .runtimeError "") = none) : ¬eachOther.IsDecided verdict 0 := by
  rintro ⟨q, e, -, found, decides⟩
  have same : e = .ofStandard .runtimeError "" := by
    obtain ⟨node, held, rfl⟩ := Option.map_eq_some_iff.1 found
    have member := List.mem_of_getElem? held
    simp only [eachOther, List.mem_cons, List.not_mem_nil, or_false] at member
    rcases member with rfl | rfl <;> rfl
  exact decides (same ▸ silent)

/-- **No question about two exceptions that are each other's cause is ever answered.** -/
theorem not_traverses_eachOther :
    ¬eachOther.Traverses 0 ∧ ¬Ends (eachOther.rootFirst? · 0) ∧
      (∀ kind, ¬Ends (eachOther.find? kind · 0)) ∧ ¬Ends (eachOther.classify? · 0) ∧
      ¬Ends (eachOther.ask Raised.transience · 0) ∧
      ¬Ends (eachOther.ask Raised.permanence · 0) := by
  have inside : 0 < eachOther.length := by decide
  have circle := runsInCircle_eachOther
  have endless : ¬Ends (eachOther.walk · 0) := fun ends => (ends_walk_iff inside).1 ends circle
  have unasked : ∀ verdict : Raised → Option Bool, verdict (.ofStandard .runtimeError "") = none →
      ¬Ends (eachOther.ask verdict · 0) := by
    intro verdict silent ends
    rcases (ends_ask_iff inside).1 ends with decided | straight
    · exact not_isDecided_eachOther silent decided
    · exact straight circle
  have codeless : (Raised.ofStandard .runtimeError "").code? = none := rfl
  refine ⟨fun h => endless h.ends_walk, ?_, fun kind => ?_, ?_, unasked _ (by decide),
    unasked _ (by decide)⟩
  · simpa [Ends, rootFirst?] using endless
  · simpa [Ends, find?, rootFirst?] using endless
  · rw [ends_classify?_iff (e := .ofStandard .runtimeError "") rfl]
    simp [codeless, circle]

end EventRoster.Failure.CauseGraph
