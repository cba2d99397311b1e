import EventRoster.Proofs.Cql.Pieces
import EventRoster.Proofs.Text.Format

/-!
# Parameters at their places

A statement is sent together with its parameters, and the sender fills them into it as into a format.
Each should come to its own place, whatever the table and its columns are called.  The templates do their
part: no percent sign of theirs is anything but the beginning of a place.

Names are made fit for statements, but not for formats: a percent sign in a name stands in the statement
as it is, where the sender takes it for the beginning of a place.  Then not all parameters come to their
places, whatever they are: `filled?_text_iff`.

* `hasPlaces_text_iff`: whether a statement has a place for each parameter and nothing like one besides.
* `fill_pieces`, `fallsShort_of_fill_pieces`: what the pieces of a statement are filled to.
* `holds_parameters_iff`: the statements that are filled as they should be.
-/

namespace EventRoster.Cql

open EventRoster.Text.Format

/-- Every percent sign of a text begins a place, and so many places there are. -/
inductive HasPlaces : List Char → Nat → Prop
  | nil : HasPlaces [] 0
  | other {c : Char} {s : List Char} {n : Nat} : c ≠ '%' → HasPlaces s n → HasPlaces (c :: s) n
  | place {s : List Char} {n : Nat} : HasPlaces s n → HasPlaces ('%' :: 's' :: s) (n + 1)

theorem HasPlaces.count_eq {s : List Char} {n : Nat} (h : HasPlaces s n) : s.count '%' = n := by
  induction h with
  | nil => rfl
  | other notPercent _ ih => rw [List.count_cons_of_ne notPercent, ih]
  | place _ ih => rw [List.count_cons_self, List.count_cons_of_ne (by decide), ih]

/-- What holds no percent sign has no places. -/
theorem HasPlaces.append {d s : List Char} {n : Nat} (absent : '%' ∉ d) (h : HasPlaces s n) :
    HasPlaces (d ++ s) n := by
  induction d with
  | nil => exact h
  | cons c d ih =>
    exact .other (List.ne_of_not_mem_cons absent).symm (ih (List.not_mem_of_not_mem_cons absent))

/-! ## Names -/

section Names

variable {q : Quoting} {name s out : List Char} {texts : List (List Char)}

/-- There is no percent sign in a word. -/
theorem not_mem_of_isWord (word : isWord name = true) : '%' ∉ name := by
  have notStart : isWordStart '%' = false := by decide
  have notPart : isWordPart '%' = false := by decide
  have parts {rest : List Char} (h : ∀ c ∈ rest, isWordPart c = true) : '%' ∉ rest :=
    fun mem => by simpa [notPart] using h _ mem
  obtain ⟨first, rest, start, all, same⟩ := exists_of_isWord word
  have notFirst : '%' ≠ first := by
    rintro rfl
    rw [notStart] at start
    cases start
  rcases same with rfl | rfl <;> simp [notFirst, parts all]

theorem nameChars_of_percent (mem : '%' ∈ name) : q.nameChars name = enclosed name :=
  (q.bare_or_enclosed name).resolve_left fun bare => not_mem_of_isWord bare.1 mem

/-- A name has the same percent signs in a statement as it has itself. -/
theorem percent_mem_nameChars : '%' ∈ q.nameChars name ↔ '%' ∈ name := by
  rcases q.bare_or_enclosed name with ⟨-, -, same⟩ | same
  · rw [same]
  · simp [same, enclosed, mem_doubled]

/-- What a name with a percent sign is filled to.  It stands in quotes, so that what is behind it is
filled by itself. -/
theorem exists_of_fill_name (mem : '%' ∈ name)
    (fills : fill none (q.nameChars name ++ s) texts = some out) :
    ∃ before behind front back, texts = before ++ behind ∧ out = '"' :: (front ++ '"' :: back) ∧
      fill none (doubled name) before = some front ∧ fill none s behind = some back := by
  have quote : '%' ∉ ['"'] := by decide
  have chars : q.nameChars name ++ s = ['"'] ++ (doubled name ++ '"' :: s) := by
    simp [nameChars_of_percent mem, enclosed]
  rw [chars, fill_append quote] at fills
  obtain ⟨rest, later, rfl⟩ := Option.map_eq_some_iff.1 fills
  obtain ⟨before, behind, front, back, given, rfl, first, second⟩ := exists_of_fill_quote later
  exact ⟨before, behind, front, back, given, rfl, first, second⟩

end Names

/-! ## Pieces -/

namespace Piece

variable {q : Quoting} {ps : List Piece} {texts : List (List Char)} {out : List Char}

/-- The parameters that some pieces are the places of, as they are filled in. -/
def given (encode : Parameter → String) (ps : List Piece) : List (List Char) :=
  (ps.filterMap parameter?).map fun p => (encode p).toList

theorem not_mem_of_isPlain {s : String} (plain : (fixed s).isPlain = true) : '%' ∉ s.toList := by
  simpa [isPlain] using plain

/-- The percent signs of a statement are those of its places and those of its names. -/
theorem count_flatMap_chars (plain : ∀ p ∈ ps, p.isPlain = true) :
    (ps.flatMap (chars q)).count '%' = (ps.filterMap parameter?).length +
      ((ps.filterMap name?).flatMap (q.nameChars ·.toList)).count '%' := by
  induction ps with
  | nil => rfl
  | cons p ps ih =>
    obtain ⟨first, others⟩ := List.forall_mem_cons.1 plain
    rw [List.flatMap_cons, List.count_append, ih others]
    cases p with
    | fixed s =>
      have none : s.toList.count '%' = 0 := List.count_eq_zero.2 (not_mem_of_isPlain first)
      simp [List.filterMap_cons, chars, name?, parameter?, none]
    | name n =>
      simp only [List.filterMap_cons, chars, name?, parameter?, List.flatMap_cons, List.count_append]
      exact Nat.add_left_comm _ _ _
    | place p =>
      simp only [List.filterMap_cons, chars, name?, parameter?, List.length_cons]
      have one : ['%', 's'].count '%' = 1 := by decide
      omega

/-- Pieces without percent signs in names have exactly the places of their parameters. -/
theorem hasPlaces (plain : ∀ p ∈ ps, p.isPlain = true)
    (clean : ∀ n ∈ ps.filterMap name?, '%' ∉ n.toList) :
    HasPlaces (ps.flatMap (chars q)) (ps.filterMap parameter?).length := by
  induction ps with
  | nil => exact .nil
  | cons p ps ih =>
    obtain ⟨first, others⟩ := List.forall_mem_cons.1 plain
    cases p with
    | fixed s => exact .append (not_mem_of_isPlain first) (ih others clean)
    | name n =>
      obtain ⟨absent, clean⟩ := List.forall_mem_cons.1 clean
      exact .append (mt percent_mem_nameChars.1 absent) (ih others clean)
    | place p => exact .place (ih others clean)

/-- Each parameter comes to its own place, if no name has a percent sign. -/
theorem fill_pieces (encode : Parameter → String) (plain : ∀ p ∈ ps, p.isPlain = true)
    (clean : ∀ n ∈ ps.filterMap name?, '%' ∉ n.toList) :
    fill none (ps.flatMap (chars q)) (given encode ps) = some (ps.flatMap (bound q encode)) := by
  induction ps with
  | nil => rfl
  | cons p ps ih =>
    obtain ⟨first, others⟩ := List.forall_mem_cons.1 plain
    rw [List.flatMap_cons, List.flatMap_cons]
    cases p with
    | fixed s =>
      rw [chars, fill_append (not_mem_of_isPlain first)]
      exact congrArg _ (ih others clean)
    | name n =>
      obtain ⟨absent, clean⟩ := List.forall_mem_cons.1 clean
      rw [chars, fill_append (mt percent_mem_nameChars.1 absent)]
      exact congrArg _ (ih others clean)
    | place p => exact (fill_place _ _ _).trans (congrArg _ (ih others clean))

/-- However the pieces are filled, their places take a text each. -/
theorem length_le_of_fill_pieces (plain : ∀ p ∈ ps, p.isPlain = true)
    (fills : fill none (ps.flatMap (chars q)) texts = some out) :
    (ps.filterMap parameter?).length ≤ texts.length := by
  induction ps generalizing texts out with
  | nil => exact Nat.zero_le _
  | cons p ps ih =>
    obtain ⟨first, others⟩ := List.forall_mem_cons.1 plain
    rw [List.flatMap_cons] at fills
    cases p with
    | fixed s =>
      rw [chars, fill_append (not_mem_of_isPlain first)] at fills
      obtain ⟨rest, later, -⟩ := Option.map_eq_some_iff.1 fills
      exact ih others later
    | name n =>
      rw [chars] at fills
      by_cases mem : '%' ∈ n.toList
      · obtain ⟨before, behind, _, _, rfl, -, -, later⟩ := exists_of_fill_name mem fills
        rw [List.length_append]
        exact Nat.le_add_left_of_le (ih others later)
      · rw [fill_append (mt percent_mem_nameChars.1 mem)] at fills
        obtain ⟨rest, later, -⟩ := Option.map_eq_some_iff.1 fills
        exact ih others later
    | place p =>
      cases texts with
      | nil =>
        have nothing : fill none ('%' :: 's' :: ps.flatMap (chars q)) [] = some out := fills
        rw [fill_place_nil] at nothing
        cases nothing
      | cons text texts =>
        obtain ⟨rest, later, -⟩ := Option.map_eq_some_iff.1 ((fill_place _ _ _).symm.trans fills)
        exact Nat.succ_le_succ (ih others later)

theorem length_given (encode : Parameter → String) (ps : List Piece) :
    (given encode ps).length = (ps.filterMap parameter?).length :=
  List.length_map _

/-- A name with a percent sign gets no parameter, since the places behind it take all of them. -/
theorem exists_of_fill_name_given {encode : Parameter → String} {n : String}
    (plain : ∀ p ∈ ps, p.isPlain = true) (mem : '%' ∈ n.toList)
    (fills : fill none ((name n).chars q ++ ps.flatMap (chars q)) (given encode ps) = some out) :
    ∃ front back, out = '"' :: (front ++ '"' :: back) ∧
      fill none (doubled n.toList) [] = some front ∧
      fill none (ps.flatMap (chars q)) (given encode ps) = some back := by
  obtain ⟨before, behind, front, back, same, rfl, inside, later⟩ := exists_of_fill_name mem fills
  have enough := length_le_of_fill_pieces plain later
  have all := congrArg List.length same
  rw [length_given, List.length_append] at all
  obtain rfl : before = [] := List.length_eq_zero_iff.1 (by omega)
  obtain rfl : given encode ps = behind := same
  exact ⟨front, back, rfl, inside, later⟩

/-- What the pieces are filled to with their parameters is no longer than it should be, and is shorter
if a name has a percent sign. -/
theorem fallsShort_of_fill_pieces {encode : Parameter → String} (plain : ∀ p ∈ ps, p.isPlain = true)
    (fills : fill none (ps.flatMap (chars q)) (given encode ps) = some out) :
    FallsShort (∃ n ∈ ps.filterMap name?, '%' ∈ n.toList) out (ps.flatMap (bound q encode)) := by
  induction ps generalizing out with
  | nil =>
    obtain rfl : [] = out := Option.some.inj fills
    exact .refl (by simp) []
  | cons p ps ih =>
    obtain ⟨first, others⟩ := List.forall_mem_cons.1 plain
    rw [List.flatMap_cons] at fills ⊢
    cases p with
    | fixed s =>
      rw [chars, fill_append (not_mem_of_isPlain first)] at fills
      obtain ⟨rest, later, rfl⟩ := Option.map_eq_some_iff.1 fills
      exact (ih others later).append _ id
    | name n =>
      by_cases mem : '%' ∈ n.toList
      · obtain ⟨front, back, rfl, inside, later⟩ := exists_of_fill_name_given others mem fills
        have less := (fallsShort_of_fill_nil inside).lt ⟨rfl, mem_doubled.2 mem⟩
        have short := (ih others later).le
        have whole : ((name n).bound q encode).length = (doubled n.toList).length + 2 := by
          simp [bound, nameChars_of_percent mem, enclosed]
        constructor <;> simp only [List.length_cons, List.length_append, whole] <;> omega
      · rw [chars, fill_append (mt percent_mem_nameChars.1 mem)] at fills
        obtain ⟨rest, later, rfl⟩ := Option.map_eq_some_iff.1 fills
        refine (ih others later).append _ ?_
        rintro ⟨m, among, percent⟩
        rcases List.mem_cons.1 among with rfl | among
        · exact absurd percent mem
        · exact ⟨m, among, percent⟩
    | place p =>
      obtain ⟨rest, later, rfl⟩ := Option.map_eq_some_iff.1 ((fill_place _ _ _).symm.trans fills)
      exact (ih others later).append _ id

end Piece

/-! ## Statements -/

namespace Command

open Piece (given)

variable (q : Quoting) (l : Location) (columns : Columns) (c : Command)

theorem given_pieces (encode : Parameter → String) :
    given encode (c.pieces l columns) = (c.parameters.map encode).map String.toList := by
  rw [given, filterMap_parameter?_pieces, List.map_map]
  rfl

/-- **A statement has a place for each parameter and nothing like one besides** exactly if there is no
percent sign in the names. -/
theorem hasPlaces_text_iff :
    HasPlaces (c.text q l columns).toList c.parameters.length ↔
      ∀ n ∈ c.identifiers l columns, '%' ∉ n.toList := by
  rw [toList_text, ← filterMap_parameter?_pieces l columns]
  refine ⟨fun places n mem percent => ?_, Piece.hasPlaces (isPlain_pieces l columns c)⟩
  have count := Piece.count_flatMap_chars (q := q) (isPlain_pieces l columns c)
  rw [places.count_eq] at count
  have none := List.count_eq_zero.1 (Nat.left_eq_add.1 count)
  exact none (List.mem_flatMap.2 ⟨n, mem, percent_mem_nameChars.2 percent⟩)

/-- **The parameters come to their places** exactly if there is no percent sign in the names. -/
theorem filled?_text_iff (encode : Parameter → String) :
    filled? (c.text q l columns) (c.parameters.map encode) = some (c.bound q l columns encode) ↔
      ∀ n ∈ c.identifiers l columns, '%' ∉ n.toList := by
  have plain := isPlain_pieces l columns c
  rw [bound, filled?_eq_some_iff, toList_text, ← given_pieces l columns]
  refine ⟨fun fills n mem percent => ?_, Piece.fill_pieces encode plain⟩
  exact Nat.lt_irrefl _ ((Piece.fallsShort_of_fill_pieces plain fills).lt ⟨n, mem, percent⟩)

/-- **The statements that hold their parameters**, whatever these are, are those with no percent sign in
the names: every percent sign begins a place, there are as many places as parameters, and each parameter
comes to its own. -/
theorem holds_parameters_iff :
    (HasPlaces (c.text q l columns).toList c.parameters.length ↔
      ∀ n ∈ c.identifiers l columns, '%' ∉ n.toList) ∧
    ∀ encode : Parameter → String,
      filled? (c.text q l columns) (c.parameters.map encode) = some (c.bound q l columns encode) ↔
        ∀ n ∈ c.identifiers l columns, '%' ∉ n.toList :=
  ⟨hasPlaces_text_iff q l columns c, filled?_text_iff q l columns c⟩

/-- A table with a percent sign in its name. -/
def percentTable : Location := ⟨"databus", "a%"⟩

/-- A percent sign in the name of the table is taken for the beginning of a place, and nothing can be
filled in. -/
theorem not_holds_parameters_percentTable :
    let c := delete "x"
    let columns : Columns := ⟨"rowkey", "subscription", "value"⟩
    (c.text .standard percentTable columns = "DELETE FROM databus.\"a%\" WHERE rowkey = %s AND subscription = %s") ∧
      ¬HasPlaces (c.text .standard percentTable columns).toList c.parameters.length ∧
      filled? (c.text .standard percentTable columns) ["'subscriptions'", "'x'"] = none := by
  have mem : "a%" ∈ (delete "x").identifiers percentTable ⟨"rowkey", "subscription", "value"⟩ := by
    decide
  refine ⟨by decide, fun places => ?_, by decide⟩
  exact (hasPlaces_text_iff _ _ _ _).1 places "a%" mem (by decide)

end Command

end EventRoster.Cql
