import EventRoster.Cql.Command

/-!
# What statements are put together from

The statement for a command is put together from texts that are the same whatever the table is called,
from names, and from the places of the parameters.  What can go wrong with a statement can only come from
the names, since there are few of the other texts and all of them are known.

* `toList_text`: the pieces make up the statement.
* `isPlain_pieces`: the templates have no percent signs of their own.
* `Quoting.protect_injective`: different names do not stand for each other.
-/

namespace EventRoster.Cql

/-! ## Names -/

section Names

variable {a b : List Char} {c : Char}

theorem doubled_cons (c : Char) (name : List Char) :
    doubled (c :: name) = (if c = '"' then ['"', '"'] else [c]) ++ doubled name :=
  List.flatMap_cons

/-- Doubling quotes puts in no other characters. -/
theorem mem_doubled : c ∈ doubled a ↔ c ∈ a := by
  rw [doubled, List.mem_flatMap]
  constructor
  · rintro ⟨d, mem, among⟩
    split at among
    · next quote =>
      obtain rfl : c = '"' := by simpa using among
      exact quote ▸ mem
    · rwa [List.mem_singleton.1 among]
  · refine fun mem => ⟨c, mem, ?_⟩
    split
    · next quote => exact quote ▸ List.mem_cons_self
    · exact List.mem_singleton_self c

theorem doubled_injective (h : doubled a = doubled b) : a = b := by
  induction a generalizing b with
  | nil =>
    cases b with
    | nil => rfl
    | cons d b =>
      rw [doubled_cons] at h
      split at h <;> cases h
  | cons c a ih =>
    cases b with
    | nil =>
      rw [doubled_cons] at h
      split at h <;> cases h
    | cons d b =>
      rw [doubled_cons, doubled_cons] at h
      by_cases first : c = '"' <;> by_cases second : d = '"'
      · rw [if_pos first, if_pos second] at h
        rw [first, second, ih (List.append_cancel_left h)]
      · rw [if_pos first, if_neg second] at h
        exact absurd (List.cons.inj h).1.symm second
      · rw [if_neg first, if_pos second] at h
        exact absurd (List.cons.inj h).1 first
      · rw [if_neg first, if_neg second] at h
        obtain ⟨rfl, same⟩ := List.cons.inj h
        rw [ih same]

/-- The rest of a word, and perhaps a line feed at its end. -/
theorem exists_of_isWordRest (h : isWordRest a = true) :
    ∃ rest, (∀ c ∈ rest, isWordPart c = true) ∧ (a = rest ∨ a = rest ++ ['\n']) := by
  fun_induction isWordRest a with
  | case1 => exact ⟨[], List.forall_mem_nil _, .inl rfl⟩
  | case2 => exact ⟨[], List.forall_mem_nil _, .inr rfl⟩
  | case3 c s _ ih =>
    obtain ⟨part, later⟩ := Bool.and_eq_true_iff.1 h
    obtain ⟨rest, parts, same⟩ := ih later
    refine ⟨c :: rest, List.forall_mem_cons.2 ⟨part, parts⟩, ?_⟩
    exact same.imp (congrArg (c :: ·)) (congrArg (c :: ·))

/-- A word, and perhaps a line feed at its end. -/
theorem exists_of_isWord (h : isWord a = true) :
    ∃ first rest, isWordStart first = true ∧ (∀ c ∈ rest, isWordPart c = true) ∧
      (a = first :: rest ∨ a = first :: (rest ++ ['\n'])) := by
  match a, h with
  | first :: s, word =>
    obtain ⟨start, later⟩ := Bool.and_eq_true_iff.1 word
    obtain ⟨rest, parts, same⟩ := exists_of_isWordRest later
    exact ⟨first, rest, start, parts, same.imp (congrArg (first :: ·)) (congrArg (first :: ·))⟩

/-- A word is not in quotes. -/
theorem ne_enclosed_of_isWord (word : isWord a = true) : a ≠ enclosed b := by
  rintro rfl
  rw [enclosed, isWord, show isWordStart '"' = false by decide] at word
  cases word

namespace Quoting

variable {q : Quoting}

theorem nameChars_injective (h : q.nameChars a = q.nameChars b) : a = b := by
  rcases q.bare_or_enclosed a with ⟨word, -, same⟩ | same <;>
    rcases q.bare_or_enclosed b with ⟨word', -, same'⟩ | same' <;> rw [same, same'] at h
  · exact h
  · exact absurd h (ne_enclosed_of_isWord word)
  · exact absurd h.symm (ne_enclosed_of_isWord word')
  · exact doubled_injective (List.append_cancel_right (List.cons.inj h).2)

/-- **Different names do not stand for each other** in statements. -/
theorem protect_injective {a b : String} (h : q.protect a = q.protect b) : a = b :=
  String.toList_injective (nameChars_injective (String.ofList_injective h))

end Quoting

end Names

/-! ## Pieces -/

/-- A piece of a statement. -/
inductive Piece
  /-- A text that does not depend on the table. -/
  | fixed (s : String)
  /-- The name of a keyspace, table or column. -/
  | name (n : String)
  /-- The place of a parameter. -/
  | place (p : Parameter)

namespace Piece

/-- A piece as it stands in a statement. -/
def chars (q : Quoting) : Piece → List Char
  | fixed s => s.toList
  | name n => q.nameChars n.toList
  | place _ => ['%', 's']

/-- A piece with the parameter at its place. -/
def bound (q : Quoting) (encode : Parameter → String) : Piece → List Char
  | fixed s => s.toList
  | name n => q.nameChars n.toList
  | place p => (encode p).toList

/-- The name that a piece is. -/
def name? : Piece → Option String
  | name n => some n
  | _ => none

/-- The parameter that a piece is the place of. -/
def parameter? : Piece → Option Parameter
  | place p => some p
  | _ => none

/-- Whether a piece has no percent sign that comes from its template. -/
def isPlain : Piece → Bool
  | fixed s => !s.toList.contains '%'
  | _ => true

end Piece

/-- The pieces of the place of a table. -/
def Location.pieces (l : Location) : List Piece :=
  [.name l.keyspace, .fixed ".", .name l.table]

namespace Command

/-- The pieces of the statement for a command, with each parameter at its own place. -/
def pieces (l : Location) (columns : Columns) (c : Command) : List Piece :=
  let key := .name columns.partitionKey
  let name := .name columns.subscriptionKey
  let payload := .name columns.payload
  let inPartition := [.fixed " WHERE ", key, .fixed " = ", .place (.text partition)]
  match c with
  | insert given record seconds =>
    .fixed "INSERT INTO " :: (l.pieces ++
      [.fixed " (", key, .fixed ", ", name, .fixed ", ", payload, .fixed ") VALUES (",
        .place (.text partition), .fixed ", ", .place (.text given), .fixed ", ",
        .place (.text record), .fixed ") USING TTL ", .place (.number seconds)])
  | delete given =>
    .fixed "DELETE FROM " :: (l.pieces ++ inPartition ++
      [.fixed " AND ", name, .fixed " = ", .place (.text given)])
  | get given =>
    .fixed "SELECT " :: name :: .fixed ", " :: payload :: .fixed " FROM " ::
      (l.pieces ++ inPartition ++ [.fixed " AND ", name, .fixed " = ", .place (.text given)])
  | list =>
    .fixed "SELECT " :: name :: .fixed ", " :: payload :: .fixed " FROM " ::
      (l.pieces ++ inPartition)
  | names => .fixed "SELECT " :: name :: .fixed " FROM " :: (l.pieces ++ inPartition)

/-- The names in the statement for a command. -/
def identifiers (l : Location) (columns : Columns) (c : Command) : List String :=
  (c.pieces l columns).filterMap Piece.name?

/-- The statement for a command with each parameter in its own place. -/
def bound (q : Quoting) (l : Location) (columns : Columns) (encode : Parameter → String)
    (c : Command) : String :=
  String.ofList ((c.pieces l columns).flatMap (Piece.bound q encode))

variable (q : Quoting) (l : Location) (columns : Columns) (c : Command)

/-- **The pieces make up the statement.** -/
theorem toList_text :
    (c.text q l columns).toList = (c.pieces l columns).flatMap (Piece.chars q) := by
  unfold text
  cases c <;>
    simp [toString, pieces, Piece.chars, Location.text, Location.pieces, Columns.protect,
      Quoting.protect]

/-- The places are those of the parameters, one after the other. -/
theorem filterMap_parameter?_pieces :
    (c.pieces l columns).filterMap Piece.parameter? = c.parameters := by
  cases c <;> rfl

/-- No template has a percent sign of its own. -/
theorem isPlain_pieces : ∀ p ∈ c.pieces l columns, p.isPlain = true := by
  refine List.all_eq_true.1 ?_
  cases c <;> rfl

end Command

end EventRoster.Cql
