/-!
# Sorted shelves

A shelf keeps values under names, at most one under each, in the order of the names by code points.
Both the rows of a store and the cells of a partition are shelves, so that listing in name order is
reading the shelf from its front.

The lookup laws `get?_put`, `get?_erase` and `get?_filter` have no hypothesis: order and uniqueness
are part of the type.
-/

namespace EventRoster

universe u

/-- Values under names, in name order. -/
structure Shelf (α : Type u) where
  rows : List (String × α)
  sorted : rows.Pairwise fun a b => a.1 < b.1

namespace Shelf

variable {α : Type u}

/-! ## Rows -/

/-- Rows with a value put under a name. -/
def insertRow (name : String) (value : α) : List (String × α) → List (String × α)
  | [] => [(name, value)]
  | (n, v) :: rest =>
    if name < n then (name, value) :: (n, v) :: rest
    else if name = n then (name, value) :: rest
    else (n, v) :: insertRow name value rest

/-- The value of the first row with a name. -/
def findRow (name : String) : List (String × α) → Option α
  | [] => none
  | (n, v) :: rest => if n = name then some v else findRow name rest

theorem mem_insertRow {name : String} {value : α} {rows : List (String × α)} {row : String × α}
    (h : row ∈ insertRow name value rows) : row = (name, value) ∨ row ∈ rows := by
  induction rows with
  | nil => exact .inl (by simpa [insertRow] using h)
  | cons head rest ih =>
    rw [insertRow] at h
    split at h
    · rcases List.mem_cons.1 h with h | h
      · exact .inl h
      · exact .inr h
    · split at h
      · rcases List.mem_cons.1 h with h | h
        · exact .inl h
        · exact .inr (List.mem_cons_of_mem _ h)
      · rcases List.mem_cons.1 h with h | h
        · exact .inr (h ▸ List.mem_cons_self)
        · rcases ih h with h | h
          · exact .inl h
          · exact .inr (List.mem_cons_of_mem _ h)

/-- Of two different names one comes first. -/
theorem lt_of_not_lt_of_ne {a b : String} (notLess : ¬ a < b) (different : a ≠ b) : b < a := by
  refine Classical.byContradiction fun h => different ?_
  exact String.le_antisymm (String.not_lt.1 h) (String.not_lt.1 notLess)

theorem sorted_insertRow {name : String} {value : α} {rows : List (String × α)}
    (h : rows.Pairwise fun a b => a.1 < b.1) :
    (insertRow name value rows).Pairwise fun a b => a.1 < b.1 := by
  induction rows with
  | nil => simp [insertRow]
  | cons head rest ih =>
    obtain ⟨first, others⟩ := List.pairwise_cons.1 h
    rw [insertRow]
    split
    · rename_i less
      refine List.pairwise_cons.2 ⟨fun row member => ?_, h⟩
      rcases List.mem_cons.1 member with rfl | member
      · exact less
      · exact String.lt_trans less (first row member)
    · rename_i notLess
      split
      · rename_i same
        refine List.pairwise_cons.2 ⟨fun row member => ?_, others⟩
        exact same ▸ first row member
      · rename_i different
        refine List.pairwise_cons.2 ⟨fun row member => ?_, ih others⟩
        rcases mem_insertRow member with rfl | member
        · exact lt_of_not_lt_of_ne notLess different
        · exact first row member

theorem findRow_insertRow (name other : String) (value : α) (rows : List (String × α)) :
    findRow other (insertRow name value rows) =
      if name = other then some value else findRow other rows := by
  induction rows with
  | nil => simp [insertRow, findRow]
  | cons head rest ih =>
    obtain ⟨n, v⟩ := head
    rw [insertRow]
    split
    · by_cases ho : name = other <;> simp [findRow, ho]
    · split
      · rename_i same
        subst same
        by_cases ho : name = other <;> simp [findRow, ho]
      · rename_i different
        by_cases hn : n = other
        · subst hn
          simp [findRow, different]
        · simp [findRow, hn, ih]

theorem findRow_eq_none {name : String} {rows : List (String × α)}
    (h : ∀ row ∈ rows, row.1 ≠ name) : findRow name rows = none := by
  induction rows with
  | nil => rfl
  | cons head rest ih =>
    simp only [List.mem_cons, ne_eq] at h
    rw [findRow, if_neg (h head (.inl rfl)), ih fun row member => h row (.inr member)]

theorem findRow_filter {rows : List (String × α)} (sorted : rows.Pairwise fun a b => a.1 < b.1)
    (keep : String → α → Bool) (name : String) :
    findRow name (rows.filter fun row => keep row.1 row.2) =
      (findRow name rows).filter (keep name) := by
  induction rows with
  | nil => rfl
  | cons head rest ih =>
    obtain ⟨n, v⟩ := head
    obtain ⟨first, others⟩ := List.pairwise_cons.1 sorted
    have absent : findRow n rest = none :=
      findRow_eq_none fun row member same =>
        String.lt_irrefl _ (same ▸ first row member)
    by_cases hn : n = name
    · subst hn
      cases hk : keep n v
      · rw [List.filter_cons_of_neg (by simp [hk]), ih others, absent]
        simp [findRow, Option.filter, hk]
      · rw [List.filter_cons_of_pos (by simpa using hk)]
        simp [findRow, Option.filter, hk]
    · cases hk : keep n v
      · rw [List.filter_cons_of_neg (by simp [hk]), ih others]
        simp [findRow, hn]
      · rw [List.filter_cons_of_pos (by simpa using hk)]
        simp [findRow, hn, ih others]

/-! ## Shelves -/

/-- The shelf with nothing on it. -/
def empty : Shelf α :=
  ⟨[], List.Pairwise.nil⟩

instance : EmptyCollection (Shelf α) := ⟨empty⟩

instance : Inhabited (Shelf α) := ⟨empty⟩

/-- The value under a name. -/
def get? (shelf : Shelf α) (name : String) : Option α :=
  findRow name shelf.rows

/-- Puts a value under a name, in place of any that is there. -/
def put (shelf : Shelf α) (name : String) (value : α) : Shelf α :=
  ⟨insertRow name value shelf.rows, sorted_insertRow shelf.sorted⟩

/-- Keeps the values that pass a test. -/
def filter (shelf : Shelf α) (keep : String → α → Bool) : Shelf α :=
  ⟨shelf.rows.filter fun row => keep row.1 row.2, shelf.sorted.sublist List.filter_sublist⟩

/-- Removes the value under a name. -/
def erase (shelf : Shelf α) (name : String) : Shelf α :=
  shelf.filter fun n _ => n != name

/-- The names, in order. -/
def names (shelf : Shelf α) : List String :=
  shelf.rows.map (·.1)

/-- The values, in name order. -/
def values (shelf : Shelf α) : List α :=
  shelf.rows.map (·.2)

@[simp] theorem get?_empty (name : String) : (empty : Shelf α).get? name = none := rfl

@[simp] theorem get?_put (shelf : Shelf α) (name other : String) (value : α) :
    (shelf.put name value).get? other = if name = other then some value else shelf.get? other :=
  findRow_insertRow name other value shelf.rows

@[simp] theorem get?_filter (shelf : Shelf α) (keep : String → α → Bool) (name : String) :
    (shelf.filter keep).get? name = (shelf.get? name).filter (keep name) :=
  findRow_filter shelf.sorted keep name

@[simp] theorem get?_erase (shelf : Shelf α) (name other : String) :
    (shelf.erase name).get? other = if other = name then none else shelf.get? other := by
  rw [erase, get?_filter]
  by_cases h : other = name
  · cases shelf.get? other <;> simp [h]
  · cases shelf.get? other <;> simp [h]

/-- Names are listed in order, each once. -/
theorem pairwise_names (shelf : Shelf α) : shelf.names.Pairwise (· < ·) :=
  List.pairwise_map.2 shelf.sorted

end Shelf

end EventRoster
