import EventRoster.Shelf
import Mathlib.Data.List.Nodup

/-!
# Shelves are what is found on them

A shelf is known once it is known what is under each name, because its rows are sorted and hold no
name twice.  Facts about shelves are therefore stated about `get?`, and `Shelf.ext_get?` turns them
into facts about listings.
-/

namespace EventRoster.Shelf

universe u v

variable {α : Type u} {β : Type v}

/-! ## Rows -/

theorem findRow_eq_some_iff {rows : List (String × α)}
    (sorted : rows.Pairwise fun a b => a.1 < b.1) {name : String} {value : α} :
    findRow name rows = some value ↔ (name, value) ∈ rows := by
  induction rows with
  | nil => exact ⟨nofun, nofun⟩
  | cons head rest ih =>
    obtain ⟨n, v⟩ := head
    obtain ⟨first, others⟩ := List.pairwise_cons.1 sorted
    rw [findRow, List.mem_cons]
    by_cases hn : n = name
    · have absent : (name, value) ∉ rest := by
        intro member
        exact String.lt_irrefl name (hn ▸ first (name, value) member)
      rw [if_pos hn, hn]
      constructor
      · rintro ⟨rfl⟩
        exact .inl rfl
      · rintro (eq | member)
        · rw [(Prod.mk.inj eq).2]
        · exact absurd member absent
    · rw [if_neg hn, ih others]
      constructor
      · exact .inr
      · rintro (eq | member)
        · exact absurd (Prod.mk.inj eq).1.symm hn
        · exact member

/-- A row stands on a shelf exactly if its value is found under its name. -/
theorem mem_rows_iff {shelf : Shelf α} {name : String} {value : α} :
    (name, value) ∈ shelf.rows ↔ shelf.get? name = some value :=
  (findRow_eq_some_iff shelf.sorted).symm

/-- **Shelves with the same value under every name are equal.** -/
theorem ext_get? {s t : Shelf α} (h : ∀ name, s.get? name = t.get? name) : s = t := by
  have nodup : ∀ shelf : Shelf α, shelf.rows.Nodup := by
    intro shelf
    refine shelf.sorted.imp fun less same => ?_
    rw [same] at less
    exact String.lt_irrefl _ less
  have perm : s.rows.Perm t.rows := by
    refine (List.perm_ext_iff_of_nodup (nodup s) (nodup t)).2 ?_
    rintro ⟨name, value⟩
    rw [mem_rows_iff, mem_rows_iff, h]
  have rows : s.rows = t.rows := by
    refine List.Perm.eq_of_pairwise ?_ s.sorted t.sorted perm
    intro a b ha hb less more
    exact absurd (String.lt_trans less more) (String.lt_irrefl _)
  cases s
  cases t
  cases rows
  rfl

/-! ## Values under the same names -/

/-- The shelf with every value replaced by its image. -/
def map (f : α → β) (shelf : Shelf α) : Shelf β :=
  ⟨shelf.rows.map fun row => (row.1, f row.2), List.pairwise_map.2 shelf.sorted⟩

theorem get?_map (f : α → β) (shelf : Shelf α) (name : String) :
    (shelf.map f).get? name = (shelf.get? name).map f := by
  show findRow name (shelf.rows.map fun row => (row.1, f row.2)) = (findRow name shelf.rows).map f
  induction shelf.rows with
  | nil => rfl
  | cons head rest ih =>
    obtain ⟨n, v⟩ := head
    rw [List.map_cons, findRow, findRow]
    by_cases hn : n = name
    · rw [if_pos hn, if_pos hn]
      rfl
    · rw [if_neg hn, if_neg hn, ih]

end EventRoster.Shelf
