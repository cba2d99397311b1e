import EventRoster.Ledger
import Mathlib.Data.List.Nodup

/-!
# Ledgers as lists

What is found in a ledger is known from `get?`.  Its keys and values as lists matter where everything
in it is gone through, or counted.  They are tied to `get?` here, for ledgers that hold no key twice.

* `mem_keys_iff` and `mem_values_iff`: what stands in the lists.
* `keys_put` and `keys_erase`: entering and striking out as they change the list of keys.
* `values_perm_erase`: striking out takes one value away.
* `countP_put_of_get?`: entering changes one entry.
-/

namespace EventRoster.Ledger

universe u v

variable {κ : Type u} {α : Type v} [DecidableEq κ] {ledger : Ledger κ α} {key : κ} {value : α}

/-! ## What is in a ledger -/

theorem mem_of_get? (h : ledger.get? key = some value) : (key, value) ∈ ledger := by
  induction ledger with
  | nil => cases h
  | cons head rest ih =>
    obtain ⟨k, v⟩ := head
    rw [get?] at h
    split at h
    · next same =>
      cases h
      rw [same]
      exact List.mem_cons_self
    · exact List.mem_cons_of_mem _ (ih h)

theorem get?_eq_none_iff : ledger.get? key = none ↔ key ∉ ledger.keys := by
  induction ledger with
  | nil => exact ⟨fun _ => List.not_mem_nil, fun _ => rfl⟩
  | cons head rest ih =>
    obtain ⟨k, v⟩ := head
    have keys : Ledger.keys ((k, v) :: rest) = k :: Ledger.keys rest := rfl
    rw [get?, keys, List.mem_cons, not_or, ← ih]
    by_cases same : k = key
    · simp [same]
    · simp [same, Ne.symm same]

/-- A key stands in a ledger exactly if something is found under it. -/
theorem mem_keys_iff : key ∈ ledger.keys ↔ ∃ value, ledger.get? key = some value := by
  rw [← Option.ne_none_iff_exists', ne_eq, get?_eq_none_iff, not_not]

/-- In a ledger that holds no key twice, every entry is found. -/
theorem get?_of_mem (nodup : ledger.keys.Nodup) (h : (key, value) ∈ ledger) :
    ledger.get? key = some value := by
  induction ledger with
  | nil => cases h
  | cons head rest ih =>
    obtain ⟨k, v⟩ := head
    obtain ⟨absent, others⟩ := List.nodup_cons.1 nodup
    rw [get?]
    rcases List.mem_cons.1 h with eq | member
    · cases eq
      rw [if_pos rfl]
    · have listed : key ∈ Ledger.keys rest := List.mem_map_of_mem member
      have different : k ≠ key := by
        rintro rfl
        exact absent listed
      rw [if_neg different]
      exact ih others member

/-- A value stands in a ledger exactly if it is found under some key. -/
theorem mem_values_iff (nodup : ledger.keys.Nodup) :
    value ∈ ledger.values ↔ ∃ key, ledger.get? key = some value := by
  constructor
  · intro h
    obtain ⟨⟨key, v⟩, member, rfl⟩ := List.mem_map.1 h
    exact ⟨key, get?_of_mem nodup member⟩
  · rintro ⟨key, h⟩
    exact List.mem_map_of_mem (mem_of_get? h)

/-! ## Entering and striking out -/

/-- A new key goes to the end. -/
theorem put_of_get?_eq_none (h : ledger.get? key = none) (value : α) :
    ledger.put key value = ledger ++ [(key, value)] := by
  induction ledger with
  | nil => rfl
  | cons head rest ih =>
    obtain ⟨k, v⟩ := head
    rw [get?] at h
    split at h
    · cases h
    · next different => rw [put, if_neg different, ih h, List.cons_append]

/-- Entering what is there already changes nothing. -/
theorem put_of_get?_eq_some (h : ledger.get? key = some value) : ledger.put key value = ledger := by
  induction ledger with
  | nil => cases h
  | cons head rest ih =>
    obtain ⟨k, v⟩ := head
    rw [get?] at h
    rw [put]
    split at h
    · next same =>
      obtain rfl := Option.some.inj h
      rw [if_pos same]
    · next different => rw [if_neg different, ih h]

theorem keys_put (ledger : Ledger κ α) (key : κ) (value : α) :
    (ledger.put key value).keys =
      if key ∈ ledger.keys then ledger.keys else ledger.keys ++ [key] := by
  by_cases member : key ∈ ledger.keys
  · rw [if_pos member]
    induction ledger with
    | nil => cases member
    | cons head rest ih =>
      obtain ⟨k, v⟩ := head
      rw [put]
      split
      · rfl
      · next different =>
        have later : key ∈ Ledger.keys rest := (List.mem_cons.1 member).resolve_left (Ne.symm different)
        exact congrArg (k :: ·) (ih later)
  · rw [if_neg member, put_of_get?_eq_none (get?_eq_none_iff.2 member)]
    exact List.map_append

theorem mem_keys_put {other : κ} :
    other ∈ (ledger.put key value).keys ↔ other = key ∨ other ∈ ledger.keys := by
  rw [mem_keys_iff, mem_keys_iff, get?_put]
  by_cases same : key = other
  · simp [same]
  · simp [same, Ne.symm same]

/-- What stands in a ledger after an entry was made is the entry or stood there before. -/
theorem eq_or_mem_values_of_mem_put {other : α} (h : other ∈ (ledger.put key value).values) :
    other = value ∨ other ∈ ledger.values := by
  induction ledger with
  | nil => exact .inl (List.mem_singleton.1 h)
  | cons head rest ih =>
    obtain ⟨k, v⟩ := head
    rw [put] at h
    split at h
    · exact (List.mem_cons.1 h).imp_right (List.mem_cons_of_mem v)
    · rcases List.mem_cons.1 h with rfl | later
      · exact .inr List.mem_cons_self
      · exact (ih later).imp_right (List.mem_cons_of_mem v)

theorem mem_keys_erase {other : κ} :
    other ∈ (ledger.erase key).keys ↔ other ≠ key ∧ other ∈ ledger.keys := by
  rw [mem_keys_iff, mem_keys_iff, get?_erase]
  by_cases same : key = other
  · simp [same]
  · simp [same, Ne.symm same]

theorem keys_erase (ledger : Ledger κ α) (key : κ) :
    (ledger.erase key).keys = ledger.keys.filter (· ≠ key) := by
  rw [keys, keys, List.filter_map]
  rfl

theorem nodup_keys_erase (nodup : ledger.keys.Nodup) (key : κ) : (ledger.erase key).keys.Nodup := by
  rw [keys_erase]
  exact nodup.filter _

/-- There is nothing to strike out where nothing was entered. -/
theorem erase_of_get?_eq_none (h : ledger.get? key = none) : ledger.erase key = ledger := by
  refine List.filter_eq_self.2 ?_
  intro entry member
  have absent := get?_eq_none_iff.1 h
  refine decide_eq_true ?_
  rintro rfl
  exact absent (List.mem_map_of_mem member)

/-- Striking out takes the value under the key away, and no other. -/
theorem values_perm_erase (nodup : ledger.keys.Nodup) (h : ledger.get? key = some value) :
    ledger.values.Perm (value :: (ledger.erase key).values) := by
  induction ledger with
  | nil => cases h
  | cons head rest ih =>
    obtain ⟨k, v⟩ := head
    obtain ⟨absent, others⟩ := List.nodup_cons.1 nodup
    rw [get?] at h
    split at h
    · next same =>
      obtain rfl := Option.some.inj h
      subst same
      have kept : Ledger.erase ((k, v) :: rest) k = rest := by
        rw [erase, List.filter_cons_of_neg (by simp)]
        exact erase_of_get?_eq_none (get?_eq_none_iff.2 absent)
      rw [kept]
      rfl
    · next different =>
      have kept : Ledger.erase ((k, v) :: rest) key = (k, v) :: Ledger.erase rest key := by
        rw [erase, List.filter_cons_of_pos (by simpa using different)]
        rfl
      rw [kept]
      exact ((ih others h).cons v).trans (List.Perm.swap value v _)

/-! ## Counting -/

/-- Entering a value under a new key adds an entry. -/
theorem countP_put_of_get?_eq_none (p : κ × α → Bool) (h : ledger.get? key = none) (value : α) :
    (ledger.put key value).countP p = ledger.countP p + if p (key, value) then 1 else 0 := by
  rw [put_of_get?_eq_none h, List.countP_append, List.countP_singleton]

/-- Entering a value under a key that is there changes its entry. -/
theorem countP_put_of_get? (p : κ × α → Bool) {old : α} (h : ledger.get? key = some old)
    (value : α) :
    (ledger.put key value).countP p + (if p (key, old) then 1 else 0) =
      ledger.countP p + if p (key, value) then 1 else 0 := by
  induction ledger with
  | nil => cases h
  | cons head rest ih =>
    obtain ⟨k, v⟩ := head
    rw [get?] at h
    rw [put]
    split at h
    · next same =>
      cases h
      rw [if_pos same, same, List.countP_cons, List.countP_cons]
      omega
    · next different =>
      have later := ih h
      rw [if_neg different, List.countP_cons, List.countP_cons]
      omega

/-- Entering a value adds one to what is counted at most. -/
theorem countP_put_le (p : κ × α → Bool) (ledger : Ledger κ α) (key : κ) (value : α) :
    (ledger.put key value).countP p ≤ ledger.countP p + if p (key, value) then 1 else 0 := by
  cases found : ledger.get? key with
  | none => exact Nat.le_of_eq (countP_put_of_get?_eq_none p found value)
  | some old =>
    have counted := countP_put_of_get? p found value
    omega

end EventRoster.Ledger
