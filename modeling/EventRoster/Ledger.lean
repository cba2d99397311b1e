/-!
# Ledgers

A ledger holds values under keys, in the order in which the keys were entered.  Entering a value under
a key that is there already keeps the key's place; a key that was struck out and is entered again goes
to the end.
-/

namespace EventRoster

universe u v

/-- Values under keys, in the order of entry. -/
abbrev Ledger (κ : Type u) (α : Type v) := List (κ × α)

namespace Ledger

variable {κ : Type u} {α : Type v} [DecidableEq κ]

/-- The value under a key. -/
def get? : Ledger κ α → κ → Option α
  | [], _ => none
  | (k, v) :: rest, key => if k = key then some v else get? rest key

/-- Enters a value under a key. -/
def put : Ledger κ α → κ → α → Ledger κ α
  | [], key, value => [(key, value)]
  | (k, v) :: rest, key, value =>
    if k = key then (k, value) :: rest else (k, v) :: put rest key value

/-- Strikes out the value under a key. -/
def erase (ledger : Ledger κ α) (key : κ) : Ledger κ α :=
  ledger.filter (·.1 ≠ key)

/-- The keys, in the order of entry. -/
def keys (ledger : Ledger κ α) : List κ :=
  ledger.map (·.1)

/-- The values, in the order of entry. -/
def values (ledger : Ledger κ α) : List α :=
  ledger.map (·.2)

@[simp] theorem get?_nil (key : κ) : get? ([] : Ledger κ α) key = none := rfl

@[simp] theorem get?_put (ledger : Ledger κ α) (key other : κ) (value : α) :
    get? (put ledger key value) other = if key = other then some value else get? ledger other := by
  induction ledger with
  | nil => simp [put, get?]
  | cons head rest ih =>
    obtain ⟨k, v⟩ := head
    by_cases hk : k = key
    · subst hk
      by_cases ho : k = other <;> simp [put, get?, ho]
    · by_cases ho : k = other
      · subst ho
        simp [put, get?, hk, Ne.symm hk]
      · simp [put, get?, hk, ho, ih]

@[simp] theorem get?_erase (ledger : Ledger κ α) (key other : κ) :
    get? (erase ledger key) other = if key = other then none else get? ledger other := by
  induction ledger with
  | nil => simp [erase]
  | cons head rest ih =>
    obtain ⟨k, v⟩ := head
    rw [erase] at ih ⊢
    by_cases hk : k = key
    · subst hk
      rw [List.filter_cons_of_neg (by simp), ih, get?]
      by_cases ho : k = other <;> simp [ho]
    · rw [List.filter_cons_of_pos (by simpa using hk), get?, get?, ih]
      by_cases ho : k = other
      · subst ho
        simp [Ne.symm hk]
      · simp [ho]

end Ledger

end EventRoster
