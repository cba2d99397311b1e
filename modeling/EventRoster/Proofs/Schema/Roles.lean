import EventRoster.Proofs.Schema.Binding
import Mathlib.Data.List.Nodup

/-!
# Which columns take the roles

Two lists of a table are read by position: the first two columns of its primary key, and the third of
all its columns for the payload.  A cluster lists the columns of the primary key in front of the others,
so that the three roles go to the first three columns of the table, which are three different ones.

The third column is beyond the key only if the key has no third column.  Keys of more than two columns
are not refused, and then the payload takes a column of the key.

* `Table.Binds.exists_eq`: what the two lists of a table look like.
* `Table.Binds.getElem?_primaryKey`: a third column of the key takes the payload.
* `payload_not_mem_primaryKey_iff`: when the payload is apart from the key.
-/

namespace EventRoster

/-- A table as its cluster lists it: no column twice, and those of the primary key in front. -/
structure Table.IsListed (t : Table) : Prop where
  nodup : t.columns.Nodup
  begins : t.primaryKey <+: t.columns

section Roles

variable {t : Table} {columns : Cql.Columns}

/-- The key begins with the first two roles, and all columns begin with the three; what the key has
besides begins what all columns have besides the first two. -/
theorem Table.Binds.exists_eq (binds : t.Binds columns) (listed : t.IsListed) :
    ∃ key others, t.primaryKey = columns.partitionKey :: columns.subscriptionKey :: key ∧
      t.columns = columns.names ++ others ∧ key <+: columns.payload :: others := by
  obtain ⟨place, key, all⟩ := t
  obtain ⟨first, second, third⟩ := binds
  obtain ⟨behind, whole⟩ := listed.begins
  dsimp only at first second third whole ⊢
  match key, first, second with
  | _ :: _ :: key, rfl, rfl =>
    obtain rfl := whole
    cases beyond : key ++ behind with
    | nil =>
      rw [List.cons_append, List.cons_append, beyond] at third
      cases third
    | cons payload others =>
      rw [List.cons_append, List.cons_append, beyond] at third ⊢
      obtain rfl := Option.some.inj third
      exact ⟨key, others, rfl, rfl, behind, beyond⟩

/-- The roles are three different columns. -/
theorem Table.Binds.nodup_names (binds : t.Binds columns) (listed : t.IsListed) :
    columns.names.Nodup := by
  obtain ⟨key, others, -, all, -⟩ := binds.exists_eq listed
  have distinct := listed.nodup
  rw [all] at distinct
  exact distinct.of_append_left

/-- A third column of the key takes the payload. -/
theorem Table.Binds.getElem?_primaryKey (binds : t.Binds columns) (listed : t.IsListed)
    (long : t.primaryKey.length ≠ 2) : t.primaryKey[2]? = some columns.payload := by
  obtain ⟨key, others, isKey, -, behind, whole⟩ := binds.exists_eq listed
  rw [isKey] at long ⊢
  cases key with
  | nil => exact absurd rfl long
  | cons third key => exact congrArg some (List.cons.inj whole).1

/-- The payload is apart from a key of two columns. -/
theorem Table.Binds.payload_not_mem (binds : t.Binds columns) (listed : t.IsListed)
    (short : t.primaryKey.length = 2) : columns.payload ∉ t.primaryKey := by
  obtain ⟨key, others, isKey, -, -⟩ := binds.exists_eq listed
  have distinct : [columns.partitionKey, columns.subscriptionKey, columns.payload].Nodup :=
    binds.nodup_names listed
  rw [isKey] at short ⊢
  obtain rfl : key = [] := List.length_eq_zero_iff.1 (Nat.succ.inj (Nat.succ.inj short))
  simp only [List.nodup_cons, List.mem_cons, List.not_mem_nil, or_false, not_or] at distinct
  obtain ⟨⟨-, notFirst⟩, notSecond, -⟩ := distinct
  simp only [List.mem_cons, List.not_mem_nil, or_false, not_or]
  exact ⟨Ne.symm notFirst, Ne.symm notSecond⟩

end Roles

namespace Schema

variable {looking : Looking} {v : View} {t : Table} {columns : Cql.Columns}

/-- A call reads one table. -/
theorem View.Reads.unique {other : Table} (reads : v.Reads looking t)
    (reads' : v.Reads looking other) : t = other := by
  rcases reads with there | ⟨missing, -, brought⟩ <;>
    rcases reads' with there' | ⟨missing', -, brought'⟩
  · exact Option.some.inj (there.symm.trans there')
  · exact absurd (there.symm.trans missing') (Option.some_ne_none t)
  · exact absurd (there'.symm.trans missing) (Option.some_ne_none other)
  · exact Option.some.inj (brought.symm.trans brought')

/-- **The roles are three different columns, and the payload is apart from the key exactly if the key
has two columns**, whenever the columns of a listed table are found. -/
theorem payload_not_mem_primaryKey_iff (unbound : v.resolver.columns = none)
    (reads : v.Reads looking t) (listed : t.IsListed)
    (succeeds : ((resolveBy looking).run v).result = .ok columns) :
    columns.names.Nodup ∧ (columns.payload ∉ t.primaryKey ↔ t.primaryKey.length = 2) := by
  obtain ⟨other, reads', binds⟩ := (called_resolveBy looking v).exists_binds unbound succeeds
  obtain rfl := reads.unique reads'
  refine ⟨binds.nodup_names listed, fun apart => ?_, binds.payload_not_mem listed⟩
  by_contra long
  exact apart (List.mem_of_getElem? (binds.getElem?_primaryKey listed long))

/-- A resolver that has not been asked yet, on a cluster that knows of one table. -/
def viewOf (t : Table) : View :=
  ⟨⟨t.place, none⟩, .made 1 (.ofTables [t])⟩

/-- A table with a key of two columns and two columns besides. -/
def plainTable : Table :=
  ⟨⟨"databus", "subscription"⟩, ["key", "column1"], ["key", "column1", "value", "added"]⟩

theorem payload_not_mem_primaryKey_iff_plainTable :
    (viewOf plainTable).resolver.columns = none ∧ (viewOf plainTable).Reads lookAgain plainTable ∧
      plainTable.IsListed ∧
      (resolve.run (viewOf plainTable)).result = .ok ⟨"key", "column1", "value"⟩ ∧
      "value" ∉ plainTable.primaryKey := by
  have reads : (viewOf plainTable).Reads lookAgain plainTable := .inl (by decide)
  have listed : plainTable.IsListed := ⟨by decide, by decide⟩
  have succeeds : (resolve.run (viewOf plainTable)).result = .ok ⟨"key", "column1", "value"⟩ := by
    decide
  exact ⟨rfl, reads, listed, succeeds,
    (payload_not_mem_primaryKey_iff rfl reads listed succeeds).2.2 rfl⟩

/-- A table with a key of three columns and one column besides. -/
def versionedTable : Table :=
  ⟨⟨"databus", "subscription"⟩, ["rowkey", "subscription", "version"],
    ["rowkey", "subscription", "version", "value"]⟩

/-- A column of the key takes the payload. -/
theorem payload_mem_primaryKey_versionedTable :
    versionedTable.IsListed ∧ (viewOf versionedTable).Reads lookAgain versionedTable ∧
      (resolve.run (viewOf versionedTable)).result = .ok ⟨"rowkey", "subscription", "version"⟩ ∧
      "version" ∈ versionedTable.primaryKey :=
  ⟨⟨by decide, by decide⟩, .inl (by decide), by decide, by decide⟩

end Schema

end EventRoster
