import EventRoster.Cql.Command

/-!
# Catalogs

The catalog of a cluster knows the tables of each keyspace: the columns of their primary keys and all
their columns, in order.  A table holds no column twice.
-/

namespace EventRoster

/-- A table as a catalog knows it. -/
structure Table where
  place : Cql.Location
  primaryKey : List String
  columns : List String
deriving DecidableEq, Repr

/-- The tables of a cluster, with at most one at each place. -/
structure Catalog where
  tables : List Table
deriving DecidableEq, Repr

/-- A table with some columns, each taken once. -/
def Table.of (place : Cql.Location) (primaryKey columns : List String) : Table :=
  ⟨place, primaryKey, columns.eraseDups⟩

namespace Catalog

/-- The catalog without tables. -/
def empty : Catalog :=
  ⟨[]⟩

/-- The table at a place. -/
def find? (c : Catalog) (place : Cql.Location) : Option Table :=
  c.tables.find? (·.place = place)

/-- Puts a table at its place. -/
def put (c : Catalog) (t : Table) : Catalog :=
  ⟨t :: c.tables.filter (·.place ≠ t.place)⟩

/-- Removes the table at a place. -/
def drop (c : Catalog) (place : Cql.Location) : Catalog :=
  ⟨c.tables.filter (·.place ≠ place)⟩

/-- Removes all tables of a keyspace. -/
def dropKeyspace (c : Catalog) (keyspace : String) : Catalog :=
  ⟨c.tables.filter (·.place.keyspace ≠ keyspace)⟩

/-- The catalog of some tables, the last of which counts at each place. -/
def ofTables (tables : List Table) : Catalog :=
  tables.foldl put empty

@[simp] theorem find?_put_self (c : Catalog) (t : Table) : (c.put t).find? t.place = some t := by
  simp [find?, put]

end Catalog

end EventRoster
