import EventRoster.Action.Basic
import EventRoster.Database.Catalog
import EventRoster.Record.Payload
import EventRoster.Shelf

/-!
# Sessions

What stores need of the wide-column database.  A session keeps one cell for each name in a partition,
hides it from the millisecond on at which its lifetime ends, and lists a partition in the order of the
names.  It may be made to fail: then it reports what it was asked, and does nothing.
-/

namespace EventRoster

/-- The payload under a name, and the time from which on it is hidden. -/
structure Cell where
  payload : Record.Payload
  deadline : Int
deriving DecidableEq, Repr

/-- The cells of a partition by their names. -/
abbrev Partition := Shelf Cell

/-- A cell that is not hidden, with its name. -/
structure Row where
  name : String
  payload : Record.Payload
deriving DecidableEq, Repr

namespace Partition

/-- Puts a cell that lives for some seconds. -/
def put (p : Partition) (now : Int) (name : String) (payload : Record.Payload) (seconds : Int) :
    Partition :=
  Shelf.put p name ⟨payload, now + seconds * 1000⟩

/-- The rows that are not hidden at a time, in the order of their names. -/
def live (p : Partition) (now : Int) : List Row :=
  (p.rows.filter fun (_, cell) => decide (now < cell.deadline)).map fun (name, cell) =>
    ⟨name, cell.payload⟩

/-- The row under a name, unless it is hidden at a time. -/
def liveAt (p : Partition) (now : Int) (name : String) : List Row :=
  match Shelf.get? p name with
  | some cell => if now < cell.deadline then [⟨name, cell.payload⟩] else []
  | none => []

/-- What a command makes of the partition, and the rows that it finds. -/
def execute (p : Partition) (now : Int) : Cql.Command → Partition × List Row
  | .insert name payload seconds => (p.put now name (.text payload) seconds, [])
  | .delete name => (Shelf.erase p name, [])
  | .get name => (p, p.liveAt now name)
  | .list | .names => (p, p.live now)

end Partition

/-- A session with the database. -/
structure Session where
  id : Nat
  /-- The cluster that the session is with. -/
  cluster : Nat
  keyspace : Option String
  partitions : Shelf Partition
  failing : Option Failure

namespace Session

/-- A new session. -/
def opened (id cluster : Nat) (keyspace : Option String) : Session :=
  ⟨id, cluster, keyspace, ∅, none⟩

/-- A partition, which is empty unless something was put into it. -/
def partition (s : Session) (key : String) : Partition :=
  (s.partitions.get? key).getD ∅

/-- The session with another content of a partition. -/
def withPartition (s : Session) (key : String) (p : Partition) : Session :=
  { s with partitions := s.partitions.put key p }

/-- Asks the session to execute a command on a table at some time. -/
def execute (now : Int) (place : Cql.Location) (columns : Cql.Columns) (command : Cql.Command) :
    Action Session (List Row) := do
  let s ← Action.state
  Action.report (.executed s.id place columns command)
  match s.failing with
  | some failure => Action.fail failure
  | none =>
    let (p, rows) := (s.partition Cql.partition).execute now command
    Action.change fun s => s.withPartition Cql.partition p
    pure rows

@[simp] theorem partition_withPartition (s : Session) (key : String) (p : Partition) :
    (s.withPartition key p).partition key = p := by
  simp [partition, withPartition]

end Session

/-- A cluster: its tables, and a table that it will know of after the next look. -/
structure Cluster where
  id : Nat
  catalog : Catalog
  pending : Option Table

namespace Cluster

/-- A new cluster. -/
def made (id : Nat) (catalog : Catalog) : Cluster :=
  ⟨id, catalog, none⟩

/-- The cluster after a look for a table at a place. -/
def refreshed (c : Cluster) (place : Cql.Location) : Cluster :=
  match c.pending with
  | some table =>
    if table.place = place then { c with catalog := c.catalog.put table, pending := none } else c
  | none => c

end Cluster

end EventRoster
