import EventRoster.Action.Basic
import EventRoster.Database.Session

/-!
# Resolving the columns of the table

Tables of subscriptions go by different column names, so the names are found by position: the first
two columns of the primary key, and the third of all columns for the payload.  They are looked up when
they are first needed.  A table that is not in the catalog is asked for once more before giving up.
What has been found stays; a failure does not.
-/

namespace EventRoster.Schema

open EventRoster.Failure

/-- Why a table cannot be used. -/
inductive Fault
  | noTable
  | shortKey (columns : Nat)
  | noPayload (columns : Nat)
deriving DecidableEq, Repr

/-- The words for a fault of the table at a place. -/
def Fault.message (place : Cql.Location) : Fault → String
  | noTable => s!"Table {place.keyspace}.{place.table} does not exist"
  | shortKey columns =>
    s!"Table {place.keyspace}.{place.table} has {columns} primary key column(s), " ++
      "expected a partition key and a clustering key"
  | noPayload columns =>
    s!"Table {place.keyspace}.{place.table} has {columns} column(s), expected a payload column"

/-- The failure that a fault of the table at a place is. -/
def Fault.failure (place : Cql.Location) (f : Fault) : Failure :=
  .ofRaised (.schema (f.message place) (some place.keyspace) (some place.table) none)

/-- The columns of a table in their roles. -/
def columnsOf (t : Table) : Except Fault Cql.Columns :=
  match t.primaryKey with
  | partitionKey :: subscriptionKey :: _ =>
    match t.columns with
    | _ :: _ :: payload :: _ => .ok ⟨partitionKey, subscriptionKey, payload⟩
    | columns => .error (.noPayload columns.length)
  | key => .error (.shortKey key.length)

/-- The columns of the table at a place of a catalog. -/
def columnsIn (c : Catalog) (place : Cql.Location) : Except Fault Cql.Columns :=
  match c.find? place with
  | some table => columnsOf table
  | none => .error .noTable

/-- The place of a table, and its columns if they have been found. -/
structure Resolver where
  place : Cql.Location
  columns : Option Cql.Columns
deriving DecidableEq, Repr

/-- A resolver with the cluster that it asks. -/
structure View where
  resolver : Resolver
  cluster : Cluster

/-- What a second look at a cluster comes to: whether it goes well, and the cluster afterwards. -/
structure Sight where
  result : Except Failure Unit
  cluster : Cluster

/-- How a cluster looks once more for the table at a place. -/
abbrev Looking := Cql.Location → Cluster → Sight

/-- A look that goes well, and brings what the cluster is about to know of. -/
def lookAgain : Looking := fun place c =>
  ⟨.ok (), c.refreshed place⟩

/-- Looks for the table in the catalog, after a second look at the cluster if it is not there. -/
def lookBy (looking : Looking) : Action View (Except Fault Cql.Columns) := do
  let v ← Action.state
  let place := v.resolver.place
  match v.cluster.catalog.find? place with
  | some table => pure (columnsOf table)
  | none =>
    Action.report (.refreshed place)
    let sight := looking place v.cluster
    Action.change fun v => { v with cluster := sight.cluster }
    Action.lift sight.result
    let v ← Action.state
    pure (columnsIn v.cluster.catalog place)

/-- The columns of the table, found in a cluster that looks in some way. -/
def resolveBy (looking : Looking) : Action View Cql.Columns := do
  let v ← Action.state
  match v.resolver.columns with
  | some columns => pure columns
  | none =>
    let place := v.resolver.place
    match ← lookBy looking with
    | .ok columns =>
      Action.note (.schemaResolved place columns)
      Action.change fun v => { v with resolver := { v.resolver with columns := some columns } }
      pure columns
    | .error fault =>
      Action.note (.schemaUnresolved place (fault.message place))
      Action.fail (fault.failure place)

/-- The columns of the table. -/
def resolve : Action View Cql.Columns :=
  resolveBy lookAgain

/-- A resolver that has found the columns answers with them and does nothing else. -/
theorem resolveBy_of_resolved (looking : Looking) {v : View} {columns : Cql.Columns}
    (h : v.resolver.columns = some columns) : (resolveBy looking).run v = ⟨.ok columns, v, []⟩ := by
  rw [resolveBy, Action.run_bind_of_ok (Action.run_state v)]
  simp [h]

end EventRoster.Schema
