import EventRoster.Cql.Name
import EventRoster.Text.CodePoint

/-!
# Commands to the subscription table

The table has three columns of interest: the partition key, which is the same for all subscriptions,
the clustering key, which is the name, and the payload.  Five commands are sent to it, each as a
statement with places for its parameters.
-/

namespace EventRoster.Cql

/-- The place of a table. -/
structure Location where
  keyspace : String
  table : String
deriving DecidableEq, Repr

/-- The columns of a subscription table. -/
structure Columns where
  partitionKey : String
  subscriptionKey : String
  payload : String
deriving DecidableEq, Repr

namespace Columns

/-- The columns as they stand in statements. -/
def protect (q : Quoting) (c : Columns) : Columns :=
  ⟨q.protect c.partitionKey, q.protect c.subscriptionKey, q.protect c.payload⟩

/-- The names of the columns. -/
def names (c : Columns) : List String :=
  [c.partitionKey, c.subscriptionKey, c.payload]

end Columns

/-- The place of a table as it stands in statements. -/
def Location.text (q : Quoting) (l : Location) : String :=
  q.protect l.keyspace ++ "." ++ q.protect l.table

/-- The partition of all subscriptions. -/
def partition : String := "subscriptions"

/-- The agreement among replicas that every command asks for. -/
def consistency : String := "LOCAL_QUORUM"

/-- A command to the table. -/
inductive Command
  | insert (name : String) (payload : Text) (seconds : Int)
  | delete (name : String)
  | get (name : String)
  | list
  | names
deriving DecidableEq, Repr

/-- The value of a parameter. -/
inductive Parameter
  | text (s : Text)
  | number (n : Int)
deriving DecidableEq, Repr

namespace Command

/-- The statement for a command, with `%s` at the place of each parameter. -/
def text (q : Quoting) (l : Location) (columns : Columns) (c : Command) : String :=
  let table := l.text q
  let cols := columns.protect q
  match c with
  | insert .. =>
    s!"INSERT INTO {table} ({cols.partitionKey}, {cols.subscriptionKey}, {cols.payload}) " ++
      "VALUES (%s, %s, %s) USING TTL %s"
  | delete _ =>
    s!"DELETE FROM {table} WHERE {cols.partitionKey} = %s AND {cols.subscriptionKey} = %s"
  | get _ =>
    s!"SELECT {cols.subscriptionKey}, {cols.payload} FROM {table} " ++
      s!"WHERE {cols.partitionKey} = %s AND {cols.subscriptionKey} = %s"
  | list =>
    s!"SELECT {cols.subscriptionKey}, {cols.payload} FROM {table} WHERE {cols.partitionKey} = %s"
  | names => s!"SELECT {cols.subscriptionKey} FROM {table} WHERE {cols.partitionKey} = %s"

/-- The parameters of a command, in the order of their places. -/
def parameters : Command → List Parameter
  | insert name payload seconds => [.text partition, .text name, .text payload, .number seconds]
  | delete name | get name => [.text partition, .text name]
  | list | names => [.text partition]

/-- The number of rows that are fetched at a time. -/
def fetchSize : Command → Option Nat
  | list => some 200
  | names => some 5000
  | _ => none

end Command

end EventRoster.Cql
