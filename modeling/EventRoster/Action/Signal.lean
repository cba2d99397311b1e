import EventRoster.Cql.Command
import EventRoster.Settings

/-!
# Signals

What an operation lets others see of it, apart from its answer: what the database was asked to do,
and what was written to the log.  An operation's signals are a list in the order in which they were
given.
-/

namespace EventRoster

/-- What the database is asked to do. -/
inductive Event
  | refreshed (place : Cql.Location)
  | clusterMade (cluster : Nat) (settings : Settings)
  | connected (cluster : Nat) (keyspace : Option String)
  | executed (session : Nat) (place : Cql.Location) (columns : Cql.Columns) (command : Cql.Command)
  | sessionShut (session : Nat)
  | clusterShut (cluster : Nat)

/-- How much a notice matters. -/
inductive Level
  | debug
  | info
  | warning
  | error
  | critical
deriving DecidableEq, Repr

namespace Level

/-- The name of the level. -/
def name : Level → String
  | debug => "debug"
  | info => "info"
  | warning => "warning"
  | error => "error"
  | critical => "critical"

/-- The level as a number. -/
def severity : Level → Int
  | debug => 10
  | info => 20
  | warning => 30
  | error => 40
  | critical => 50

/-- All levels. -/
def every : List Level :=
  [debug, info, warning, error, critical]

/-- The level of that name. -/
def ofName? (name : String) : Option Level :=
  every.find? (·.name = name)

end Level

/-- What is written to the log. -/
inductive Notice
  | schemaResolved (place : Cql.Location) (columns : Cql.Columns)
  | schemaUnresolved (place : Cql.Location) (reason : String)
  | inserted (place : Cql.Location) (subscription : String) (seconds : Int)
  | deleted (place : Cql.Location) (subscription : String)
  | corrupt (place : Cql.Location) (subscription error : String)
  | sessionOpened (settings : Settings)

namespace Notice

/-- How much the notice matters. -/
def level : Notice → Level
  | schemaResolved .. | sessionOpened .. => .info
  | schemaUnresolved .. => .error
  | inserted .. | deleted .. => .debug
  | corrupt .. => .warning

/-- What the notice is called. -/
def event : Notice → String
  | schemaResolved .. => "schema_resolved"
  | schemaUnresolved .. => "schema_resolution_failed"
  | inserted .. => "subscription_inserted"
  | deleted .. => "subscription_deleted"
  | corrupt .. => "corrupt_subscription_record"
  | sessionOpened .. => "cassandra_session_opened"

/-- The place of a table as part of a notice. -/
def placed (l : Cql.Location) (fields : Json.Members) : Json.Members :=
  ("keyspace", .text l.keyspace) :: ("table", .text l.table) :: fields

/-- What the notice tells. -/
def fields : Notice → Json.Members
  | schemaResolved l columns => placed l
      [("partition_key", .text columns.partitionKey),
        ("subscription_key", .text columns.subscriptionKey), ("payload", .text columns.payload)]
  | schemaUnresolved l reason => placed l [("reason", .text reason)]
  | inserted l subscription seconds => placed l
      [("subscription", .text subscription), ("ttl", .int seconds)]
  | deleted l subscription => placed l [("subscription", .text subscription)]
  | corrupt l subscription error => placed l
      [("subscription", .text subscription), ("error", .text error)]
  | sessionOpened settings =>
    [("hosts", .array (settings.hosts.map Json.ofString)), ("port", .int settings.port),
      ("keyspace", (settings.keyspace.map Json.ofString).getD .null)]

/-- The notice as a JSON object. -/
def entry (n : Notice) : Json :=
  .object (("event", .text n.event) :: ("log_level", .text n.level.name) :: n.fields)

end Notice

/-- A signal. -/
inductive Signal
  | event (e : Event)
  | notice (n : Notice)

/-- The events among some signals. -/
def Signal.events (signals : List Signal) : List Event :=
  signals.filterMap fun
    | event e => some e
    | notice _ => none

/-- The notices among some signals. -/
def Signal.notices (signals : List Signal) : List Notice :=
  signals.filterMap fun
    | event _ => none
    | notice n => some n

@[simp] theorem Signal.events_append (a b : List Signal) :
    Signal.events (a ++ b) = Signal.events a ++ Signal.events b :=
  List.filterMap_append

@[simp] theorem Signal.notices_append (a b : List Signal) :
    Signal.notices (a ++ b) = Signal.notices a ++ Signal.notices b :=
  List.filterMap_append

end EventRoster
