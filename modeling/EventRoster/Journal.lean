import EventRoster.Action.Signal

/-!
# The journal

Events are written to the journal if they matter enough, each as one line: readable, or as a JSON
object.  A line tells what was passed with the event, what the logger was bound to, and what was bound
to the context; of these, what is said closest to the event wins.  The name of the event, its level
and its time cannot be overridden.
-/

namespace EventRoster

/-- How lines are written. -/
inductive Form
  | readable
  | json
deriving DecidableEq, Repr

/-- How events are written, and what is told with all of them. -/
structure Journal where
  form : Form := .readable
  /-- The severity below which events are not written. -/
  threshold : Int := Level.info.severity
  context : Json.Members := []

namespace Journal

/-- Chooses how events are written. -/
def configure (j : Journal) (form : Form) (threshold : Int) : Journal :=
  { j with form, threshold }

/-- Adds to what is told with all events. -/
def bind (j : Journal) (fields : Json.Members) : Journal :=
  { j with context := Json.merge j.context fields }

/-- Takes from what is told with all events. -/
def unbind (j : Journal) (names : List Text) : Journal :=
  { j with context := Json.without j.context names }

/-- Tells nothing with all events. -/
def clear (j : Journal) : Journal :=
  { j with context := [] }

/-- What the logger of a table is bound to. -/
def tableFields (place : Cql.Location) : Json.Members :=
  [("keyspace", .text place.keyspace), ("table", .text place.table)]

/-- The line for an event at some time, with what the logger was bound to and what was passed. -/
def line (j : Journal) (time : Json) (level : Level) (event : String) (bound passed : Json.Members) :
    Json.Members :=
  let told := Json.bind (Json.merge bound passed) "event" (.text event)
  Json.bind (Json.bind (Json.merge j.context told) "level" (.text level.name)) "timestamp" time

/-- Whether events of a level are written. -/
def writes (j : Journal) (level : Level) : Bool :=
  j.threshold ≤ level.severity

/-- The names that belong to the event itself, under which nothing else can be passed.  One of them is
not looked at before the event is written. -/
def reserved (j : Journal) (level : Level) : List Text :=
  if j.writes level then ["self", "event", "method_name"] else ["self", "event"]

/-- The line for an event, if it matters enough to be written. -/
def line? (j : Journal) (time : Json) (level : Level) (event : String)
    (bound passed : Json.Members) : Except Failure (Option Json.Members) :=
  match passed.find? fun (name, _) => (j.reserved level).contains name with
  | some (name, _) => .error (.ofRaised (.ofStandard .typeError s!"{Text.quoted name} is passed twice"))
  | none => .ok (if j.writes level then some (j.line time level event bound passed) else none)

end Journal

end EventRoster
