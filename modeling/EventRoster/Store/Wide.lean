import EventRoster.Database.Schema
import EventRoster.Record.Reader
import EventRoster.Record.Written
import EventRoster.Store.Operation

/-!
# The store in the wide-column database

Subscriptions are rows of one partition, with their names as keys and their records in the payload
column.  The rows are given a lifetime, and it is the database that drops them.

Nothing is sent before the columns of the table are known.  A record that cannot be read ends what it
was read for, and is noted unless its condition alone is at fault.

Two clocks are at work.  The expiry hint of a new subscription is told by the store's own clock; how
long rows live is told by the clock of the database.
-/

namespace EventRoster.Store

/-- The store in the wide-column database. -/
structure Wide where
  resolver : Schema.Resolver
  reader : ConditionReader
  /-- The settings that the session was acquired with, if it has to be given back. -/
  lease : Option Settings

namespace Wide

/-- A store with the cluster and the session that it uses. -/
structure Scene where
  store : Wide
  cluster : Cluster
  session : Session

/-- A store on a session.  It needs a keyspace, of its own or of the session, and a table. -/
def attach (session : Session) (keyspace table : Option String) (reader : ConditionReader)
    (lease : Option Settings) : Except Failure Wide :=
  let own := keyspace.filter (· ≠ "")
  match (own.or session.keyspace).filter (· ≠ "") with
  | none => .error (.ofRaised
      (.ofStandard .valueError "A keyspace is required when the session has none"))
  | some keyspace =>
    match table with
    | none => .error (.ofRaised (.ofStandard .attributeError "the table has no name"))
    | some table => .ok ⟨⟨⟨keyspace, table⟩, none⟩, reader, lease⟩

/-- The place of the table. -/
def place (w : Wide) : Cql.Location :=
  w.resolver.place

/-! ## Requests -/

/-- The resolver of the store and the cluster that it asks. -/
def Scene.view (s : Scene) : Schema.View :=
  ⟨s.store.resolver, s.cluster⟩

/-- The scene after the columns were asked for. -/
def Scene.withView (s : Scene) (v : Schema.View) : Scene :=
  { s with store := { s.store with resolver := v.resolver }, cluster := v.cluster }

section

variable (looking : Schema.Looking)

/-- The columns of the table, found in a cluster that looks in some way. -/
def columnsBy : Action Scene Cql.Columns :=
  Action.within Scene.view Scene.withView (Schema.resolveBy looking)

/-- Has the session execute a command. -/
def send (now : Int) (columns : Cql.Columns) (command : Cql.Command) : Action Scene (List Row) := do
  let s ← Action.state
  Action.within Scene.session (fun s session => { s with session })
    (Session.execute now s.store.place columns command)

/-- Finds the columns and has the session execute a command. -/
def requestBy (now : Int) (command : Cql.Command) : Action Scene (List Row) := do
  let cols ← columnsBy looking
  send now cols command

/-! ## Writing -/

/-- Puts a subscription under its name.  `own` is the time by the store's own clock. -/
def insertBy (own now : Int) (r : Registration) : Action Scene Unit := do
  let seconds := Lifetime.clampSeconds r.lifetime
  let cols ← columnsBy looking
  let payload ← Action.lift (Record.encode (r.subscription own))
  let _ ← send now cols (.insert r.name payload seconds)
  let s ← Action.state
  Action.note (.inserted s.store.place r.name seconds)

/-- Removes the subscription under a name. -/
def deleteBy (now : Int) (name : String) : Action Scene Unit := do
  let _ ← requestBy looking now (.delete name)
  let s ← Action.state
  Action.note (.deleted s.store.place name)

end

@[inherit_doc columnsBy]
def columns : Action Scene Cql.Columns :=
  columnsBy Schema.lookAgain

@[inherit_doc requestBy]
def request : Int → Cql.Command → Action Scene (List Row) :=
  requestBy Schema.lookAgain

@[inherit_doc insertBy]
def insert : Int → Int → Registration → Action Scene Unit :=
  insertBy Schema.lookAgain

@[inherit_doc deleteBy]
def delete : Int → String → Action Scene Unit :=
  deleteBy Schema.lookAgain

/-! ## Reading -/

/-- The subscription in a row.  A corrupt record is noted. -/
def readRow (row : Row) : Action Scene Subscription := do
  let s ← Action.state
  match Record.decode s.store.reader row.name row.payload with
  | .ok subscription => pure subscription
  | .error failure =>
    if failure.error.isA (.own .corruptRecordError) then
      Action.note (.corrupt s.store.place row.name failure.error.text)
      Action.fail failure
    else Action.fail failure

/-- What a listing shows of a row. -/
def readItem (what : Selection) (row : Row) : Action Scene Item :=
  match what with
  | .subscriptions => do
    let s ← readRow row
    pure (.subscription s)
  | .names => pure (.name row.name)

/-- The subscription under a name. -/
def get (now : Int) (name : String) : Action Scene (Option Subscription) := do
  let rows ← request now (.get name)
  match rows with
  | [] => pure none
  | row :: _ => do
    let s ← readRow row
    pure (some s)

/-- The command behind a listing. -/
def command : Selection → Cql.Command
  | .subscriptions => .list
  | .names => .names

/-- What a listing shows of some rows, up to the first that cannot be read. -/
def readItems (what : Selection) : List Row → Action Scene Listing
  | [] => pure ⟨[], none⟩
  | row :: rows => do
    match ← (readItem what row).attempt with
    | .error failure => pure ⟨[], some failure⟩
    | .ok item =>
      let l ← readItems what rows
      pure ⟨item :: l.items, l.stopped⟩

/-- Lists the subscriptions. -/
def list (now : Int) (what : Selection) : Action Scene Listing := do
  match ← (request now (command what)).attempt with
  | .error failure => pure ⟨[], some failure⟩
  | .ok rows => readItems what rows

/-- Performs an operation at some time by the store's own clock and by that of the database. -/
def perform (own now : Int) : Operation → Action Scene Answer
  | .insert r => do
    insert own now r
    pure .done
  | .delete name => do
    delete now name
    pure .done
  | .get name => do
    let s ← get now name
    pure (.found s)
  | .list what => do
    let l ← list now what
    pure (.listed l)

/-! ## Reading step by step -/

/-- A listing that is read step by step. -/
inductive Cursor
  | unopened (what : Selection)
  | opened (what : Selection) (rest : List Row)

/-- Reads an entry off the front of some rows.  A row that cannot be read is the last. -/
def takeItem (what : Selection) : List Row → Action Scene (Pull Cursor)
  | [] => pure ⟨.opened what [], .ok none⟩
  | row :: rest => do
    match ← (readItem what row).attempt with
    | .error failure => pure ⟨.opened what [], .error failure⟩
    | .ok item => pure ⟨.opened what rest, .ok (some item)⟩

/-- Reads the next entry of a listing.  The rows are those that were there when the first entry was
asked for. -/
def pull (now : Int) : Cursor → Action Scene (Pull Cursor)
  | .unopened what => do
    match ← (request now (command what)).attempt with
    | .error failure => pure ⟨.opened what [], .error failure⟩
    | .ok rows => takeItem what rows
  | .opened what rest => takeItem what rest

end Wide

end EventRoster.Store
