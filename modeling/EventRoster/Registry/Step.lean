import EventRoster.Registry.Basic

/-!
# Steps

Everything that can be asked of the registry, as one type: what is done with stores, with the pool of
sessions, with the settings, and with the database behind the stores.  A step has an outcome or fails;
either way it gives the signals of what it has done.
-/

namespace EventRoster

open EventRoster.Store

/-- What happens to the database behind a store. -/
inductive Upheaval
  | putCell (partition name : String) (payload : Record.Payload) (seconds : Int)
  | failWith (failure : Option Failure)
  | putTable (table : Table)
  | announce (table : Table)
  | dropTable (place : Cql.Location)
  | dropKeyspace (keyspace : String)

namespace Upheaval

/-- What a store sees of it. -/
def apply (now : Int) (u : Upheaval) (s : Wide.Scene) : Wide.Scene :=
  match u with
  | putCell partition name payload seconds =>
    let cells := (s.session.partition partition).put now name payload seconds
    { s with session := s.session.withPartition partition cells }
  | failWith failure => { s with session := { s.session with failing := failure } }
  | putTable table =>
    { s with cluster := { s.cluster with catalog := s.cluster.catalog.put table } }
  | announce table => { s with cluster := { s.cluster with pending := some table } }
  | dropTable place =>
    { s with cluster := { s.cluster with catalog := s.cluster.catalog.drop place } }
  | dropKeyspace keyspace =>
    { s with cluster := { s.cluster with catalog := s.cluster.catalog.dropKeyspace keyspace } }

end Upheaval

/-- What is asked of one store. -/
inductive StoreStep
  | perform (op : Operation)
  | openListing (reading : String) (what : Selection)
  | pull (reading : String)
  | dropListing (reading : String)
  | resolve
  | columns
  | resolved
  | close
  | enter
  | upheaval (u : Upheaval)

/-- What is asked of the registry. -/
inductive Step
  | on (store : String) (step : StoreStep)
  | advance (millis : Int)
  | setEnvironment (environment : Environment)
  | defaultSettings
  | forgetDefaults
  | acquire (settings : Settings)
  | release (settings : Settings)
  | closeAll
  | resetPool
  | refuse (count : Nat)
  | create (name : String) (url : Option String) (settings : Option Settings)
      (reader : Option ConditionReader) (clock : Option Int)
  | fromSettings (name : String) (settings : Settings) (reader : Option ConditionReader)
      (clock : Option Int)

/-- What a step comes to when it does not fail. -/
inductive Outcome
  | done
  | found (s : Option Subscription)
  | listed (l : Listing)
  | pulled (item : Option Item)
  | columns (c : Cql.Columns)
  | place (l : Cql.Location) (resolved : Bool)
  | same (b : Bool)
  | session (id : Nat)
  | settings (s : Settings)
  | opened (h : Holding)

/-- The outcome of an operation. -/
def Outcome.ofAnswer : Answer → Outcome
  | .done => done
  | .found s => found s
  | .listed l => listed l

namespace Registry

/-- Takes a step with one store. -/
def storeStep (name : String) : StoreStep → Action Registry Outcome
  | .perform op => do
    let a ← perform name op
    pure (.ofAnswer a)
  | .openListing reading what => do
    openListing name reading what
    pure .done
  | .pull reading => do
    let item ← pull name reading
    pure (.pulled item)
  | .dropListing reading => do
    dropListing name reading
    pure .done
  | .resolve => do
    let c ← onlyWide name Wide.columns
    pure (.columns c)
  | .columns => do
    let c ← onlyWide name Wide.columns
    pure (.columns (c.protect .standard))
  | .resolved => do
    let s ← onlyWide name Action.state
    pure (.place s.store.place s.store.resolver.columns.isSome)
  | .close => do
    close name
    pure .done
  | .enter => do
    close name
    pure (.same true)
  | .upheaval u => do
    let r ← Action.state
    onlyWide name (Action.change (u.apply r.now))
    pure .done

/-- Opens a store under a name. -/
def keepOpened (name : String) (clock : Option Int) (opening : Action Registry Holding) :
    Action Registry Outcome := do
  let holding ← opening
  keep name ⟨clock, holding, []⟩
  pure (.opened holding)

/-- Takes a step. -/
def step : Step → Action Registry Outcome
  | .on store s => storeStep store s
  | .advance millis => do
    Action.change fun r => { r with now := r.now + millis }
    pure .done
  | .setEnvironment environment => do
    Action.change fun r => { r with environment }
    pure .done
  | .defaultSettings => do
    let s ← defaultSettings
    pure (.settings s)
  | .forgetDefaults => do
    forgetDefaults
    pure .done
  | .acquire settings => do
    let id ← onSite (Pool.acquire settings)
    pure (.session id)
  | .release settings => do
    onSite (Pool.release settings)
    pure .done
  | .closeAll => do
    onSite Pool.closeAll
    pure .done
  | .resetPool => do
    onSite Pool.closeAll
    pure (.same false)
  | .refuse count => do
    changeGrid fun g => { g with connecting := List.replicate count (some Grid.noHost) }
    pure .done
  | .create name url settings reader clock => keepOpened name clock (openStore url settings reader)
  | .fromSettings name settings reader clock => keepOpened name clock (openWide settings reader)

/-- What the steps of a list come to, one after the other.  A step that fails does not keep the next
from being taken. -/
def replies : Registry → List (Except Failure Step) → List (Reply Registry Outcome)
  | _, [] => []
  | r, .error failure :: steps => ⟨.error failure, r, []⟩ :: replies r steps
  | r, .ok s :: steps =>
    let reply := (step s).run r
    reply :: replies reply.state steps

/-! ## Stores opened by themselves -/

/-- The registry with one store in memory. -/
def withMemory (now : Int) (name : String) : Registry :=
  { start now [] .empty with members := [(name, ⟨none, .memory .empty, []⟩)] }

/-- The registry with one cluster and one session with it. -/
def withSession (now : Int) (tables : Catalog) (keyspace : Option String) : Registry :=
  let r := start now [] tables
  { r with site := { r.site with grid := r.site.grid.addCluster.addSession 1 keyspace } }

/-- Opens a store on a session. -/
def attach (name : String) (session : Nat) (keyspace table : Option String)
    (reader : ConditionReader) : Action Registry Outcome :=
  keepOpened name none do
    let r ← Action.state
    let session := (r.site.grid.session? session).getD (.opened session 0 none)
    let store ← Action.lift (Wide.attach session keyspace table reader none)
    pure (.wide session.id store)

end Registry

end EventRoster
