import EventRoster.Pool.Basic
import EventRoster.Settings.Environment
import EventRoster.Store.Memory
import EventRoster.Store.Wide
import EventRoster.StoreUrl.Basic

/-!
# The registry

Everything that stores of subscriptions share: the clock, the environment with the settings that were
made of it, the pool of sessions, and the stores that are open, under names.
-/

namespace EventRoster

/-- An open store.  A store in the wide-column database goes by the number of its session. -/
inductive Holding
  | memory (store : Store.Memory)
  | wide (session : Nat) (store : Store.Wide)

/-- A listing of an open store that is read step by step. -/
inductive Reading
  | memory (cursor : Store.Memory.Cursor)
  | wide (cursor : Store.Wide.Cursor)

/-- An open store with the listings that are being read. -/
structure Member where
  /-- The time at which the store's own clock stands, if it does not follow the shared one. -/
  clock : Option Int
  holding : Holding
  readings : Ledger String Reading

/-- What the stores share, and the stores. -/
structure Registry where
  now : Int
  environment : Environment
  /-- The settings that were made of the environment when they were first needed. -/
  defaults : Option Settings
  site : Pool.Site
  members : Ledger String Member

namespace Registry

open EventRoster.Failure EventRoster.Store

/-- The registry before anything is opened. -/
def start (now : Int) (environment : Environment) (tables : Catalog) : Registry :=
  ⟨now, environment, none, ⟨.empty, .bare tables⟩, []⟩

/-- Has the pool do something. -/
def onSite {α : Type} (a : Action Pool.Site α) : Action Registry α :=
  Action.within Registry.site (fun r site => { r with site }) a

/-- Changes the grid. -/
def changeGrid (f : Grid → Grid) : Action Registry Unit :=
  onSite (Pool.onGrid (Action.change f))

/-- The open store of a name. -/
def member (name : String) : Action Registry Member := do
  let r ← Action.state
  match r.members.get? name with
  | some m => pure m
  | none => Action.fail (.ofRaised (.ofStandard .keyError name))

/-- Keeps an open store under a name. -/
def keep (name : String) (m : Member) : Action Registry Unit :=
  Action.change fun r => { r with members := r.members.put name m }

/-- The time by the clock of an open store. -/
def timeOf (m : Member) (r : Registry) : Int :=
  m.clock.getD r.now

/-! ## Settings -/

/-- The settings that the environment makes, once they have been made. -/
def defaultSettings : Action Registry Settings := do
  let r ← Action.state
  match r.defaults with
  | some settings => pure settings
  | none =>
    let settings ← Action.lift (Settings.ofEnvironment r.environment)
    Action.change fun r => { r with defaults := some settings }
    pure settings

/-- Forgets the settings that were made of the environment. -/
def forgetDefaults : Action Registry Unit :=
  Action.change fun r => { r with defaults := none }

/-! ## Opening and closing -/

/-- A store on the session for some settings.  The session stays acquired if the store cannot be. -/
def openWide (settings : Settings) (reader : Option ConditionReader) : Action Registry Holding := do
  let id ← onSite (Pool.acquire settings)
  let r ← Action.state
  let session := (r.site.grid.session? id).getD (.opened id 0 settings.keyspace)
  let reader := reader.getD Condition.reader
  let store ← Action.lift
    (Wide.attach session settings.keyspace settings.table reader (some settings))
  pure (.wide id store)

/-- What is passed on to a store that is opened, besides its clock. -/
structure Passed where
  reader : Option ConditionReader
  /-- The names of whatever else is passed on.  No store has a place for any of it. -/
  others : List String

/-- The failure to open a store that is passed something under a name which it does not know. -/
def misplaced (name : String) : Failure :=
  .ofRaised (.ofStandard .typeError s!"the store has no place for {name}")

/-- The name that the kind of the store itself is passed under.  It cannot be passed once more, which
is noticed before anything is done. -/
def kindName : String := "cls"

/-- A store on the session for some settings, with whatever is passed on.  What the store has no place
for is refused when the session has been acquired. -/
def openWideWith (settings : Settings) (p : Passed) : Action Registry Holding :=
  if p.others.contains kindName then Action.fail (misplaced kindName)
  else
    match p.others with
    | [] => openWide settings p.reader
    | name :: _ => do
      let _ ← onSite (Pool.acquire settings)
      Action.fail (misplaced name)

/-- A store in memory, with whatever is passed on.  It reads no conditions, and has no place for a
reader of them. -/
def openMemory (p : Passed) : Action Registry Holding :=
  if p.reader.isSome then Action.fail (misplaced "filter_parser")
  else
    match p.others with
    | [] => pure (.memory .empty)
    | name :: _ => Action.fail (misplaced name)

/-- The settings that an address or settings ask for; without either, those that the environment
makes.  An address of the store in memory asks for none. -/
def choose (url : Option String) (settings : Option Settings) :
    Action Registry (Option Settings) := do
  match url with
  | some url => do
    let backend ← Action.lift (StoreUrl.backend url)
    match backend with
    | .memory => pure none
    | .cassandra => do
      let merged ← Action.lift (StoreUrl.settings url (settings.getD {}))
      pure (some merged)
  | none =>
    match settings with
    | some settings => pure (some settings)
    | none => do
      let settings ← defaultSettings
      pure (some settings)

/-- The store that an address or settings name; without either, the environment does. -/
def openStoreWith (url : Option String) (settings : Option Settings) (p : Passed) :
    Action Registry Holding := do
  match ← choose url settings with
  | none => openMemory p
  | some settings => openWideWith settings p

/-- The store that an address or settings name, with nothing passed on but a reader. -/
def openStore (url : Option String) (settings : Option Settings) (reader : Option ConditionReader) :
    Action Registry Holding :=
  openStoreWith url settings ⟨reader, []⟩

/-- Closes an open store: a session that it holds is given back, once. -/
def close (name : String) : Action Registry Unit := do
  let m ← member name
  match m.holding with
  | .memory _ => pure ()
  | .wide id store =>
    match store.lease with
    | none => pure ()
    | some settings => do
      onSite (Pool.release settings)
      keep name { m with holding := .wide id { store with lease := none } }

/-! ## Stores at work -/

/-- A store on a session with the cluster and the session. -/
def scene (id : Nat) (store : Wide) (r : Registry) : Wide.Scene :=
  let session := (r.site.grid.session? id).getD (.opened id 0 none)
  let cluster := (r.site.grid.cluster? session.cluster).getD (.made session.cluster .empty)
  ⟨store, cluster, session⟩

/-- The registry after a store on a session has been at work. -/
def withScene (name : String) (m : Member) (r : Registry) (s : Wide.Scene) : Registry :=
  { r with
    site := { r.site with grid := (r.site.grid.withCluster s.cluster).withSession s.session }
    members := r.members.put name { m with holding := .wide s.session.id s.store } }

/-- Has the named store on a session do something. -/
def onWide {α : Type} (name : String) (m : Member) (id : Nat) (store : Wide)
    (a : Action Wide.Scene α) : Action Registry α :=
  Action.within (scene id store) (withScene name m) a

/-- Has the named store in memory do something. -/
def onMemory {α : Type} (name : String) (m : Member) (store : Memory) (a : Action Memory α) :
    Action Registry α :=
  Action.within (fun _ => store)
    (fun r store => { r with members := r.members.put name { m with holding := .memory store } }) a

/-- Has the named store perform an operation. -/
def perform (name : String) (op : Operation) : Action Registry Answer := do
  let m ← member name
  let r ← Action.state
  match m.holding with
  | .memory store => onMemory name m store (Memory.perform (timeOf m r) op)
  | .wide id store => onWide name m id store (Wide.perform (timeOf m r) r.now op)

/-- Begins to read a listing step by step. -/
def openListing (name reading : String) (what : Selection) : Action Registry Unit := do
  let m ← member name
  let cursor := match m.holding with
    | .memory _ => Reading.memory (.unopened what)
    | .wide .. => Reading.wide (.unopened what)
  keep name { m with readings := m.readings.put reading cursor }

/-- Puts back a listing of which an entry has been read. -/
def keepReading (name reading : String) (cursor : Reading) : Action Registry Unit := do
  let m ← member name
  keep name { m with readings := m.readings.put reading cursor }

/-- Reads the next entry of a listing, if there is one. -/
def pull (name reading : String) : Action Registry (Option Item) := do
  let m ← member name
  let r ← Action.state
  match m.holding, m.readings.get? reading with
  | .memory store, some (.memory cursor) => do
    let p ← onMemory name m store (Memory.pull (timeOf m r) cursor)
    keepReading name reading (.memory p.rest)
    Action.lift p.outcome
  | .wide id store, some (.wide cursor) => do
    let p ← onWide name m id store (Wide.pull r.now cursor)
    keepReading name reading (.wide p.rest)
    Action.lift p.outcome
  | _, _ => Action.fail (.ofRaised (.ofStandard .keyError reading))

/-- Leaves a listing unread.  Nothing more is read of it. -/
def dropListing (name reading : String) : Action Registry Unit := do
  let m ← member name
  let cursor := match m.holding with
    | .memory _ => Reading.memory (.opened [])
    | .wide .. => Reading.wide (.opened .names [])
  keep name { m with readings := m.readings.put reading cursor }

/-- Has the named store do something that only stores in the wide-column database do. -/
def onlyWide {α : Type} (name : String) (a : Action Wide.Scene α) : Action Registry α := do
  let m ← member name
  match m.holding with
  | .wide id store => onWide name m id store a
  | .memory _ =>
    Action.fail (.ofRaised (.ofStandard .attributeError "the store in memory has no columns"))

end Registry

end EventRoster
