import EventRoster.Database.Grid
import EventRoster.Ledger

/-!
# The pool of sessions

Stores that reach the same cluster in the same way share a connection to it, and those that also use
the same keyspace share a session.  The pool counts the holders of each session, shuts a session when
the last of them gives it back, and shuts a cluster when no session with it is left.

Clusters are told apart by `Settings.clusterKey`, sessions by that and the keyspace.
-/

namespace EventRoster

/-- What sessions are told apart by. -/
structure SessionKey where
  cluster : Settings.ClusterKey
  keyspace : Option String
deriving DecidableEq, Repr

/-- The key of the session that some settings ask for. -/
def Settings.sessionKey (s : Settings) : SessionKey :=
  ⟨s.clusterKey, s.keyspace⟩

/-- The clusters and sessions in use, by their numbers, and the number of holders of each session. -/
structure Pool where
  clusters : Ledger Settings.ClusterKey Nat
  sessions : Ledger SessionKey Nat
  holders : Ledger SessionKey Nat
deriving DecidableEq

namespace Pool

/-- The pool with nothing in it. -/
def empty : Pool :=
  ⟨[], [], []⟩

/-- The number of holders of a session. -/
def held (p : Pool) (key : SessionKey) : Nat :=
  (p.holders.get? key).getD 0

/-- The pool with one more holder of a session. -/
def hold (p : Pool) (key : SessionKey) : Pool :=
  { p with holders := p.holders.put key (p.held key + 1) }

/-- Whether a session with a cluster is in use. -/
def usesCluster (p : Pool) (key : Settings.ClusterKey) : Bool :=
  p.sessions.any (·.1.cluster = key)

/-- A pool with the grid that it draws on. -/
structure Site where
  pool : Pool
  grid : Grid

/-- Changes the pool. -/
def change (f : Pool → Pool) : Action Site Unit :=
  Action.change fun s => { s with pool := f s.pool }

/-- Has the grid do something. -/
def onGrid {α : Type} (a : Action Grid α) : Action Site α :=
  Action.within Site.grid (fun s grid => { s with grid }) a

/-- The number of the cluster for some settings, which is made if it is not in use. -/
def cluster (settings : Settings) : Action Site Nat := do
  let s ← Action.state
  match s.pool.clusters.get? settings.clusterKey with
  | some id => pure id
  | none =>
    let id ← onGrid (Grid.makeCluster settings)
    change fun p => { p with clusters := p.clusters.put settings.clusterKey id }
    pure id

/-- The number of the session for some settings, which is opened if it is not in use. -/
def session (settings : Settings) : Action Site Nat := do
  let s ← Action.state
  match s.pool.sessions.get? settings.sessionKey with
  | some id => pure id
  | none =>
    let cluster ← cluster settings
    let id ← onGrid (Grid.connect cluster settings.keyspace)
    change fun p => { p with sessions := p.sessions.put settings.sessionKey id }
    Action.note (.sessionOpened settings)
    pure id

/-- Takes hold of the session for some settings. -/
def acquire (settings : Settings) : Action Site Nat := do
  let id ← session settings
  change (·.hold settings.sessionKey)
  pure id

/-- Takes a session out of the pool and shuts it. -/
def dropSession (key : SessionKey) : Action Site Unit := do
  let s ← Action.state
  change fun p => { p with holders := p.holders.erase key, sessions := p.sessions.erase key }
  match s.pool.sessions.get? key with
  | some id => onGrid (Grid.shutSession id)
  | none => pure ()

/-- Takes a cluster out of the pool and shuts it, unless a session with it is in use. -/
def dropCluster (key : Settings.ClusterKey) : Action Site Unit := do
  let s ← Action.state
  if s.pool.usesCluster key then pure ()
  else
    match s.pool.clusters.get? key with
    | some id => do
      change fun p => { p with clusters := p.clusters.erase key }
      onGrid (Grid.shutCluster id)
    | none => pure ()

/-- Gives back the session for some settings.  Only the last holder shuts it. -/
def release (settings : Settings) : Action Site Unit := do
  let key := settings.sessionKey
  let s ← Action.state
  if 1 < s.pool.held key then
    change fun p => { p with holders := p.holders.put key (p.held key - 1) }
  else do
    dropSession key
    dropCluster key.cluster

/-- Runs an action for each of some values. -/
def forAll {α : Type} (f : α → Action Site Unit) : List α → Action Site Unit
  | [] => pure ()
  | x :: xs => do
    f x
    forAll f xs

/-- Shuts all sessions and then all clusters, each in the order in which they came into use. -/
def closeAll : Action Site Unit := do
  let s ← Action.state
  forAll (fun id => onGrid (Grid.shutSession id)) s.pool.sessions.values
  forAll (fun id => onGrid (Grid.shutCluster id)) s.pool.clusters.values
  change fun _ => empty

end Pool

end EventRoster
