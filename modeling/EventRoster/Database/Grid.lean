import EventRoster.Database.Session

/-!
# Grids

All clusters and sessions that have been made, numbered in the order of their making.  Each cluster
begins with the same tables.  Some of the next attempts to make a cluster, and to connect to one, may
be bound to fail.
-/

namespace EventRoster

/-- What comes of the next attempts at something: each ends in a failure or goes well.  All later ones
go well. -/
abbrev Prospects := List (Option Failure)

namespace Prospects

/-- The failure in which the next attempt ends, unless it goes well. -/
def next? : Prospects → Option Failure
  | [] => none
  | outcome :: _ => outcome

/-- Makes the next attempt. -/
def attempt : Action Prospects Unit := do
  let p ← Action.state
  Action.change List.tail
  match p.next? with
  | some failure => Action.fail failure
  | none => pure ()

theorem run_attempt_of_some {p : Prospects} {failure : Failure} (h : p.next? = some failure) :
    attempt.run p = ⟨.error failure, p.tail, []⟩ := by
  rw [attempt, Action.run_bind_of_ok (Action.run_state p),
    Action.run_bind_of_ok (Action.run_change _ p), h]
  rfl

theorem run_attempt_of_none {p : Prospects} (h : p.next? = none) :
    attempt.run p = ⟨.ok (), p.tail, []⟩ := by
  rw [attempt, Action.run_bind_of_ok (Action.run_state p),
    Action.run_bind_of_ok (Action.run_change _ p), h]
  rfl

end Prospects

/-- The clusters and the sessions with them. -/
structure Grid where
  /-- The tables that a new cluster has. -/
  tables : Catalog
  clusters : List Cluster
  sessions : List Session
  /-- What comes of the next attempts to make a cluster. -/
  making : Prospects
  /-- What comes of the next attempts to connect. -/
  connecting : Prospects

namespace Grid

open EventRoster.Failure

/-- The grid before anything is made. -/
def bare (tables : Catalog) : Grid :=
  ⟨tables, [], [], [], []⟩

/-- The cluster with a number. -/
def cluster? (g : Grid) (id : Nat) : Option Cluster :=
  g.clusters.find? (·.id = id)

/-- The session with a number. -/
def session? (g : Grid) (id : Nat) : Option Session :=
  g.sessions.find? (·.id = id)

/-- The grid with another state of a cluster. -/
def withCluster (g : Grid) (c : Cluster) : Grid :=
  { g with clusters := g.clusters.map fun d => if d.id = c.id then c else d }

/-- The grid with another state of a session. -/
def withSession (g : Grid) (s : Session) : Grid :=
  { g with sessions := g.sessions.map fun t => if t.id = s.id then s else t }

/-- The number of the next cluster. -/
def nextCluster (g : Grid) : Nat :=
  g.clusters.length + 1

/-- The number of the next session. -/
def nextSession (g : Grid) : Nat :=
  g.sessions.length + 1

/-- The grid with a new cluster. -/
def addCluster (g : Grid) : Grid :=
  { g with clusters := g.clusters ++ [.made g.nextCluster g.tables] }

/-- The grid with a new session. -/
def addSession (g : Grid) (cluster : Nat) (keyspace : Option String) : Grid :=
  { g with sessions := g.sessions ++ [.opened g.nextSession cluster keyspace] }

/-- Attempts to make a cluster. -/
def attemptMaking : Action Grid Unit :=
  Action.within Grid.making (fun g making => { g with making }) Prospects.attempt

/-- Attempts to connect. -/
def attemptConnecting : Action Grid Unit :=
  Action.within Grid.connecting (fun g connecting => { g with connecting }) Prospects.attempt

/-- Makes a cluster. -/
def makeCluster (settings : Settings) : Action Grid Nat := do
  attemptMaking
  let g ← Action.state
  Action.report (.clusterMade g.nextCluster settings)
  Action.change addCluster
  pure g.nextCluster

/-- The failure to find a host to connect to, which is what a refusal comes to. -/
def noHost : Failure :=
  .ofRaised (.ofKind (.client .noHostAvailable) "no host")

/-- Connects to a cluster. -/
def connect (cluster : Nat) (keyspace : Option String) : Action Grid Nat := do
  Action.report (.connected cluster keyspace)
  attemptConnecting
  let g ← Action.state
  Action.change (·.addSession cluster keyspace)
  pure g.nextSession

/-- Shuts a session. -/
def shutSession (id : Nat) : Action Grid Unit :=
  Action.report (.sessionShut id)

/-- Shuts a cluster. -/
def shutCluster (id : Nat) : Action Grid Unit :=
  Action.report (.clusterShut id)

/-! ## What making and connecting come to -/

variable {g : Grid} {failure : Failure}

/-- The grid after an attempt to make a cluster. -/
def afterMaking (g : Grid) : Grid :=
  { g with making := g.making.tail }

/-- The grid after an attempt to connect. -/
def afterConnecting (g : Grid) : Grid :=
  { g with connecting := g.connecting.tail }

theorem run_makeCluster_of_some (h : g.making.next? = some failure) (settings : Settings) :
    (makeCluster settings).run g = ⟨.error failure, g.afterMaking, []⟩ := by
  have fails : attemptMaking.run g = ⟨.error failure, g.afterMaking, []⟩ := by
    rw [attemptMaking, Action.run_within, Prospects.run_attempt_of_some h, afterMaking]
  rw [makeCluster, Action.run_bind_of_error fails]

theorem run_makeCluster_of_none (h : g.making.next? = none) (settings : Settings) :
    (makeCluster settings).run g =
      ⟨.ok g.nextCluster, g.afterMaking.addCluster,
        [.event (.clusterMade g.nextCluster settings)]⟩ := by
  have succeeds : attemptMaking.run g = ⟨.ok (), g.afterMaking, []⟩ := by
    rw [attemptMaking, Action.run_within, Prospects.run_attempt_of_none h, afterMaking]
  rw [makeCluster, Action.run_bind_of_ok succeeds]
  rfl

theorem run_connect_of_some (h : g.connecting.next? = some failure) (cluster : Nat)
    (keyspace : Option String) :
    (connect cluster keyspace).run g =
      ⟨.error failure, g.afterConnecting, [.event (.connected cluster keyspace)]⟩ := by
  have fails : attemptConnecting.run g = ⟨.error failure, g.afterConnecting, []⟩ := by
    rw [attemptConnecting, Action.run_within, Prospects.run_attempt_of_some h, afterConnecting]
  have asks : (Action.report (.connected cluster keyspace)).run g =
      ⟨.ok (), g, [.event (.connected cluster keyspace)]⟩ := rfl
  rw [connect, Action.run_bind_of_ok asks, Action.run_bind_of_error fails]
  rfl

theorem run_connect_of_none (h : g.connecting.next? = none) (cluster : Nat)
    (keyspace : Option String) :
    (connect cluster keyspace).run g =
      ⟨.ok g.nextSession, g.afterConnecting.addSession cluster keyspace,
        [.event (.connected cluster keyspace)]⟩ := by
  have succeeds : attemptConnecting.run g = ⟨.ok (), g.afterConnecting, []⟩ := by
    rw [attemptConnecting, Action.run_within, Prospects.run_attempt_of_none h, afterConnecting]
  have asks : (Action.report (.connected cluster keyspace)).run g =
      ⟨.ok (), g, [.event (.connected cluster keyspace)]⟩ := rfl
  rw [connect, Action.run_bind_of_ok asks, Action.run_bind_of_ok succeeds]
  rfl

end Grid

end EventRoster
