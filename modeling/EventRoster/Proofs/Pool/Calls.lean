import EventRoster.Pool.Basic
import EventRoster.Proofs.Chronicle
import EventRoster.Proofs.Ledger

/-!
# What each call on a pool comes to

Every call on a pool runs through a few small changes of the pool and its grid: a cluster is made, a
session is opened with it, a holder is added or taken away, and a session and then a cluster are
dropped.  The lemmas say, for each of the ways in which a call can go, all that it comes to: its
result, the site that it leaves, and what it signals.  Nothing else about the calls is ever unfolded.

* `run_session_of_opened`, `run_session_of_refused`: a session that is opened, or not.
* `attempted_acquire`: taking hold of a session, or not.
* `run_release_of_shared`, `run_release_of_last`: giving it back with others left, or without.
* `run_closeAll`: shutting everything.

A `chronicle` is what a sequence of calls comes to, from the pool with nothing in it.
-/

namespace EventRoster

namespace Pool

open EventRoster.Action

namespace Site

/-- The site after a cluster was made. -/
def makeCluster (s : Site) (settings : Settings) : Site :=
  ⟨{ s.pool with clusters := s.pool.clusters.put settings.clusterKey s.grid.nextCluster },
    s.grid.afterMaking.addCluster⟩

/-- The site after a session with a cluster was opened. -/
def openSession (s : Site) (settings : Settings) (cluster : Nat) : Site :=
  ⟨{ s.pool with sessions := s.pool.sessions.put settings.sessionKey s.grid.nextSession },
    s.grid.afterConnecting.addSession cluster settings.keyspace⟩

/-- The site with one more holder of a session. -/
def hold (s : Site) (key : SessionKey) : Site :=
  { s with pool := s.pool.hold key }

/-- The site with one holder of a session less. -/
def unhold (s : Site) (key : SessionKey) : Site :=
  { s with pool := { s.pool with holders := s.pool.holders.put key (s.pool.held key - 1) } }

/-- The site after a session was dropped. -/
def dropSession (s : Site) (key : SessionKey) : Site :=
  { s with pool :=
    { s.pool with holders := s.pool.holders.erase key, sessions := s.pool.sessions.erase key } }

/-- The site after a cluster was dropped. -/
def dropCluster (s : Site) (key : Settings.ClusterKey) : Site :=
  { s with pool := { s.pool with clusters := s.pool.clusters.erase key } }

end Site

variable {s t : Site} {settings : Settings} {id cluster : Nat} {failure : Failure}
  {signals : List Signal}

/-! ## Clusters -/

theorem run_cluster_of_some (h : s.pool.clusters.get? settings.clusterKey = some id) :
    (Pool.cluster settings).run s = ⟨.ok id, s, []⟩ := by
  rw [Pool.cluster, run_bind_of_ok (run_state s), h]
  rfl

theorem run_cluster_of_refused (h : s.pool.clusters.get? settings.clusterKey = none)
    (refused : s.grid.making.next? = some failure) :
    (Pool.cluster settings).run s =
      ⟨.error failure, { s with grid := s.grid.afterMaking }, []⟩ := by
  have fails : (onGrid (Grid.makeCluster settings)).run s =
      ⟨.error failure, { s with grid := s.grid.afterMaking }, []⟩ := by
    rw [onGrid, run_within, Grid.run_makeCluster_of_some refused]
  rw [Pool.cluster, run_bind_of_ok (run_state s), h]
  dsimp only
  rw [run_bind_of_error fails]
  rfl

theorem run_cluster_of_made (h : s.pool.clusters.get? settings.clusterKey = none)
    (willing : s.grid.making.next? = none) :
    (Pool.cluster settings).run s =
      ⟨.ok s.grid.nextCluster, s.makeCluster settings,
        [.event (.clusterMade s.grid.nextCluster settings)]⟩ := by
  have makes : (onGrid (Grid.makeCluster settings)).run s =
      ⟨.ok s.grid.nextCluster, { s with grid := s.grid.afterMaking.addCluster },
        [.event (.clusterMade s.grid.nextCluster settings)]⟩ := by
    rw [onGrid, run_within, Grid.run_makeCluster_of_none willing]
  rw [Pool.cluster, run_bind_of_ok (run_state s), h]
  dsimp only
  rw [run_bind_of_ok makes]
  rfl

/-! ## Sessions -/

theorem run_session_of_some (h : s.pool.sessions.get? settings.sessionKey = some id) :
    (session settings).run s = ⟨.ok id, s, []⟩ := by
  rw [session, run_bind_of_ok (run_state s), h]
  rfl

theorem run_session_of_cluster_error (h : s.pool.sessions.get? settings.sessionKey = none)
    (fails : (Pool.cluster settings).run s = ⟨.error failure, t, signals⟩) :
    (session settings).run s = ⟨.error failure, t, signals⟩ := by
  rw [session, run_bind_of_ok (run_state s), h]
  dsimp only
  rw [run_bind_of_error fails]
  rfl

/-- A session that is not opened because the cluster that was found or made refuses. -/
theorem run_session_of_refused (h : s.pool.sessions.get? settings.sessionKey = none)
    (reaches : (Pool.cluster settings).run s = ⟨.ok cluster, t, signals⟩)
    (refused : t.grid.connecting.next? = some failure) :
    (session settings).run s =
      ⟨.error failure, { t with grid := t.grid.afterConnecting },
        signals ++ [.event (.connected cluster settings.keyspace)]⟩ := by
  have fails : (onGrid (Grid.connect cluster settings.keyspace)).run t =
      ⟨.error failure, { t with grid := t.grid.afterConnecting },
        [.event (.connected cluster settings.keyspace)]⟩ := by
    rw [onGrid, run_within, Grid.run_connect_of_some refused]
  rw [session, run_bind_of_ok (run_state s), h]
  dsimp only
  rw [run_bind_of_ok reaches, run_bind_of_error fails]
  rfl

/-- A session that is opened with the cluster that was found or made. -/
theorem run_session_of_opened (h : s.pool.sessions.get? settings.sessionKey = none)
    (reaches : (Pool.cluster settings).run s = ⟨.ok cluster, t, signals⟩)
    (willing : t.grid.connecting.next? = none) :
    (session settings).run s =
      ⟨.ok t.grid.nextSession, t.openSession settings cluster,
        signals ++ [.event (.connected cluster settings.keyspace),
          .notice (.sessionOpened settings)]⟩ := by
  have connects : (onGrid (Grid.connect cluster settings.keyspace)).run t =
      ⟨.ok t.grid.nextSession,
        { t with grid := t.grid.afterConnecting.addSession cluster settings.keyspace },
        [.event (.connected cluster settings.keyspace)]⟩ := by
    rw [onGrid, run_within, Grid.run_connect_of_none willing]
  rw [session, run_bind_of_ok (run_state s), h]
  dsimp only
  rw [run_bind_of_ok reaches, run_bind_of_ok connects]
  rfl

/-! ## Taking hold -/

theorem run_acquire_of_ok (h : (session settings).run s = ⟨.ok id, t, signals⟩) :
    (acquire settings).run s = ⟨.ok id, t.hold settings.sessionKey, signals⟩ := by
  rw [acquire, run_bind_of_ok h]
  show (⟨.ok id, t.hold settings.sessionKey, signals ++ ([] ++ [])⟩ : Reply Site Nat) = _
  rw [List.append_nil, List.append_nil]

theorem run_acquire_of_error (h : (session settings).run s = ⟨.error failure, t, signals⟩) :
    (acquire settings).run s = ⟨.error failure, t, signals⟩ := by
  rw [acquire, run_bind_of_error h]

/-- The ways in which taking hold of a session goes.  It is in use; or it is opened, with a cluster in
use or one that is made; or no cluster can be made; or the cluster refuses, which was in use or was
made. -/
inductive Attempted (s : Site) (settings : Settings) : Reply Site Nat → Prop
  | kept {id : Nat} (found : s.pool.sessions.get? settings.sessionKey = some id) :
      Attempted s settings ⟨.ok id, s.hold settings.sessionKey, []⟩
  | joined {cluster : Nat} (absent : s.pool.sessions.get? settings.sessionKey = none)
      (used : s.pool.clusters.get? settings.clusterKey = some cluster) :
      Attempted s settings
        ⟨.ok s.grid.nextSession, (s.openSession settings cluster).hold settings.sessionKey,
          [.event (.connected cluster settings.keyspace), .notice (.sessionOpened settings)]⟩
  | opened (absent : s.pool.sessions.get? settings.sessionKey = none)
      (unmade : s.pool.clusters.get? settings.clusterKey = none) :
      Attempted s settings
        ⟨.ok s.grid.nextSession,
          ((s.makeCluster settings).openSession settings s.grid.nextCluster).hold
            settings.sessionKey,
          [.event (.clusterMade s.grid.nextCluster settings),
            .event (.connected s.grid.nextCluster settings.keyspace),
            .notice (.sessionOpened settings)]⟩
  | unmade {failure : Failure} (absent : s.pool.clusters.get? settings.clusterKey = none)
      (refused : s.grid.making.next? = some failure) :
      Attempted s settings ⟨.error failure, { s with grid := s.grid.afterMaking }, []⟩
  | refused {failure : Failure} {cluster : Nat}
      (used : s.pool.clusters.get? settings.clusterKey = some cluster) :
      Attempted s settings
        ⟨.error failure, { s with grid := s.grid.afterConnecting },
          [.event (.connected cluster settings.keyspace)]⟩
  | refusedAnew {failure : Failure} (absent : s.pool.clusters.get? settings.clusterKey = none)
      (made : s.grid.making.next? = none) :
      Attempted s settings
        ⟨.error failure,
          { s.makeCluster settings with grid := (s.makeCluster settings).grid.afterConnecting },
          [.event (.clusterMade s.grid.nextCluster settings),
            .event (.connected s.grid.nextCluster settings.keyspace)]⟩

/-- **Taking hold of a session** goes in one of these ways. -/
theorem attempted_acquire (s : Site) (settings : Settings) :
    Attempted s settings ((acquire settings).run s) := by
  cases held : s.pool.sessions.get? settings.sessionKey with
  | some id =>
    rw [run_acquire_of_ok (run_session_of_some held)]
    exact .kept held
  | none =>
    cases used : s.pool.clusters.get? settings.clusterKey with
    | some cluster =>
      have reaches := run_cluster_of_some used
      cases outcome : s.grid.connecting.next? with
      | some refusal =>
        rw [run_acquire_of_error (run_session_of_refused held reaches outcome)]
        exact .refused used
      | none =>
        rw [run_acquire_of_ok (run_session_of_opened held reaches outcome)]
        exact .joined held used
    | none =>
      cases made : s.grid.making.next? with
      | some refusal =>
        have fails := run_cluster_of_refused used made
        rw [run_acquire_of_error (run_session_of_cluster_error held fails)]
        exact .unmade used made
      | none =>
        have reaches := run_cluster_of_made used made
        cases outcome : (s.makeCluster settings).grid.connecting.next? with
        | some refusal =>
          rw [run_acquire_of_error (run_session_of_refused held reaches outcome)]
          exact .refusedAnew used made
        | none =>
          rw [run_acquire_of_ok (run_session_of_opened held reaches outcome)]
          exact .opened held used

/-! ## Giving back -/

variable {key : SessionKey}

/-- The signals of shutting some sessions. -/
def sessionsShut (ids : List Nat) : List Signal :=
  ids.map fun id => .event (.sessionShut id)

/-- The signals of shutting some clusters. -/
def clustersShut (ids : List Nat) : List Signal :=
  ids.map fun id => .event (.clusterShut id)

theorem events_sessionsShut (ids : List Nat) :
    Signal.events (sessionsShut ids) = ids.map .sessionShut := by
  rw [Signal.events, sessionsShut, List.filterMap_map]
  exact congrFun List.filterMap_eq_map ids

theorem events_clustersShut (ids : List Nat) :
    Signal.events (clustersShut ids) = ids.map .clusterShut := by
  rw [Signal.events, clustersShut, List.filterMap_map]
  exact congrFun List.filterMap_eq_map ids

theorem run_dropSession (s : Site) (key : SessionKey) :
    (dropSession key).run s =
      ⟨.ok (), s.dropSession key, sessionsShut (s.pool.sessions.get? key).toList⟩ := by
  rw [dropSession, run_bind_of_ok (run_state s)]
  cases h : s.pool.sessions.get? key <;> rfl

theorem run_dropCluster_of_used {key : Settings.ClusterKey} (h : s.pool.usesCluster key = true) :
    (dropCluster key).run s = ⟨.ok (), s, []⟩ := by
  rw [dropCluster, run_bind_of_ok (run_state s), if_pos h]
  rfl

theorem run_dropCluster_of_unused {key : Settings.ClusterKey}
    (h : s.pool.usesCluster key = false) :
    (dropCluster key).run s =
      ⟨.ok (), s.dropCluster key, clustersShut (s.pool.clusters.get? key).toList⟩ := by
  rw [dropCluster, run_bind_of_ok (run_state s), if_neg (by simp [h])]
  cases found : s.pool.clusters.get? key with
  | some id => rfl
  | none =>
    have same : s.dropCluster key = s := by
      rw [Site.dropCluster, Ledger.erase_of_get?_eq_none found]
    rw [same]
    rfl

theorem run_release_of_shared (h : 1 < s.pool.held settings.sessionKey) :
    (release settings).run s = ⟨.ok (), s.unhold settings.sessionKey, []⟩ := by
  rw [release, run_bind_of_ok (run_state s), if_pos h]
  rfl

theorem run_release_of_last (h : s.pool.held settings.sessionKey ≤ 1)
    (drops : (dropCluster settings.clusterKey).run (s.dropSession settings.sessionKey) =
      ⟨.ok (), t, signals⟩) :
    (release settings).run s =
      ⟨.ok (), t, sessionsShut (s.pool.sessions.get? settings.sessionKey).toList ++ signals⟩ := by
  rw [release, run_bind_of_ok (run_state s), if_neg (Nat.not_lt.2 h)]
  have key : settings.sessionKey.cluster = settings.clusterKey := rfl
  rw [run_bind_of_ok (run_dropSession s _), key, drops]
  rfl

/-! ## Shutting everything -/

theorem run_forAll {α : Type} {f : α → Action Site Unit} {g : α → Signal}
    (h : ∀ x, (f x).run s = ⟨.ok (), s, [g x]⟩) (xs : List α) :
    (forAll f xs).run s = ⟨.ok (), s, xs.map g⟩ := by
  induction xs with
  | nil => rfl
  | cons x xs ih =>
    rw [forAll, run_bind_of_ok (h x), ih]
    rfl

theorem run_closeAll (s : Site) :
    closeAll.run s =
      ⟨.ok (), { s with pool := empty },
        sessionsShut s.pool.sessions.values ++ clustersShut s.pool.clusters.values⟩ := by
  have sessions : (forAll (fun id => onGrid (Grid.shutSession id)) s.pool.sessions.values).run s =
      ⟨.ok (), s, sessionsShut s.pool.sessions.values⟩ := run_forAll (fun _ => rfl) _
  have clusters : (forAll (fun id => onGrid (Grid.shutCluster id)) s.pool.clusters.values).run s =
      ⟨.ok (), s, clustersShut s.pool.clusters.values⟩ := run_forAll (fun _ => rfl) _
  rw [closeAll, run_bind_of_ok (run_state s)]
  rw [run_bind_of_ok sessions, run_bind_of_ok clusters]
  show (⟨.ok (), { s with pool := empty }, _ ++ (_ ++ (_ ++ []))⟩ : Reply Site Unit) = _
  rw [List.append_nil]
  rfl

/-! ## Sequences of calls -/

/-- What is asked of a pool. -/
inductive Call
  | acquire (settings : Settings)
  | release (settings : Settings)
  | closeAll

/-- Does what is asked.  Only taking hold of a session has an answer. -/
def Call.perform : Call → Action Site (Option Nat)
  | acquire settings => do
    let id ← Pool.acquire settings
    pure (some id)
  | release settings => do
    Pool.release settings
    pure none
  | closeAll => do
    Pool.closeAll
    pure none

/-- The chronicle of some calls on the pool with nothing in it. -/
def chronicle (grid : Grid) (calls : List Call) : Chronicle Site :=
  Chronicle.extendAll ⟨⟨empty, grid⟩, []⟩ (calls.map Call.perform)

end Pool

end EventRoster
