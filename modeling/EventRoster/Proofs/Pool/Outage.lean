import EventRoster.Proofs.Pool.Calls

/-!
# When a session cannot be had

Taking hold of a session fails if no cluster can be made, or if no session can be opened with it.  The
sessions and their holders are then as they were.  The clusters are not always: a cluster that was
made for the sake of the session comes into use before the session is opened, and stays in use when
that fails.

* `fails_of_acquire`: the three ways in which taking hold fails.
* `pool_eq_iff_of_acquire_error`: when the pool is as it was.
* `pool_ne_of_acquire_refused`: an outage of one moment, after which it is not.
-/

namespace EventRoster.Pool

open EventRoster.Action

variable {s t : Site} {settings : Settings} {failure : Failure} {signals : List Signal}

/-- The ways in which taking hold of a session fails: no cluster could be made, the cluster in use
refused, or the cluster that was made refused. -/
inductive Fails (s : Site) (settings : Settings) (failure : Failure) : Site → Prop
  | unmade (absent : s.pool.clusters.get? settings.clusterKey = none)
      (refused : s.grid.making.next? = some failure) :
      Fails s settings failure { s with grid := s.grid.afterMaking }
  | refused (cluster : Nat) (used : s.pool.clusters.get? settings.clusterKey = some cluster) :
      Fails s settings failure { s with grid := s.grid.afterConnecting }
  | refusedAnew (absent : s.pool.clusters.get? settings.clusterKey = none)
      (made : s.grid.making.next? = none) :
      Fails s settings failure
        { s.makeCluster settings with grid := (s.makeCluster settings).grid.afterConnecting }

/-- Taking hold of a session fails in no other way. -/
theorem fails_of_acquire (h : (acquire settings).run s = ⟨.error failure, t, signals⟩) :
    Fails s settings failure t := by
  have attempted := attempted_acquire s settings
  rw [h] at attempted
  cases attempted with
  | unmade absent refused => exact .unmade absent refused
  | refused used => exact .refused _ used
  | refusedAnew absent made => exact .refusedAnew absent made

/-- A cluster that is entered where there was none makes the pool another. -/
theorem Site.pool_makeCluster_ne (absent : s.pool.clusters.get? settings.clusterKey = none) :
    (s.makeCluster settings).pool ≠ s.pool := by
  intro same
  have found : (s.makeCluster settings).pool.clusters.get? settings.clusterKey =
      some s.grid.nextCluster := by
    rw [Site.makeCluster, Ledger.get?_put, if_pos rfl]
  rw [same, absent] at found
  cases found

/-- **A failure to take hold of a session** leaves the sessions and their holders alone.  The pool is
altogether as it was exactly if the cluster was in use before, or none could be made.  Otherwise the
cluster that was made is left over. -/
theorem pool_eq_iff_of_acquire_error
    (h : (acquire settings).run s = ⟨.error failure, t, signals⟩) :
    t.pool.sessions = s.pool.sessions ∧ t.pool.holders = s.pool.holders ∧
      (t.pool = s.pool ↔ (∃ cluster, s.pool.clusters.get? settings.clusterKey = some cluster) ∨
        s.grid.making.next? = some failure) := by
  cases fails_of_acquire h with
  | unmade absent refused => exact ⟨rfl, rfl, fun _ => .inr refused, fun _ => rfl⟩
  | refused cluster used => exact ⟨rfl, rfl, fun _ => .inl ⟨cluster, used⟩, fun _ => rfl⟩
  | refusedAnew absent made =>
    refine ⟨rfl, rfl, fun same => absurd same (Site.pool_makeCluster_ne absent), ?_⟩
    rintro (⟨cluster, used⟩ | refused)
    · rw [absent] at used
      cases used
    · rw [made] at refused
      cases refused

/-- A grid on which the first attempt to connect goes well, and the second is refused. -/
def intermittent : Grid :=
  { Grid.bare .empty with connecting := [none, some Grid.noHost] }

/-- The settings for another keyspace of the same cluster. -/
def elsewhere : Settings :=
  { keyspace := some "elsewhere" }

theorem pool_eq_iff_of_acquire_error_elsewhere :
    let s := (chronicle intermittent [.acquire {}]).state
    ∃ t signals, (acquire elsewhere).run s = ⟨.error Grid.noHost, t, signals⟩ ∧
      t.pool.sessions = s.pool.sessions ∧ t.pool.holders = s.pool.holders ∧
      (t.pool = s.pool ↔ (∃ cluster, s.pool.clusters.get? elsewhere.clusterKey = some cluster) ∨
        s.grid.making.next? = some Grid.noHost) :=
  ⟨_, _, rfl, pool_eq_iff_of_acquire_error rfl⟩

/-- A grid that refuses the first attempt to connect. -/
def outage : Grid :=
  { Grid.bare .empty with connecting := [some Grid.noHost] }

/-- **A failure can change the pool.**  The first call of all is refused, and a cluster is left over. -/
theorem pool_ne_of_acquire_refused :
    let s := (chronicle outage []).state
    ∃ t signals, (acquire {}).run s = ⟨.error Grid.noHost, t, signals⟩ ∧ t.pool ≠ s.pool :=
  ⟨_, _, rfl, by decide⟩

end EventRoster.Pool
