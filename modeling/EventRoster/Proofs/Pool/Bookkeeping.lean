import EventRoster.Proofs.Pool.Inventory

/-!
# The bookkeeping of the pool

As long as clusters can be made and connected to, a pool keeps its books in order through any calls:
a session is in use exactly as long as it has holders, and a cluster as long as a session with it is
in use.

`Sound` is the invariant.  `Performed` says what a call comes to if the books are in order, and there
is one lemma for each call.

* `Acquired`, `Released`: what taking hold and giving back do to the sessions and their holders.
* `Sound.exists_run_acquire`, `Sound.exists_run_release`, `Sound.exists_run_closeAll`: one call.
* `Sound.exists_run_perform`: any call.
-/

namespace EventRoster

open Event EventRoster.Action

/-- No attempt to make a cluster or to connect is bound to fail. -/
structure Grid.Willing (g : Grid) : Prop where
  making : g.making = []
  connecting : g.connecting = []

/-- Nothing that was made is forgotten. -/
structure Grid.Grows (g h : Grid) : Prop where
  clusters : g.clusters <+: h.clusters
  sessions : g.sessions <+: h.sessions

theorem Grid.Grows.refl (g : Grid) : g.Grows g :=
  ⟨List.prefix_rfl, List.prefix_rfl⟩

namespace Pool

variable {s t : Site} {past : List Event} {settings : Settings} {key : SessionKey} {id : Nat}
  {signals : List Signal}

/-- Signals in which nothing is shut. -/
structure Quiet (signals : List Signal) : Prop where
  sessions : shutSessions (Signal.events signals) = []
  clusters : shutClusters (Signal.events signals) = []

/-- The books are in order: what is in use is held, and what is held is in use. -/
structure Sound (s : Site) (past : List Event) : Prop where
  tidy : Tidy s past
  holders : s.pool.holders.keys = s.pool.sessions.keys
  positive : ∀ {key : SessionKey} {n : Nat}, s.pool.holders.get? key = some n → 1 ≤ n
  used : ∀ {key : Settings.ClusterKey} {id : Nat}, s.pool.clusters.get? key = some id →
    s.pool.usesCluster key = true
  willing : s.grid.Willing

theorem Sound.start (tables : Catalog) : Sound ⟨empty, .bare tables⟩ [] where
  tidy := Tidy.start tables
  holders := rfl
  positive := nofun
  used := nofun
  willing := ⟨rfl, rfl⟩

/-- A session is in use exactly if it is held. -/
theorem Sound.one_le_held_iff (h : Sound s past) :
    1 ≤ s.pool.held key ↔ key ∈ s.pool.sessions.keys := by
  rw [← h.holders, Ledger.mem_keys_iff, held]
  cases found : s.pool.holders.get? key with
  | none => simp
  | some n => simpa using h.positive found

theorem usesCluster_iff {p : Pool} {key : Settings.ClusterKey} :
    p.usesCluster key = true ↔ ∃ k ∈ p.sessions.keys, k.cluster = key := by
  rw [usesCluster, List.any_eq_true, Ledger.keys]
  constructor
  · rintro ⟨entry, member, same⟩
    exact ⟨entry.1, List.mem_map_of_mem member, of_decide_eq_true same⟩
  · rintro ⟨k, member, same⟩
    obtain ⟨entry, listed, rfl⟩ := List.mem_map.1 member
    exact ⟨entry, listed, decide_eq_true same⟩

/-! ## What the calls do -/

/-- What taking hold of a session does to the sessions and their holders. -/
structure Acquired (s : Site) (key : SessionKey) (id : Nat) (t : Site) : Prop where
  /-- The session was in use, or is new. -/
  found : s.pool.sessions.get? key = some id ∨
    s.pool.sessions.get? key = none ∧ id ∉ s.grid.sessions.map Session.id
  sessions : t.pool.sessions = s.pool.sessions.put key id
  holders : t.pool.holders = s.pool.holders.put key (s.pool.held key + 1)

namespace Acquired

variable {other : SessionKey}

theorem get?_eq (h : Acquired s key id t) (other : SessionKey) :
    t.pool.sessions.get? other = if key = other then some id else s.pool.sessions.get? other := by
  rw [h.sessions, Ledger.get?_put]

/-- What is in use stays in use. -/
theorem get?_of_some (h : Acquired s key id t) {n : Nat}
    (found : s.pool.sessions.get? other = some n) : t.pool.sessions.get? other = some n := by
  rw [h.get?_eq]
  split
  · next same =>
    rw [← same] at found
    rcases h.found with before | ⟨absent, -⟩
    · exact before.symm.trans found
    · rw [absent] at found
      cases found
  · exact found

theorem held_eq (h : Acquired s key id t) (other : SessionKey) :
    t.pool.held other = if key = other then s.pool.held key + 1 else s.pool.held other := by
  rw [held, h.holders, Ledger.get?_put]
  split <;> rfl

/-- The session that is taken hold of has one holder more, and no session has fewer. -/
theorem held_add_le (h : Acquired s key id t) (sound : Sound t past) {n : Nat}
    (found : t.pool.sessions.get? other = some n) :
    s.pool.held other + (if id = n then 1 else 0) ≤ t.pool.held other := by
  rw [h.held_eq]
  by_cases same : key = other
  · rw [if_pos same, same]
    split <;> omega
  · have different : id ≠ n := by
      rintro rfl
      have taken : t.pool.sessions.get? key = some id := by rw [h.get?_eq, if_pos rfl]
      exact same (sound.tidy.sessions.key_unique taken found)
    rw [if_neg same, if_neg different]
    exact Nat.le_refl _

end Acquired

/-- What giving a session back does to the sessions and their holders. -/
structure Released (s : Site) (key : SessionKey) (t : Site) : Prop where
  /-- Other holders are left. -/
  shared : 1 < s.pool.held key → t.pool.sessions = s.pool.sessions ∧
    t.pool.holders = s.pool.holders.put key (s.pool.held key - 1)
  /-- No holder is left, if there was one. -/
  last : s.pool.held key ≤ 1 → t.pool.sessions = s.pool.sessions.erase key ∧
    t.pool.holders = s.pool.holders.erase key

namespace Released

theorem get?_eq (h : Released s key t) (other : SessionKey) :
    t.pool.sessions.get? other =
      if key = other ∧ s.pool.held key ≤ 1 then none else s.pool.sessions.get? other := by
  by_cases last : s.pool.held key ≤ 1
  · rw [(h.last last).1, Ledger.get?_erase]
    simp [last]
  · rw [(h.shared (Nat.lt_of_not_le last)).1]
    simp [last]

theorem held_eq (h : Released s key t) (other : SessionKey) :
    t.pool.held other = if key = other then s.pool.held key - 1 else s.pool.held other := by
  by_cases last : s.pool.held key ≤ 1
  · rw [held, (h.last last).2, Ledger.get?_erase]
    split
    · show 0 = s.pool.held key - 1
      omega
    · rfl
  · rw [held, (h.shared (Nat.lt_of_not_le last)).2, Ledger.get?_put]
    split <;> rfl

end Released

/-- What a call does to the sessions and their holders. -/
def Call.Effect (s t : Site) : Call → Prop
  | acquire settings => ∃ id, Acquired s settings.sessionKey id t
  | release settings => Released s settings.sessionKey t
  | closeAll => t.pool = empty

/-- What a call comes to, if the books are in order: the site that it leaves, and its events. -/
structure Performed (s : Site) (past : List Event) (call : Call) (t : Site) (new : List Event) :
    Prop where
  sound : Sound t (past ++ new)
  effect : call.Effect s t
  grows : s.grid.Grows t.grid
  /-- A call does not make and shut at once. -/
  apart : shutSessions new = [] ∧ shutClusters new = [] ∨ t.grid = s.grid

/-! ## Taking hold -/

/-- A cluster is found or made, and nothing else changes. -/
theorem Sound.exists_run_cluster (h : Sound s past) (settings : Settings) :
    ∃ id t signals, (cluster settings).run s = ⟨.ok id, t, signals⟩ ∧ Quiet signals ∧
      Tidy t past ∧ t.grid.Willing ∧ s.grid.Grows t.grid ∧ t.grid.sessions = s.grid.sessions ∧
      t.pool = { s.pool with clusters := s.pool.clusters.put settings.clusterKey id } := by
  cases found : s.pool.clusters.get? settings.clusterKey with
  | some id =>
    refine ⟨id, s, [], run_cluster_of_some found, ⟨rfl, rfl⟩, h.tidy, h.willing, .refl _, rfl, ?_⟩
    rw [Ledger.put_of_get?_eq_some found]
  | none =>
    have making : s.grid.making.next? = none := by rw [h.willing.making]; rfl
    refine ⟨_, _, _, run_cluster_of_made found making, ⟨rfl, rfl⟩, h.tidy.makeCluster found, ?_,
      ⟨List.prefix_append _ _, List.prefix_rfl⟩, rfl, rfl⟩
    exact ⟨by rw [Site.makeCluster, Grid.addCluster, Grid.afterMaking, h.willing.making]; rfl,
      h.willing.connecting⟩

/-- A session is found or opened, and is not held for that. -/
theorem Sound.exists_run_session (h : Sound s past) (settings : Settings) :
    ∃ c id t signals, (session settings).run s = ⟨.ok id, t, signals⟩ ∧ Quiet signals ∧
      Tidy t past ∧ t.grid.Willing ∧ s.grid.Grows t.grid ∧
      (s.pool.sessions.get? settings.sessionKey = some id ∨
        s.pool.sessions.get? settings.sessionKey = none ∧
          id ∉ s.grid.sessions.map Session.id) ∧
      t.pool = ⟨s.pool.clusters.put settings.clusterKey c,
        s.pool.sessions.put settings.sessionKey id, s.pool.holders⟩ := by
  cases found : s.pool.sessions.get? settings.sessionKey with
  | some id =>
    obtain ⟨x, -, -, -, reached⟩ := h.tidy.placed found
    have reached : s.pool.clusters.get? settings.clusterKey = some x.cluster := reached
    refine ⟨x.cluster, id, s, [], run_session_of_some found, ⟨rfl, rfl⟩, h.tidy, h.willing,
      .refl _, .inl rfl, ?_⟩
    rw [Ledger.put_of_get?_eq_some found, Ledger.put_of_get?_eq_some reached]
  | none =>
    obtain ⟨c, t, signals, reaches, quiet, tidy, willing, grows, sessions, pool⟩ :=
      h.exists_run_cluster settings
    have connecting : t.grid.connecting.next? = none := by rw [willing.connecting]; rfl
    have absent : t.pool.sessions.get? settings.sessionKey = none := by rw [pool]; exact found
    have used : t.pool.clusters.get? settings.clusterKey = some c := by
      rw [pool, Ledger.get?_put, if_pos rfl]
    refine ⟨c, _, _, _, run_session_of_opened found reaches connecting, ?_,
      tidy.openSession absent used, ⟨willing.making, ?_⟩,
      ⟨grows.clusters, grows.sessions.trans (List.prefix_append _ _)⟩, .inr ⟨rfl, ?_⟩, ?_⟩
    · exact ⟨by rw [Signal.events_append, shutSessions_append, quiet.sessions]; rfl,
        by rw [Signal.events_append, shutClusters_append, quiet.clusters]; rfl⟩
    · rw [Site.openSession, Grid.addSession, Grid.afterConnecting, willing.connecting]
      rfl
    · rw [← sessions]
      exact tidy.numbered.nextSession_not_mem
    · rw [Site.openSession, pool]

/-- **A session is taken hold of** without fail, and the books stay in order. -/
theorem Sound.exists_run_acquire (h : Sound s past) (settings : Settings) :
    ∃ id t signals, (acquire settings).run s = ⟨.ok id, t, signals⟩ ∧
      Acquired s settings.sessionKey id t ∧
      Performed s past (.acquire settings) t (Signal.events signals) := by
  obtain ⟨c, id, t, signals, runs, quiet, tidy, willing, grows, found, pool⟩ :=
    h.exists_run_session settings
  have held : t.pool.held settings.sessionKey = s.pool.held settings.sessionKey := by
    rw [pool]
    rfl
  have after : (t.hold settings.sessionKey).pool =
      ⟨s.pool.clusters.put settings.clusterKey c, s.pool.sessions.put settings.sessionKey id,
        s.pool.holders.put settings.sessionKey (s.pool.held settings.sessionKey + 1)⟩ := by
    rw [Site.hold, hold, held, pool]
  have acquired : Acquired s settings.sessionKey id (t.hold settings.sessionKey) :=
    ⟨found, by rw [after], by rw [after]⟩
  refine ⟨id, _, signals, run_acquire_of_ok runs, acquired, ?_, ⟨id, acquired⟩, grows,
    .inl ⟨quiet.sessions, quiet.clusters⟩⟩
  refine ⟨Tidy.quiet ?_ quiet.sessions quiet.clusters, ?_, ?_, ?_, willing⟩
  · exact ⟨tidy.sessions, tidy.clusters, tidy.numbered, tidy.placed, tidy.ordered⟩
  · rw [after, Ledger.keys_put, Ledger.keys_put, h.holders]
  · intro key n counted
    rw [after, Ledger.get?_put] at counted
    split at counted
    · cases counted
      exact Nat.le_add_left 1 _
    · exact h.positive counted
  · intro key n reached
    rw [after, Ledger.get?_put] at reached
    rw [usesCluster_iff, after]
    split at reached
    · next same =>
      -- The cluster that was asked for is used by the session that was asked for.
      exact ⟨settings.sessionKey, Ledger.mem_keys_put.2 (.inl rfl), same⟩
    · obtain ⟨k, member, same⟩ := usesCluster_iff.1 (h.used reached)
      exact ⟨k, Ledger.mem_keys_put.2 (.inr member), same⟩

/-! ## Giving back -/

/-- The books stay in order when one of several holders gives a session back. -/
theorem Sound.unhold (h : Sound s past) (shared : 1 < s.pool.held key) :
    Sound (s.unhold key) past where
  tidy := ⟨h.tidy.sessions, h.tidy.clusters, h.tidy.numbered, h.tidy.placed, h.tidy.ordered⟩
  holders := by
    have member : key ∈ s.pool.holders.keys := by
      rw [h.holders, ← h.one_le_held_iff]
      omega
    rw [Site.unhold, Ledger.keys_put, if_pos member]
    exact h.holders
  positive := by
    intro other n counted
    rw [Site.unhold, Ledger.get?_put] at counted
    split at counted
    · cases counted
      omega
    · exact h.positive counted
  used := h.used
  willing := h.willing

/-- The books without a session that was dropped are in order if its cluster, unless another session
uses it, goes with it. -/
theorem Sound.drop (h : Sound s past) {new : List Event} (tidy : Tidy t new)
    (clusters : ∀ {ck : Settings.ClusterKey} {n : Nat}, t.pool.clusters.get? ck = some n →
      s.pool.clusters.get? ck = some n ∧
        (key.cluster ≠ ck ∨ (s.dropSession key).pool.usesCluster ck = true))
    (sessions : t.pool.sessions = s.pool.sessions.erase key)
    (holders : t.pool.holders = s.pool.holders.erase key) (grid : t.grid = s.grid) :
    Sound t new where
  tidy := tidy
  holders := by rw [holders, sessions, Ledger.keys_erase, Ledger.keys_erase, h.holders]
  positive := by
    intro other n counted
    rw [holders, Ledger.get?_erase] at counted
    split at counted
    · cases counted
    · exact h.positive counted
  used := by
    intro ck n reached
    obtain ⟨before, different | still⟩ := clusters reached
    · obtain ⟨k, member, rfl⟩ := usesCluster_iff.1 (h.used before)
      rw [usesCluster_iff, sessions]
      refine ⟨k, Ledger.mem_keys_erase.2 ⟨?_, member⟩, rfl⟩
      rintro rfl
      exact different rfl
    · rw [usesCluster_iff] at still ⊢
      rw [sessions]
      exact still
  willing := by
    rw [grid]
    exact h.willing

/-- **A session is given back** without fail, and the books stay in order. -/
theorem Sound.exists_run_release (h : Sound s past) (settings : Settings) :
    ∃ t signals, (release settings).run s = ⟨.ok (), t, signals⟩ ∧
      Performed s past (.release settings) t (Signal.events signals) := by
  by_cases shared : 1 < s.pool.held settings.sessionKey
  · refine ⟨_, _, run_release_of_shared shared, ?_, ⟨fun _ => ⟨rfl, rfl⟩, fun last => ?_⟩,
      .refl _, .inr rfl⟩
    · rw [show Signal.events [] = [] from rfl, List.append_nil]
      exact h.unhold shared
    · omega
  · have last : s.pool.held settings.sessionKey ≤ 1 := Nat.le_of_not_lt shared
    have tidy := h.tidy.dropSession settings.sessionKey
    have released {t : Site} (sessions : t.pool.sessions = s.pool.sessions.erase settings.sessionKey)
        (holders : t.pool.holders = s.pool.holders.erase settings.sessionKey) :
        Released s settings.sessionKey t :=
      ⟨fun more => absurd more shared, fun _ => ⟨sessions, holders⟩⟩
    cases used : (s.dropSession settings.sessionKey).pool.usesCluster settings.clusterKey with
    | true =>
      refine ⟨_, _, run_release_of_last last (run_dropCluster_of_used used), ?_,
        released rfl rfl, .refl _, .inr rfl⟩
      rw [List.append_nil, events_sessionsShut]
      refine h.drop tidy ?_ rfl rfl rfl
      intro ck n reached
      refine ⟨reached, ?_⟩
      by_cases same : settings.sessionKey.cluster = ck
      · exact .inr (same ▸ used)
      · exact .inl same
    | false =>
      refine ⟨_, _, run_release_of_last last (run_dropCluster_of_unused used), ?_,
        released rfl rfl, .refl _, .inr rfl⟩
      rw [Signal.events_append, events_sessionsShut, events_clustersShut, ← List.append_assoc]
      refine h.drop (tidy.dropCluster used) ?_ rfl rfl rfl
      intro ck n reached
      rw [Site.dropCluster, Ledger.get?_erase] at reached
      split at reached
      · cases reached
      · next different => exact ⟨reached, .inl different⟩

/-! ## Shutting everything, and any call -/

/-- **Everything is shut** without fail, and the books stay in order. -/
theorem Sound.exists_run_closeAll (h : Sound s past) :
    ∃ signals, Pool.closeAll.run s = ⟨.ok (), { s with pool := empty }, signals⟩ ∧
      Performed s past .closeAll { s with pool := empty } (Signal.events signals) := by
  refine ⟨_, run_closeAll s, ⟨?_, rfl, nofun, nofun, h.willing⟩, rfl, .refl _, .inr rfl⟩
  rw [Signal.events_append, events_sessionsShut, events_clustersShut]
  exact h.tidy.closeAll

/-- **Every call succeeds**, and the books stay in order. -/
theorem Sound.exists_run_perform (h : Sound s past) (call : Call) :
    ∃ answer t signals, call.perform.run s = ⟨.ok answer, t, signals⟩ ∧
      Performed s past call t (Signal.events signals) := by
  cases call with
  | acquire settings =>
    obtain ⟨id, t, signals, runs, -, performed⟩ := h.exists_run_acquire settings
    refine ⟨some id, t, signals, ?_, performed⟩
    rw [Call.perform, run_bind_of_ok runs, run_pure, List.append_nil]
  | release settings =>
    obtain ⟨t, signals, runs, performed⟩ := h.exists_run_release settings
    refine ⟨none, t, signals, ?_, performed⟩
    rw [Call.perform, run_bind_of_ok runs, run_pure, List.append_nil]
  | closeAll =>
    obtain ⟨signals, runs, performed⟩ := h.exists_run_closeAll
    refine ⟨none, { s with pool := empty }, signals, ?_, performed⟩
    rw [Call.perform, run_bind_of_ok runs, run_pure, List.append_nil]

end Pool

end EventRoster
