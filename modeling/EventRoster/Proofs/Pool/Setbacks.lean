import EventRoster.Proofs.Action
import EventRoster.Proofs.Pool.Bookkeeping
import Mathlib.Data.List.Infix

/-!
# Pools that suffer setbacks

Clusters that cannot be made and connections that are refused upset the count of clusters: a cluster
may be left over that no session uses.  They do not upset the account of what was made.  After any
calls on a pool, with any setbacks among them, everything is in use or was shut, and a session that is
in use is one for the keyspace that it is in use for.

* `Attempted.acquired`, `Attempted.eq_of_error`: what taking hold does to the sessions, and what a
  failure to take hold leaves alone.
* `Tidy.acquire`, `Tidy.release`, `Tidy.perform`: every call keeps a site tidy.
* `tidy_chronicle`: so do any calls.
* `Tidy.exists_session?`: the session in use under a key.
-/

namespace EventRoster

open Event EventRoster.Action

/-- A grid on which nothing was made, with whatever comes of the next attempts. -/
def Grid.bound (tables : Catalog) (making connecting : Prospects) : Grid :=
  ⟨tables, [], [], making, connecting⟩

/-- What a session goes by: its number, its cluster and its keyspace. -/
def Session.tag (x : Session) : Nat × Nat × Option String :=
  (x.id, x.cluster, x.keyspace)

theorem Session.tag_eq_iff {x y : Session} :
    x.tag = y.tag ↔ x.id = y.id ∧ x.cluster = y.cluster ∧ x.keyspace = y.keyspace := by
  rw [tag, tag, Prod.mk.injEq, Prod.mk.injEq]

/-- Sessions that go by the same have the same numbers. -/
theorem map_id_eq_of_map_tag_eq {sessions others : List Session}
    (h : sessions.map Session.tag = others.map Session.tag) :
    sessions.map Session.id = others.map Session.id := by
  have numbers := congrArg (List.map Prod.fst) h
  rwa [List.map_map, List.map_map] at numbers

namespace Pool

variable {s t : Site} {past : List Event} {settings : Settings} {key : SessionKey} {id : Nat}
  {failure : Failure} {signals : List Signal}

/-! ## Taking hold -/

/-- Whoever takes hold of a session is one more of its holders. -/
theorem Attempted.acquired (h : Attempted s settings ⟨.ok id, t, signals⟩) (tidy : Tidy s past) :
    Acquired s settings.sessionKey id t := by
  cases h with
  | kept found =>
    refine ⟨.inl found, ?_, rfl⟩
    rw [Ledger.put_of_get?_eq_some found]
    rfl
  | joined absent used => exact ⟨.inr ⟨absent, tidy.numbered.nextSession_not_mem⟩, rfl, rfl⟩
  | opened absent unmade => exact ⟨.inr ⟨absent, tidy.numbered.nextSession_not_mem⟩, rfl, rfl⟩

/-- Whoever fails to take hold of a session leaves the sessions and their holders alone. -/
theorem Attempted.eq_of_error (h : Attempted s settings ⟨.error failure, t, signals⟩) :
    t.pool.sessions = s.pool.sessions ∧ t.pool.holders = s.pool.holders := by
  cases h with
  | unmade | refused | refusedAnew => exact ⟨rfl, rfl⟩

namespace Tidy

/-- Whether a site is tidy depends on what is in use and on what was made, and there on nothing but
what the sessions go by and the numbers of the clusters. -/
theorem congr (h : Tidy s past) (sessions : t.pool.sessions = s.pool.sessions)
    (clusters : t.pool.clusters = s.pool.clusters)
    (made : t.grid.sessions.map Session.tag = s.grid.sessions.map Session.tag)
    (madeClusters : t.grid.clusters.map Cluster.id = s.grid.clusters.map Cluster.id) :
    Tidy t past where
  sessions := by
    rw [map_id_eq_of_map_tag_eq made, sessions]
    exact h.sessions
  clusters := by
    rw [madeClusters, clusters]
    exact h.clusters
  numbered := by
    refine ⟨fun c there => ?_, fun x there => ?_⟩
    · obtain ⟨d, before, same⟩ := List.mem_map.1 (madeClusters ▸ List.mem_map_of_mem there)
      have bound := h.numbered.clusters d before
      rwa [same, ← List.length_map Cluster.id, ← madeClusters, List.length_map] at bound
    · obtain ⟨y, before, same⟩ := List.mem_map.1 (made ▸ List.mem_map_of_mem there)
      have bound := h.numbered.sessions y before
      rwa [(Session.tag_eq_iff.1 same).1, ← List.length_map Session.tag, ← made,
        List.length_map] at bound
  placed := by
    intro key id found
    rw [sessions] at found
    obtain ⟨x, before, rfl, keyspace, reached⟩ := h.placed found
    obtain ⟨y, there, same⟩ := List.mem_map.1 (made ▸ List.mem_map_of_mem before)
    obtain ⟨id, cluster, bound⟩ := Session.tag_eq_iff.1 same
    exact ⟨y, there, id, bound.trans keyspace, by rw [clusters, cluster, reached]⟩
  ordered := by
    intro before after cluster split x there same
    obtain ⟨y, earlier, tag⟩ := List.mem_map.1 (made ▸ List.mem_map_of_mem there)
    obtain ⟨id, own, -⟩ := Session.tag_eq_iff.1 tag
    rw [← id]
    exact h.ordered before after cluster split y earlier (own.trans same)

/-- Taking hold of a session keeps a site tidy, whether it goes well or not. -/
theorem acquire (h : Tidy s past) {reply : Reply Site Nat} (attempted : Attempted s settings reply) :
    Tidy reply.state (past ++ Signal.events reply.signals) := by
  cases attempted with
  | kept found => exact (h.quiet rfl rfl).congr rfl rfl rfl rfl
  | joined absent used =>
    exact ((h.openSession absent used).quiet rfl rfl).congr rfl rfl rfl rfl
  | opened absent unmade =>
    have made := h.makeCluster unmade
    have used : (s.makeCluster settings).pool.clusters.get? settings.clusterKey =
        some s.grid.nextCluster := by
      rw [Site.makeCluster, Ledger.get?_put, if_pos rfl]
    exact ((made.openSession absent used).quiet rfl rfl).congr rfl rfl rfl rfl
  | unmade absent refused => exact (h.quiet rfl rfl).congr rfl rfl rfl rfl
  | refused used => exact (h.quiet rfl rfl).congr rfl rfl rfl rfl
  | refusedAnew absent made => exact ((h.makeCluster absent).quiet rfl rfl).congr rfl rfl rfl rfl

/-- Giving a session back keeps a site tidy. -/
theorem release (h : Tidy s past) (settings : Settings) :
    Tidy ((Pool.release settings).run s).state
      (past ++ Signal.events ((Pool.release settings).run s).signals) := by
  by_cases shared : 1 < s.pool.held settings.sessionKey
  · rw [run_release_of_shared shared]
    exact (h.quiet rfl rfl).congr rfl rfl rfl rfl
  · have last : s.pool.held settings.sessionKey ≤ 1 := Nat.le_of_not_lt shared
    have dropped := h.dropSession settings.sessionKey
    cases used : (s.dropSession settings.sessionKey).pool.usesCluster settings.clusterKey with
    | true =>
      rw [run_release_of_last last (run_dropCluster_of_used used), List.append_nil,
        events_sessionsShut]
      exact dropped
    | false =>
      rw [run_release_of_last last (run_dropCluster_of_unused used), Signal.events_append,
        events_sessionsShut, events_clustersShut, ← List.append_assoc]
      exact dropped.dropCluster used

/-- Every call keeps a site tidy. -/
theorem perform (h : Tidy s past) (call : Call) :
    Tidy (call.perform.run s).state (past ++ Signal.events (call.perform.run s).signals) := by
  cases call with
  | acquire settings =>
    rw [Call.perform, run_bind_pure]
    exact h.acquire (attempted_acquire s settings)
  | release settings =>
    rw [Call.perform, run_bind_pure]
    exact h.release settings
  | closeAll =>
    rw [Call.perform, run_bind_pure, run_closeAll, Signal.events_append, events_sessionsShut,
      events_clustersShut]
    exact h.closeAll

/-- The session in use under a key is one for the keyspace of that key. -/
theorem exists_session? (h : Tidy s past) (found : s.pool.sessions.get? key = some id) :
    ∃ x, s.grid.session? id = some x ∧ x.keyspace = key.keyspace := by
  obtain ⟨x, made, rfl, keyspace, -⟩ := h.placed found
  refine ⟨x, ?_, keyspace⟩
  cases first : s.grid.session? x.id with
  | none =>
    have other := List.find?_eq_none.1 first x made
    simp at other
  | some y =>
    have same : y.id = x.id := by simpa using List.find?_some first
    rw [List.inj_on_of_nodup_map h.sessions.distinct (List.mem_of_find?_eq_some first) made same]

end Tidy

/-- **After any calls, whatever was refused on the way**, a site is tidy. -/
theorem tidy_chronicle (tables : Catalog) (making connecting : Prospects) (calls : List Call) :
    Tidy (chronicle (.bound tables making connecting) calls).state
      (chronicle (.bound tables making connecting) calls).events := by
  induction calls using List.reverseRecOn with
  | nil => exact (Tidy.start tables).congr rfl rfl rfl rfl
  | append_singleton calls call ih =>
    rw [chronicle, List.map_append, List.map_singleton, Chronicle.extendAll_concat]
    exact ih.perform call

end Pool

end EventRoster
