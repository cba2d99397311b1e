import EventRoster.Proofs.Ledger
import EventRoster.Proofs.Pool.Calls

/-!
# What was made is in use or was shut

Sessions are numbered as they are made, and so are clusters.  Each of them is either in use, under one
key, or was shut, and then shut once.  `Inventory` says so in one line: the numbers in use, followed
by those that were shut, are the numbers that were made, in some order.  The same definition serves
sessions and clusters.

`Tidy` ties the inventories of a site together.  A session in use is with the cluster in use under its
key, and a cluster is shut only after all sessions with it.  Every small change of a site keeps it
tidy.

* `Inventory.add`, `Inventory.drop`, `Inventory.clear`: how an inventory changes.
* `Inventory.mem_new_iff`: what is shut next is what goes out of use.
* `Tidy.makeCluster`, `Tidy.openSession`, `Tidy.dropSession`, `Tidy.dropCluster`, `Tidy.closeAll`: how
  a tidy site changes.
-/

namespace EventRoster

open Event

/-! ## Inventories -/

/-- Things of which some are in use under keys, and others were shut. -/
structure Inventory {κ : Type} [DecidableEq κ] (made : List Nat) (inUse : Ledger κ Nat)
    (shut : List Nat) : Prop where
  /-- No key stands for two things. -/
  keys : inUse.keys.Nodup
  /-- No number was given twice. -/
  distinct : made.Nodup
  /-- What was made is in use or was shut. -/
  parted : (inUse.values ++ shut).Perm made

namespace Inventory

variable {κ : Type} [DecidableEq κ] {made shut : List Nat} {inUse : Ledger κ Nat} {key other : κ}
  {id : Nat}

theorem empty : Inventory [] ([] : Ledger κ Nat) [] :=
  ⟨List.nodup_nil, List.nodup_nil, List.Perm.refl _⟩

theorem nodup_parted (h : Inventory made inUse shut) : (inUse.values ++ shut).Nodup :=
  h.parted.nodup_iff.2 h.distinct

/-- Nothing was shut twice. -/
theorem nodup_shut (h : Inventory made inUse shut) : shut.Nodup :=
  (List.nodup_append.1 h.nodup_parted).2.1

theorem mem_made_iff (h : Inventory made inUse shut) :
    id ∈ made ↔ id ∈ inUse.values ∨ id ∈ shut := by
  rw [← h.parted.mem_iff, List.mem_append]

/-- What is in use was not shut. -/
theorem not_mem_shut (h : Inventory made inUse shut) (used : id ∈ inUse.values) : id ∉ shut := by
  intro was
  exact (List.nodup_append.1 h.nodup_parted).2.2 id used id was rfl

/-- What was made was shut exactly if it is not in use. -/
theorem mem_shut_iff (h : Inventory made inUse shut) (was : id ∈ made) :
    id ∈ shut ↔ id ∉ inUse.values := by
  constructor
  · intro shut used
    exact h.not_mem_shut used shut
  · intro unused
    exact (h.mem_made_iff.1 was).resolve_left unused

theorem mem_values_of_get? (h : Inventory made inUse shut) (found : inUse.get? key = some id) :
    id ∈ inUse.values :=
  (Ledger.mem_values_iff h.keys).2 ⟨key, found⟩

theorem mem_made_of_get? (h : Inventory made inUse shut) (found : inUse.get? key = some id) :
    id ∈ made :=
  h.mem_made_iff.2 (.inl (h.mem_values_of_get? found))

/-- Nothing is in use under two keys. -/
theorem key_unique (h : Inventory made inUse shut) (found : inUse.get? key = some id)
    (again : inUse.get? other = some id) : key = other := by
  have values : inUse.values.Nodup := (List.nodup_append.1 h.nodup_parted).1
  have same := List.inj_on_of_nodup_map values (Ledger.mem_of_get? found)
    (Ledger.mem_of_get? again) rfl
  exact congrArg Prod.fst same

/-- Something new is made and comes into use. -/
theorem add (h : Inventory made inUse shut) (free : inUse.get? key = none) (new : id ∉ made) :
    Inventory (made ++ [id]) (inUse.put key id) shut where
  keys := by
    rw [Ledger.keys_put, if_neg (Ledger.get?_eq_none_iff.1 free), ← List.concat_eq_append]
    exact h.keys.concat (Ledger.get?_eq_none_iff.1 free)
  distinct := by
    rw [← List.concat_eq_append]
    exact h.distinct.concat new
  parted := by
    have values : (inUse.put key id).values = inUse.values ++ [id] := by
      rw [Ledger.put_of_get?_eq_none free, Ledger.values, List.map_append]
      rfl
    rw [values, List.append_assoc]
    refine List.Perm.trans (List.perm_append_comm.append_left _) ?_
    rw [← List.append_assoc]
    exact h.parted.append_right [id]

/-- Something goes out of use and is shut. -/
theorem drop (h : Inventory made inUse shut) (found : inUse.get? key = some id) :
    Inventory made (inUse.erase key) (shut ++ [id]) where
  keys := Ledger.nodup_keys_erase h.keys key
  distinct := h.distinct
  parted := by
    refine List.Perm.trans ?_ h.parted
    have values := (Ledger.values_perm_erase h.keys found).append_right shut
    refine List.Perm.trans ?_ values.symm
    rw [← List.append_assoc]
    exact List.perm_append_singleton id _

/-- Everything goes out of use and is shut. -/
theorem clear (h : Inventory made inUse shut) :
    Inventory made ([] : Ledger κ Nat) (shut ++ inUse.values) where
  keys := List.nodup_nil
  distinct := h.distinct
  parted := by
    show (shut ++ inUse.values).Perm made
    exact List.perm_append_comm.trans h.parted

/-- What is shut next is what goes out of use, unless something is made at the same time. -/
theorem mem_new_iff {made' new : List Nat} {inUse' : Ledger κ Nat}
    (before : Inventory made inUse shut)
    (after : Inventory made' inUse' (shut ++ new)) (more : made ⊆ made')
    (apart : new = [] ∨ made' = made) :
    id ∈ new ↔ id ∈ inUse.values ∧ id ∉ inUse'.values := by
  constructor
  · intro member
    have shutNow : id ∈ shut ++ new := List.mem_append_right _ member
    have unused : id ∉ inUse'.values := fun used => after.not_mem_shut used shutNow
    refine ⟨?_, unused⟩
    rcases apart with none | same
    · rw [none] at member
      cases member
    · have was : id ∈ made := same ▸ after.mem_made_iff.2 (.inr shutNow)
      refine (before.mem_made_iff.1 was).resolve_right ?_
      intro earlier
      exact (List.nodup_append.1 after.nodup_shut).2.2 id earlier id member rfl
  · rintro ⟨used, unused⟩
    have was : id ∈ made' := more (before.mem_made_iff.2 (.inl used))
    rcases List.mem_append.1 ((after.mem_shut_iff was).2 unused) with earlier | member
    · exact absurd earlier (before.not_mem_shut used)
    · exact member

end Inventory

/-! ## Numbers and the order of shutting -/

/-- No number of a cluster or session is greater than how many there are. -/
structure Grid.Numbered (g : Grid) : Prop where
  clusters : ∀ c ∈ g.clusters, c.id ≤ g.clusters.length
  sessions : ∀ x ∈ g.sessions, x.id ≤ g.sessions.length

namespace Grid.Numbered

variable {g : Grid}

theorem nextCluster_not_mem (h : g.Numbered) : g.nextCluster ∉ g.clusters.map Cluster.id := by
  intro member
  obtain ⟨c, hc, same⟩ := List.mem_map.1 member
  have bound := h.clusters c hc
  rw [same, nextCluster] at bound
  omega

theorem nextSession_not_mem (h : g.Numbered) : g.nextSession ∉ g.sessions.map Session.id := by
  intro member
  obtain ⟨x, hx, same⟩ := List.mem_map.1 member
  have bound := h.sessions x hx
  rw [same, nextSession] at bound
  omega

theorem addCluster (h : g.Numbered) : g.addCluster.Numbered where
  clusters := by
    intro c hc
    rw [Grid.addCluster, List.length_append, List.length_singleton]
    rcases List.mem_append.1 hc with old | new
    · have bound := h.clusters c old
      omega
    · rw [List.mem_singleton.1 new]
      exact Nat.le_refl _
  sessions := h.sessions

theorem addSession (h : g.Numbered) (cluster : Nat) (keyspace : Option String) :
    (g.addSession cluster keyspace).Numbered where
  clusters := h.clusters
  sessions := by
    intro x hx
    rw [Grid.addSession, List.length_append, List.length_singleton]
    rcases List.mem_append.1 hx with old | new
    · have bound := h.sessions x old
      omega
    · rw [List.mem_singleton.1 new]
      exact Nat.le_refl _

end Grid.Numbered

/-- When a cluster is shut, all sessions with it have been shut before. -/
def ClustersLast (sessions : List Session) (events : List Event) : Prop :=
  ∀ before after cluster, events = before ++ clusterShut cluster :: after →
    ∀ x ∈ sessions, x.cluster = cluster → x.id ∈ shutSessions before

namespace ClustersLast

variable {sessions : List Session} {past new : List Event}

/-- More events keep the order if they do. -/
theorem append (h : ClustersLast sessions past)
    (later : ∀ before after cluster, new = before ++ clusterShut cluster :: after →
      ∀ x ∈ sessions, x.cluster = cluster → x.id ∈ shutSessions (past ++ before)) :
    ClustersLast sessions (past ++ new) := by
  intro before after cluster split x hx same
  rcases List.append_eq_append_iff.1 split with ⟨middle, rfl, tail⟩ | ⟨middle, head, tail⟩
  · exact later middle after cluster tail x hx same
  · cases middle with
    | nil =>
      rw [List.append_nil] at head
      rw [List.nil_append] at tail
      have shut := later [] after cluster tail.symm x hx same
      rwa [List.append_nil, head] at shut
    | cons e rest =>
      rw [List.cons_append, List.cons.injEq] at tail
      obtain ⟨rfl, -⟩ := tail
      exact h before rest cluster head x hx same

/-- Events in which no cluster is shut keep the order. -/
theorem append_of_no_cluster (h : ClustersLast sessions past) (none : shutClusters new = []) :
    ClustersLast sessions (past ++ new) := by
  refine h.append ?_
  intro before after cluster split
  have shut : cluster ∈ shutClusters new := mem_shutClusters_iff.2 (by simp [split])
  rw [none] at shut
  cases shut

/-- A new session is out of question if its cluster was not shut. -/
theorem concat_session {x : Session} (h : ClustersLast sessions past)
    (unshut : x.cluster ∉ shutClusters past) : ClustersLast (sessions ++ [x]) past := by
  intro before after cluster split y hy same
  rcases List.mem_append.1 hy with old | new
  · exact h before after cluster split y old same
  · obtain rfl := List.mem_singleton.1 new
    refine absurd ?_ unshut
    rw [same, split, mem_shutClusters_iff]
    simp

end ClustersLast

/-! ## Tidy sites -/

namespace Pool

variable {s : Site} {past new : List Event} {settings : Settings} {key : SessionKey}
  {cluster : Nat}

/-- The cluster of a session in use is in use. -/
theorem usesCluster_of_get? {p : Pool} {id : Nat} (h : p.sessions.get? key = some id) :
    p.usesCluster key.cluster = true :=
  List.any_eq_true.2 ⟨_, Ledger.mem_of_get? h, decide_eq_true rfl⟩

/-- A site on which all that was made is accounted for, after some events. -/
structure Tidy (s : Site) (past : List Event) : Prop where
  sessions : Inventory (s.grid.sessions.map Session.id) s.pool.sessions (shutSessions past)
  clusters : Inventory (s.grid.clusters.map Cluster.id) s.pool.clusters (shutClusters past)
  numbered : s.grid.Numbered
  /-- The session under a key is with the cluster under that key, and for its keyspace. -/
  placed : ∀ {key : SessionKey} {id : Nat}, s.pool.sessions.get? key = some id →
    ∃ x ∈ s.grid.sessions, x.id = id ∧ x.keyspace = key.keyspace ∧
      s.pool.clusters.get? key.cluster = some x.cluster
  ordered : ClustersLast s.grid.sessions past

namespace Tidy

/-- Before anything is asked of it, a site is tidy. -/
theorem start (tables : Catalog) : Tidy ⟨empty, .bare tables⟩ [] where
  sessions := Inventory.empty
  clusters := Inventory.empty
  numbered := ⟨List.forall_mem_nil _, List.forall_mem_nil _⟩
  placed := by
    intro key id found
    cases found
  ordered := by
    intro before after cluster split x hx
    cases hx

/-- Events in which nothing is shut leave a site tidy. -/
theorem quiet (h : Tidy s past) (sessions : shutSessions new = []) (clusters : shutClusters new = []) :
    Tidy s (past ++ new) where
  sessions := by
    rw [shutSessions_append, sessions, List.append_nil]
    exact h.sessions
  clusters := by
    rw [shutClusters_append, clusters, List.append_nil]
    exact h.clusters
  numbered := h.numbered
  placed := h.placed
  ordered := h.ordered.append_of_no_cluster clusters

theorem makeCluster (h : Tidy s past)
    (absent : s.pool.clusters.get? settings.clusterKey = none) :
    Tidy (s.makeCluster settings) past where
  sessions := h.sessions
  clusters := by
    have made : (s.makeCluster settings).grid.clusters.map Cluster.id =
        s.grid.clusters.map Cluster.id ++ [s.grid.nextCluster] := List.map_append
    rw [made]
    exact h.clusters.add absent h.numbered.nextCluster_not_mem
  numbered := by
    have before : s.grid.afterMaking.Numbered := ⟨h.numbered.clusters, h.numbered.sessions⟩
    exact before.addCluster
  placed := by
    intro key id found
    obtain ⟨x, hx, same, bound, used⟩ := h.placed found
    refine ⟨x, hx, same, bound, ?_⟩
    have different : settings.clusterKey ≠ key.cluster := by
      intro eq
      rw [eq, used] at absent
      cases absent
    rw [Site.makeCluster, Ledger.get?_put, if_neg different]
    exact used
  ordered := h.ordered

theorem openSession (h : Tidy s past)
    (absent : s.pool.sessions.get? settings.sessionKey = none)
    (used : s.pool.clusters.get? settings.clusterKey = some cluster) :
    Tidy (s.openSession settings cluster) past where
  sessions := by
    have made : (s.openSession settings cluster).grid.sessions.map Session.id =
        s.grid.sessions.map Session.id ++ [s.grid.nextSession] := List.map_append
    rw [made]
    exact h.sessions.add absent h.numbered.nextSession_not_mem
  clusters := h.clusters
  numbered := by
    have before : s.grid.afterConnecting.Numbered := ⟨h.numbered.clusters, h.numbered.sessions⟩
    exact before.addSession cluster settings.keyspace
  placed := by
    intro key id found
    rw [Site.openSession, Ledger.get?_put] at found
    split at found
    · next same =>
      cases found
      subst same
      exact ⟨_, List.mem_append_right _ (List.mem_singleton_self _), rfl, rfl, used⟩
    · obtain ⟨x, hx, same, bound, reached⟩ := h.placed found
      exact ⟨x, List.mem_append_left _ hx, same, bound, reached⟩
  ordered := h.ordered.concat_session (h.clusters.not_mem_shut (h.clusters.mem_values_of_get? used))

theorem dropSession (h : Tidy s past) (key : SessionKey) :
    Tidy (s.dropSession key) (past ++ (s.pool.sessions.get? key).toList.map sessionShut) := by
  cases found : s.pool.sessions.get? key with
  | none =>
    have same : s.pool.sessions.erase key = s.pool.sessions := Ledger.erase_of_get?_eq_none found
    refine Tidy.quiet ?_ rfl rfl
    rw [Site.dropSession, same]
    exact ⟨h.sessions, h.clusters, h.numbered, h.placed, h.ordered⟩
  | some id =>
    refine ⟨?_, ?_, h.numbered, ?_, h.ordered.append_of_no_cluster rfl⟩
    · rw [shutSessions_append]
      exact h.sessions.drop found
    · rw [shutClusters_append, shutClusters_map_sessionShut, List.append_nil]
      exact h.clusters
    · intro other n still
      rw [Site.dropSession, Ledger.get?_erase] at still
      split at still
      · cases still
      · exact h.placed still

/-- A session that was not shut is in use, with its cluster. -/
theorem exists_get?_of_not_mem (h : Tidy s past) {x : Session} (hx : x ∈ s.grid.sessions)
    (unshut : x.id ∉ shutSessions past) :
    ∃ key, s.pool.sessions.get? key = some x.id ∧
      s.pool.clusters.get? key.cluster = some x.cluster := by
  have used := (h.sessions.mem_made_iff.1 (List.mem_map_of_mem hx)).resolve_right unshut
  obtain ⟨key, found⟩ := (Ledger.mem_values_iff h.sessions.keys).1 used
  obtain ⟨y, hy, same, -, reached⟩ := h.placed found
  obtain rfl := List.inj_on_of_nodup_map h.sessions.distinct hy hx same
  exact ⟨key, found, reached⟩

theorem dropCluster (h : Tidy s past) {key : Settings.ClusterKey}
    (unused : s.pool.usesCluster key = false) :
    Tidy (s.dropCluster key) (past ++ (s.pool.clusters.get? key).toList.map clusterShut) := by
  cases found : s.pool.clusters.get? key with
  | none =>
    have same : s.pool.clusters.erase key = s.pool.clusters := Ledger.erase_of_get?_eq_none found
    refine Tidy.quiet ?_ rfl rfl
    rw [Site.dropCluster, same]
    exact h
  | some id =>
    refine ⟨?_, ?_, h.numbered, ?_, h.ordered.append ?_⟩
    · rw [shutSessions_append, shutSessions_map_clusterShut, List.append_nil]
      exact h.sessions
    · rw [shutClusters_append]
      exact h.clusters.drop found
    · intro other n still
      have kept : s.pool.sessions.get? other = some n := still
      obtain ⟨x, hx, same, bound, reached⟩ := h.placed kept
      refine ⟨x, hx, same, bound, ?_⟩
      have different : key ≠ other.cluster := by
        rintro rfl
        rw [usesCluster_of_get? kept] at unused
        cases unused
      rw [Site.dropCluster, Ledger.get?_erase, if_neg different]
      exact reached
    · -- The cluster is shut at once, so its sessions have to be shut already.
      intro before after cluster split x hx same
      by_contra unshut
      obtain ⟨rfl, here⟩ : before = [] ∧ id = cluster := by
        cases before with
        | nil => exact ⟨rfl, by simpa using congrArg List.head? split⟩
        | cons e rest => simp at split
      rw [List.append_nil] at unshut
      obtain ⟨other, used, reached⟩ := h.exists_get?_of_not_mem hx unshut
      rw [same, ← here] at reached
      have owner := h.clusters.key_unique found reached
      rw [owner, usesCluster_of_get? used] at unused
      cases unused

theorem closeAll (h : Tidy s past) :
    Tidy { s with pool := empty }
      (past ++ (s.pool.sessions.values.map sessionShut ++
        s.pool.clusters.values.map clusterShut)) := by
  refine ⟨?_, ?_, h.numbered, nofun, ?_⟩
  · rw [shutSessions_append, shutSessions_append, shutSessions_map_sessionShut,
      shutSessions_map_clusterShut, List.append_nil]
    exact h.sessions.clear
  · rw [shutClusters_append, shutClusters_append, shutClusters_map_clusterShut,
      shutClusters_map_sessionShut, List.nil_append]
    exact h.clusters.clear
  · rw [← List.append_assoc]
    have sessionsFirst := h.ordered.append_of_no_cluster
      (shutClusters_map_sessionShut s.pool.sessions.values)
    refine sessionsFirst.append ?_
    intro before after cluster split x hx same
    have made : x.id ∈ s.grid.sessions.map Session.id := List.mem_map_of_mem hx
    have shut := h.sessions.clear.mem_made_iff.1 made
    rw [shutSessions_append, shutSessions_append, shutSessions_map_sessionShut]
    exact List.mem_append_left _ (shut.resolve_left List.not_mem_nil)

end Tidy

end Pool

end EventRoster
