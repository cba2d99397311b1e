import EventRoster.Proofs.Pool.Setbacks

/-!
# For whom a cluster was made

A session is handed to everyone who asks for its keyspace under its cluster key.  The cluster behind it
was made once, for the settings of the call that brought it into use, and it answers to the
credentials in them.  The cluster key holds the hosts, the port, the datacenter and the username, and
these are the same for all who share the cluster.  The password is no part of the key.

* `Founder`: the settings that the cluster in use under a key goes back to.
* `exists_founder`: every cluster in use has a founder, and was made for it.
* `suits_iff_founder`: a session suits whoever takes hold of it exactly if the founder's password is
  the same.
* `not_suits_of_rotated`: a password that is changed while the cluster is in use.
-/

namespace EventRoster

namespace Event

/-- The clusters that are made in some events, with the settings for which they are made. -/
def madeClusters (events : List Event) : List (Nat × Settings) :=
  events.filterMap fun
    | clusterMade id settings => some (id, settings)
    | _ => none

@[simp] theorem madeClusters_append (a b : List Event) :
    madeClusters (a ++ b) = madeClusters a ++ madeClusters b :=
  List.filterMap_append

@[simp] theorem madeClusters_map_sessionShut (ids : List Nat) :
    madeClusters (ids.map sessionShut) = [] := by
  rw [madeClusters, List.filterMap_map]
  exact List.filterMap_eq_nil_iff.2 fun _ _ => rfl

@[simp] theorem madeClusters_map_clusterShut (ids : List Nat) :
    madeClusters (ids.map clusterShut) = [] := by
  rw [madeClusters, List.filterMap_map]
  exact List.filterMap_eq_nil_iff.2 fun _ _ => rfl

theorem mem_madeClusters_iff {events : List Event} {id : Nat} {settings : Settings} :
    (id, settings) ∈ madeClusters events ↔ clusterMade id settings ∈ events := by
  rw [madeClusters, List.mem_filterMap]
  constructor
  · rintro ⟨e, member, made⟩
    cases e with
    | clusterMade => cases made; exact member
    | _ => cases made
  · intro member
    exact ⟨_, member, rfl⟩

end Event

open Event EventRoster.Action

namespace Pool

variable {s t : Site} {settings maker : Settings} {key : Settings.ClusterKey} {id : Nat} {call : Call}

/-! ## What a call does to the clusters -/

/-- What a call does to the clusters: one that is in use afterwards was in use before, or the call took
hold of a session and made it.  All that were made are told of. -/
structure Raises (s : Site) (call : Call) (t : Site) (new : List Event) : Prop where
  origin : ∀ {key : Settings.ClusterKey} {id : Nat}, t.pool.clusters.get? key = some id →
    s.pool.clusters.get? key = some id ∨
      s.pool.clusters.get? key = none ∧
        ∃ maker, call = .acquire maker ∧ maker.clusterKey = key ∧ clusterMade id maker ∈ new
  told : t.grid.clusters.map Cluster.id =
    s.grid.clusters.map Cluster.id ++ (madeClusters new).map Prod.fst

/-- A call that makes no cluster takes away some at most. -/
theorem Raises.of_le {new : List Event}
    (kept : ∀ {key : Settings.ClusterKey} {id : Nat}, t.pool.clusters.get? key = some id →
      s.pool.clusters.get? key = some id)
    (grid : t.grid.clusters = s.grid.clusters) (none : madeClusters new = []) :
    Raises s call t new where
  origin found := .inl (kept found)
  told := by rw [grid, none, List.map_nil, List.append_nil]

/-- A call that makes a cluster makes it for its own settings. -/
theorem Raises.of_made {new : List Event}
    (absent : s.pool.clusters.get? maker.clusterKey = none)
    (clusters : t.pool.clusters = s.pool.clusters.put maker.clusterKey s.grid.nextCluster)
    (grid : t.grid.clusters.map Cluster.id = s.grid.clusters.map Cluster.id ++ [s.grid.nextCluster])
    (made : madeClusters new = [(s.grid.nextCluster, maker)]) :
    Raises s (.acquire maker) t new where
  origin := by
    intro key id found
    rw [clusters, Ledger.get?_put] at found
    split at found
    · next same =>
      cases found
      subst same
      exact .inr ⟨absent, maker, rfl, rfl, mem_madeClusters_iff.1 (by simp [made])⟩
    · exact .inl found
  told := by rw [grid, made]; rfl

theorem Attempted.raises {reply : Reply Site Nat} (h : Attempted s settings reply) :
    Raises s (.acquire settings) reply.state (Signal.events reply.signals) := by
  cases h with
  | kept | joined | unmade | refused => exact .of_le id rfl rfl
  | opened absent unmade => exact .of_made unmade rfl List.map_append rfl
  | refusedAnew absent made => exact .of_made absent rfl List.map_append rfl

theorem raises_release (s : Site) (settings : Settings) :
    Raises s (.release settings) ((release settings).run s).state
      (Signal.events ((release settings).run s).signals) := by
  by_cases shared : 1 < s.pool.held settings.sessionKey
  · rw [run_release_of_shared shared]
    exact .of_le id rfl rfl
  · have last : s.pool.held settings.sessionKey ≤ 1 := Nat.le_of_not_lt shared
    cases used : (s.dropSession settings.sessionKey).pool.usesCluster settings.clusterKey with
    | true =>
      rw [run_release_of_last last (run_dropCluster_of_used used)]
      refine .of_le id rfl ?_
      rw [List.append_nil, events_sessionsShut, madeClusters_map_sessionShut]
    | false =>
      rw [run_release_of_last last (run_dropCluster_of_unused used)]
      refine .of_le ?_ rfl ?_
      · intro key id found
        rw [Site.dropCluster, Ledger.get?_erase] at found
        split at found
        · cases found
        · exact found
      · rw [Signal.events_append, events_sessionsShut, events_clustersShut, madeClusters_append,
          madeClusters_map_sessionShut, madeClusters_map_clusterShut, List.append_nil]

/-- **Any call** makes clusters for its own settings only, and only where none is in use. -/
theorem raises_perform (s : Site) (call : Call) :
    Raises s call (call.perform.run s).state (Signal.events (call.perform.run s).signals) := by
  cases call with
  | acquire settings =>
    rw [Call.perform, run_bind_pure]
    exact (attempted_acquire s settings).raises
  | release settings =>
    rw [Call.perform, run_bind_pure]
    exact raises_release s settings
  | closeAll =>
    rw [Call.perform, run_bind_pure, run_closeAll]
    refine .of_le (fun found => ?_) rfl ?_
    · cases found
    · rw [Signal.events_append, events_sessionsShut, events_clustersShut, madeClusters_append,
        madeClusters_map_sessionShut, madeClusters_map_clusterShut, List.append_nil]

/-! ## Founders -/

section Chronicles

variable {grid : Grid} {calls : List Call}

theorem chronicle_concat (grid : Grid) (calls : List Call) (call : Call) :
    chronicle grid (calls ++ [call]) = (chronicle grid calls).extend call.perform := by
  rw [chronicle, List.map_append]
  exact Chronicle.extendAll_concat _ _ _

/-- What the last of some calls did to the clusters. -/
theorem raises_chronicle (grid : Grid) (calls : List Call) (call : Call) :
    Raises (chronicle grid calls).state call (chronicle grid (calls ++ [call])).state
      ((chronicle grid calls).eventsOf call.perform) := by
  rw [chronicle_concat]
  exact raises_perform _ call

/-- After some calls a cluster is in use under a key. -/
def InUse (grid : Grid) (calls : List Call) (key : Settings.ClusterKey) : Prop :=
  ∃ id, (chronicle grid calls).state.pool.clusters.get? key = some id

/-- The settings to which the cluster in use under a key goes back: those of the call that brought it
into use, since when one has always been in use. -/
def Founder (grid : Grid) (calls : List Call) (key : Settings.ClusterKey) (maker : Settings) : Prop :=
  ∃ before after, calls = before ++ .acquire maker :: after ∧ maker.clusterKey = key ∧
    ¬InUse grid before key ∧
      ∀ part, part <+: after → InUse grid (before ++ .acquire maker :: part) key

/-- A founder is one of those who took hold of a session. -/
theorem Founder.mem (h : Founder grid calls key maker) :
    .acquire maker ∈ calls ∧ maker.clusterKey = key := by
  obtain ⟨before, after, rfl, same, -⟩ := h
  exact ⟨List.mem_append_right _ List.mem_cons_self, same⟩

/-- A founder stays the founder as long as a cluster is in use. -/
theorem Founder.concat (h : Founder grid calls key maker) (inUse : InUse grid (calls ++ [call]) key) :
    Founder grid (calls ++ [call]) key maker := by
  obtain ⟨before, after, rfl, same, absent, ever⟩ := h
  refine ⟨before, after ++ [call], by rw [List.append_assoc, List.cons_append], same, absent, ?_⟩
  intro part more
  rcases List.prefix_concat_iff.1 more with rfl | earlier
  · rwa [List.append_assoc, List.cons_append] at inUse
  · exact ever part earlier

/-- **Every cluster in use has a founder**, and was made for it. -/
theorem exists_founder
    (found : (chronicle grid calls).state.pool.clusters.get? key = some id) :
    ∃ maker, Founder grid calls key maker ∧
      clusterMade id maker ∈ (chronicle grid calls).events := by
  induction calls using List.reverseRecOn with
  | nil => cases found
  | append_singleton calls call ih =>
    have told : (chronicle grid (calls ++ [call])).events = (chronicle grid calls).events ++
        (chronicle grid calls).eventsOf call.perform := by rw [chronicle_concat]; rfl
    rw [told]
    rcases (raises_chronicle grid calls call).origin found with before | ⟨absent, maker, rfl, same, made⟩
    · obtain ⟨maker, founder, made⟩ := ih before
      exact ⟨maker, founder.concat ⟨id, found⟩, List.mem_append_left _ made⟩
    · refine ⟨maker, ⟨calls, [], rfl, same, ?_, ?_⟩, List.mem_append_right _ made⟩
      · rintro ⟨other, used⟩
        rw [absent] at used
        cases used
      · intro part more
        rw [List.prefix_nil.1 more]
        exact ⟨id, found⟩

/-- There is one founder. -/
theorem Founder.unique {other : Settings} (h : Founder grid calls key maker)
    (h' : Founder grid calls key other) : maker = other := by
  obtain ⟨before, after, rfl, -, absent, ever⟩ := h
  obtain ⟨before', after', split, -, absent', ever'⟩ := h'
  -- The longer of the two beginnings would have to be without a cluster, and with one.
  rcases List.append_eq_append_iff.1 split with ⟨middle, rfl, tail⟩ | ⟨middle, rfl, tail⟩
  · cases middle with
    | nil => cases tail; rfl
    | cons first middle =>
      obtain ⟨rfl, rfl⟩ := List.cons.inj tail
      exact absurd (ever middle (List.prefix_append _ _)) absent'
  · cases middle with
    | nil => cases tail; rfl
    | cons first middle =>
      obtain ⟨rfl, rfl⟩ := List.cons.inj tail
      exact absurd (ever' middle (List.prefix_append _ _)) absent

/-- The clusters on the grid are those that were made on the way. -/
theorem map_fst_madeClusters (empty : grid.clusters = []) (calls : List Call) :
    (madeClusters (chronicle grid calls).events).map Prod.fst =
      (chronicle grid calls).state.grid.clusters.map Cluster.id := by
  induction calls using List.reverseRecOn with
  | nil =>
    show [] = grid.clusters.map Cluster.id
    rw [empty]
    rfl
  | append_singleton calls call ih =>
    rw [(raises_chronicle grid calls call).told, ← ih, chronicle_concat, ← List.map_append,
      ← madeClusters_append]
    rfl

end Chronicles

/-! ## Sessions that suit -/

/-- A session is for a keyspace, and with a cluster that was made for some settings. -/
def MadeFor (c : Chronicle Site) (id : Nat) (keyspace : Option String) (maker : Settings) : Prop :=
  ∃ x ∈ c.state.grid.sessions, x.id = id ∧ x.keyspace = keyspace ∧
    clusterMade x.cluster maker ∈ c.events

/-- Two settings reach a cluster at the same address. -/
structure SameAddress (maker settings : Settings) : Prop where
  hosts : maker.hosts = settings.hosts
  port : maker.port = settings.port
  localDc : maker.localDc = settings.localDc
  username : maker.username = settings.username

theorem sameAddress_iff : SameAddress maker settings ↔ maker.clusterKey = settings.clusterKey := by
  rw [Settings.clusterKey, Settings.clusterKey, Settings.ClusterKey.mk.injEq]
  exact ⟨fun ⟨hosts, port, dc, user⟩ => ⟨hosts, port, dc, user⟩,
    fun ⟨hosts, port, dc, user⟩ => ⟨hosts, port, dc, user⟩⟩

/-- A session is what some settings ask for: it is for their keyspace, and its cluster was made for
their address and with their password. -/
def Suits (c : Chronicle Site) (id : Nat) (settings : Settings) : Prop :=
  ∃ maker, MadeFor c id settings.keyspace maker ∧ SameAddress maker settings ∧
    maker.password = settings.password

section Chronicles

variable {tables : Catalog} {making connecting : Prospects} {calls : List Call}
  {keyspace : Option String} {signals : List Signal}

/-- The cluster of a session was made for one. -/
theorem MadeFor.unique {other : Settings}
    (h : MadeFor (chronicle (.bound tables making connecting) calls) id keyspace maker)
    (h' : MadeFor (chronicle (.bound tables making connecting) calls) id keyspace other) :
    maker = other := by
  obtain ⟨x, listed, rfl, -, made⟩ := h
  obtain ⟨y, listed', same, -, made'⟩ := h'
  have tidy := tidy_chronicle tables making connecting calls
  obtain rfl := List.inj_on_of_nodup_map tidy.sessions.distinct listed listed' same.symm
  have distinct := tidy.clusters.distinct
  rw [← map_fst_madeClusters rfl] at distinct
  have entry := List.inj_on_of_nodup_map distinct (mem_madeClusters_iff.2 made)
    (mem_madeClusters_iff.2 made') rfl
  exact congrArg Prod.snd entry

/-- Whoever takes hold of a session is handed one for the keyspace in question, with the cluster in use
under the cluster key. -/
theorem exists_session_of_acquire
    (h : (acquire settings).run (chronicle (.bound tables making connecting) calls).state =
      ⟨.ok id, t, signals⟩) :
    let c := chronicle (.bound tables making connecting) (calls ++ [.acquire settings])
    ∃ x ∈ c.state.grid.sessions, x.id = id ∧ x.keyspace = settings.keyspace ∧
      c.state.pool.clusters.get? settings.clusterKey = some x.cluster := by
  intro c
  have state : c.state = t := by
    show (chronicle _ (calls ++ [_])).state = t
    rw [chronicle_concat, Chronicle.extend, Call.perform, run_bind_pure, h]
  have attempted := attempted_acquire (chronicle (.bound tables making connecting) calls).state settings
  rw [h] at attempted
  have acquired := attempted.acquired (tidy_chronicle tables making connecting calls)
  have found : c.state.pool.sessions.get? settings.sessionKey = some id := by
    rw [state, acquired.get?_eq, if_pos rfl]
  exact (tidy_chronicle tables making connecting (calls ++ [.acquire settings])).placed found

/-- The session that is handed out was made for the founder of its cluster. -/
theorem exists_founder_of_acquire
    (h : (acquire settings).run (chronicle (.bound tables making connecting) calls).state =
      ⟨.ok id, t, signals⟩) :
    ∃ maker, Founder (.bound tables making connecting) (calls ++ [.acquire settings])
        settings.clusterKey maker ∧
      MadeFor (chronicle (.bound tables making connecting) (calls ++ [.acquire settings])) id
        settings.keyspace maker := by
  obtain ⟨x, listed, number, bound, used⟩ := exists_session_of_acquire h
  obtain ⟨maker, founder, made⟩ := exists_founder used
  exact ⟨maker, founder, x, listed, number, bound, made⟩

/-- **A session suits whoever takes hold of it exactly if the founder of its cluster has the same
password.**  It is for the right keyspace, and its cluster was made for the right address, in any
case. -/
theorem suits_iff_founder
    (h : (acquire settings).run (chronicle (.bound tables making connecting) calls).state =
      ⟨.ok id, t, signals⟩) :
    let later := calls ++ [.acquire settings]
    let c := chronicle (.bound tables making connecting) later
    ∃ maker, (∀ other, Founder (.bound tables making connecting) later settings.clusterKey other ↔
        other = maker) ∧
      MadeFor c id settings.keyspace maker ∧ SameAddress maker settings ∧
      (Suits c id settings ↔ maker.password = settings.password) := by
  obtain ⟨maker, founder, made⟩ := exists_founder_of_acquire h
  have address : SameAddress maker settings := sameAddress_iff.2 founder.mem.2
  refine ⟨maker, fun other => ⟨fun h' => h'.unique founder, ?_⟩, made, address, ?_,
    fun password => ⟨maker, made, address, password⟩⟩
  · rintro rfl
    exact founder
  · rintro ⟨other, made', -, password⟩
    rwa [made.unique made']

/-- Settings with credentials, of which the password is changed from time to time. -/
def rotated (password : String) : Settings :=
  { username := some "registry", password := some password }

/-- A password that was changed while no cluster was in use: everyone is served with the new one. -/
theorem suits_iff_founder_renewed :
    let calls := [.acquire (rotated "old"), .release (rotated "old"),
      .acquire { rotated "new" with keyspace := some "elsewhere" }]
    let later := calls ++ [.acquire (rotated "new")]
    let c := chronicle (.bound .empty [] []) later
    ∃ t signals, (acquire (rotated "new")).run (chronicle (.bound .empty [] []) calls).state =
        ⟨.ok 3, t, signals⟩ ∧
      ∃ maker, (∀ other, Founder (.bound .empty [] []) later (rotated "new").clusterKey other ↔
          other = maker) ∧
        MadeFor c 3 (rotated "new").keyspace maker ∧ SameAddress maker (rotated "new") ∧
        (Suits c 3 (rotated "new") ↔ maker.password = (rotated "new").password) :=
  ⟨_, _, rfl, suits_iff_founder rfl⟩

/-- **A session need not suit whoever takes hold of it.**  The password was changed while the cluster
was in use, and whoever asks with the new one is handed the session of the old. -/
theorem not_suits_of_rotated :
    (rotated "old").fault? = none ∧ (rotated "new").fault? = none ∧
      ∃ t signals, (acquire (rotated "new")).run
          (chronicle (.bound .empty [] []) [.acquire (rotated "old")]).state =
          ⟨.ok 1, t, signals⟩ ∧
        ¬Suits (chronicle (.bound .empty [] [])
          [.acquire (rotated "old"), .acquire (rotated "new")]) 1 (rotated "new") := by
  refine ⟨by decide, by decide, _, _, rfl, ?_⟩
  rintro ⟨maker, made, -, password⟩
  have first : MadeFor (chronicle (.bound .empty [] [])
      [.acquire (rotated "old"), .acquire (rotated "new")]) 1 (rotated "new").keyspace
      (rotated "old") :=
    ⟨_, List.mem_cons_self, rfl, rfl, List.mem_cons_self⟩
  rw [made.unique first] at password
  exact absurd password (by decide)

end Chronicles

end Pool

end EventRoster
