import EventRoster.Proofs.Pool.Bookkeeping
import Mathlib.Data.List.Infix

/-!
# Pools after any sequence of calls

What a pool promises, where clusters can be made and connected to, about every sequence of calls:
sessions that are given back more often than they were taken, or again and again, and everything shut
at any time.

* `exists_sinceAbsent`: the holders of a session are those that took it and have not given it back,
  counted from when the session was last not in use.
* `get?_after_append`: a session stays under its key as long as it is in use.
* `WellKept`, `wellKept`: all promises, and that they are kept.
-/

namespace EventRoster

open Event EventRoster.Action

namespace Pool

variable {s t : Site} {past new : List Event} {key : SessionKey} {id : Nat} {call : Call}

/-- The chronicle of some calls where nothing is bound to fail. -/
def after (tables : Catalog) (calls : List Call) : Chronicle Site :=
  chronicle (.bare tables) calls

/-- The pool after some calls. -/
def poolAfter (tables : Catalog) (calls : List Call) : Pool :=
  (after tables calls).state.pool

section Sequences

variable (tables : Catalog)

theorem after_concat (calls : List Call) (call : Call) :
    after tables (calls ++ [call]) = (after tables calls).extend call.perform := by
  rw [after, chronicle, List.map_append]
  exact Chronicle.extendAll_concat _ _ _

/-- The books are in order after any calls. -/
theorem sound_after (calls : List Call) :
    Sound (after tables calls).state (after tables calls).events := by
  induction calls using List.reverseRecOn with
  | nil => exact Sound.start tables
  | append_singleton calls call ih =>
    obtain ⟨answer, t, signals, runs, performed⟩ := ih.exists_run_perform call
    rw [after_concat, Chronicle.extend, Chronicle.eventsOf, runs]
    exact performed.sound

/-- One more call. -/
theorem performed_after (calls : List Call) (call : Call) :
    Performed (after tables calls).state (after tables calls).events call
      (after tables (calls ++ [call])).state
      ((after tables calls).eventsOf call.perform) := by
  obtain ⟨answer, t, signals, runs, performed⟩ := (sound_after tables calls).exists_run_perform call
  rw [after_concat, Chronicle.extend, Chronicle.eventsOf, runs]
  exact performed

end Sequences

/-! ## Counting holders -/

/-- Whether a call takes hold of a session. -/
def Call.takes (key : SessionKey) : Call → Bool
  | acquire settings => settings.sessionKey = key
  | release _ | closeAll => false

/-- Whether a call gives a session back. -/
def Call.gives (key : SessionKey) : Call → Bool
  | release settings => settings.sessionKey = key
  | acquire _ | closeAll => false

/-- A call that leaves a session in use counts its holders up or down. -/
theorem Performed.held_add (h : Performed s past call t new)
    (inUse : key ∈ t.pool.sessions.keys) :
    t.pool.held key + (if call.gives key then 1 else 0) =
      s.pool.held key + if call.takes key then 1 else 0 := by
  obtain ⟨n, found⟩ := Ledger.mem_keys_iff.1 inUse
  cases call with
  | acquire settings =>
    obtain ⟨id, acquired⟩ : ∃ id, Acquired s settings.sessionKey id t := h.effect
    rw [acquired.held_eq]
    by_cases same : settings.sessionKey = key
    · simp [Call.takes, Call.gives, same]
    · simp [Call.takes, Call.gives, same]
  | release settings =>
    have released : Released s settings.sessionKey t := h.effect
    rw [released.get?_eq] at found
    rw [released.held_eq]
    by_cases same : settings.sessionKey = key
    · rw [same] at found
      have more : ¬s.pool.held key ≤ 1 := by
        intro last
        rw [if_pos ⟨rfl, last⟩] at found
        cases found
      simp only [Call.takes, Call.gives, same, decide_true, if_true, Bool.false_eq_true, if_false]
      omega
    · simp [Call.takes, Call.gives, same]
  | closeAll =>
    have emptied : t.pool = empty := h.effect
    rw [emptied] at found
    cases found

/-- A session stays the same as long as it is in use. -/
theorem Performed.get?_eq (h : Performed s past call t new)
    (found : s.pool.sessions.get? key = some id) (inUse : key ∈ t.pool.sessions.keys) :
    t.pool.sessions.get? key = some id := by
  obtain ⟨n, still⟩ := Ledger.mem_keys_iff.1 inUse
  cases call with
  | acquire settings =>
    obtain ⟨m, acquired⟩ : ∃ id, Acquired s settings.sessionKey id t := h.effect
    exact acquired.get?_of_some found
  | release settings =>
    have released : Released s settings.sessionKey t := h.effect
    rw [released.get?_eq] at still ⊢
    split at still
    · cases still
    · next kept => rw [if_neg kept, found]
  | closeAll =>
    have emptied : t.pool = empty := h.effect
    rw [emptied] at still
    cases still

/-- The last of some calls, all those since a session was last not in use. -/
def SinceAbsent (tables : Catalog) (calls : List Call) (key : SessionKey) (since : List Call) :
    Prop :=
  ∃ before, calls = before ++ since ∧ key ∉ (poolAfter tables before).sessions.keys ∧
    ∀ part, part <+: since → part ≠ [] → key ∈ (poolAfter tables (before ++ part)).sessions.keys

/-- **The holders are counted.**  They are as many as took hold of the session since it was last not in
use, less those that gave it back. -/
theorem exists_sinceAbsent (tables : Catalog) (calls : List Call) (key : SessionKey) :
    ∃ since, SinceAbsent tables calls key since ∧
      (poolAfter tables calls).held key + since.countP (·.gives key) =
        since.countP (·.takes key) := by
  induction calls using List.reverseRecOn with
  | nil =>
    refine ⟨[], ⟨[], rfl, List.not_mem_nil, ?_⟩, rfl⟩
    intro part h nonempty
    exact absurd (List.prefix_nil.1 h) nonempty
  | append_singleton calls call ih =>
    by_cases inUse : key ∈ (poolAfter tables (calls ++ [call])).sessions.keys
    · obtain ⟨since, ⟨before, rfl, absent, ever⟩, counted⟩ := ih
      refine ⟨since ++ [call], ⟨before, List.append_assoc .., absent, ?_⟩, ?_⟩
      · intro part h nonempty
        rcases List.prefix_concat_iff.1 h with rfl | earlier
        · rw [← List.append_assoc]
          exact inUse
        · exact ever part earlier nonempty
      · have step := (performed_after tables (before ++ since) call).held_add inUse
        rw [List.countP_append, List.countP_append, List.countP_singleton, List.countP_singleton]
        rw [poolAfter] at counted ⊢
        omega
    · refine ⟨[], ⟨calls ++ [call], (List.append_nil _).symm, inUse, ?_⟩, ?_⟩
      · intro part h nonempty
        exact absurd (List.prefix_nil.1 h) nonempty
      · have sound := sound_after tables (calls ++ [call])
        have unheld : ¬1 ≤ (poolAfter tables (calls ++ [call])).held key :=
          fun held => inUse (sound.one_le_held_iff.1 held)
        have none : (poolAfter tables (calls ++ [call])).held key = 0 := by omega
        rw [none]
        rfl

/-- **A session stays under its key** as long as it is in use. -/
theorem get?_after_append {tables : Catalog} {calls : List Call}
    (found : (poolAfter tables calls).sessions.get? key = some id) (more : List Call)
    (inUse : ∀ part, part <+: more → key ∈ (poolAfter tables (calls ++ part)).sessions.keys) :
    (poolAfter tables (calls ++ more)).sessions.get? key = some id := by
  induction more using List.reverseRecOn with
  | nil => rwa [List.append_nil]
  | append_singleton more call ih =>
    have before := ih fun part h => inUse part (h.trans (List.prefix_append _ _))
    have now := inUse (more ++ [call]) List.prefix_rfl
    rw [← List.append_assoc] at now ⊢
    exact (performed_after tables (calls ++ more) call).get?_eq before now

/-! ## What a call shuts -/

/-- The sessions that a call shuts are those that go out of use. -/
theorem Performed.mem_shutSessions_iff (h : Performed s past call t new) (before : Tidy s past)
    {id : Nat} : id ∈ shutSessions new ↔
      id ∈ s.pool.sessions.values ∧ id ∉ t.pool.sessions.values := by
  have after := h.sound.tidy.sessions
  rw [shutSessions_append] at after
  refine before.sessions.mem_new_iff after (h.grows.sessions.map _).subset ?_
  exact h.apart.imp And.left fun same => by rw [same]

/-- The clusters that a call shuts are those that go out of use. -/
theorem Performed.mem_shutClusters_iff (h : Performed s past call t new) (before : Tidy s past)
    {id : Nat} : id ∈ shutClusters new ↔
      id ∈ s.pool.clusters.values ∧ id ∉ t.pool.clusters.values := by
  have after := h.sound.tidy.clusters
  rw [shutClusters_append] at after
  refine before.clusters.mem_new_iff after (h.grows.clusters.map _).subset ?_
  exact h.apart.imp And.right fun same => by rw [same]

/-- A session that is under a key after a call was under it before, or is new. -/
theorem Performed.get?_of_made (h : Performed s past call t new)
    (found : t.pool.sessions.get? key = some id) (made : id ∈ s.grid.sessions.map Session.id) :
    s.pool.sessions.get? key = some id := by
  cases call with
  | acquire settings =>
    obtain ⟨n, acquired⟩ : ∃ n, Acquired s settings.sessionKey n t := h.effect
    rw [acquired.get?_eq] at found
    split at found
    · next same =>
      cases found
      rcases acquired.found with before | ⟨-, fresh⟩
      · rwa [← same]
      · exact absurd made fresh
    · exact found
  | release settings =>
    have released : Released s settings.sessionKey t := h.effect
    rw [released.get?_eq] at found
    split at found
    · cases found
    · exact found
  | closeAll =>
    have emptied : t.pool = empty := h.effect
    rw [emptied] at found
    cases found

/-- A session in use stays under its key or is shut. -/
theorem Performed.get?_eq_or_mem_shut (h : Performed s past call t new) (before : Tidy s past)
    (found : s.pool.sessions.get? key = some id) :
    t.pool.sessions.get? key = some id ∨ id ∈ shutSessions new := by
  by_cases inUse : key ∈ t.pool.sessions.keys
  · exact .inl (h.get?_eq found inUse)
  · refine .inr ((h.mem_shutSessions_iff before).2 ⟨before.sessions.mem_values_of_get? found, ?_⟩)
    intro used
    obtain ⟨other, still⟩ := (Ledger.mem_values_iff h.sound.tidy.sessions.keys).1 used
    have earlier := h.get?_of_made still (before.sessions.mem_made_of_get? found)
    rw [before.sessions.key_unique found earlier] at inUse
    exact inUse (Ledger.mem_keys_iff.2 ⟨id, still⟩)

/-! ## All promises -/

/-- What a pool promises after some calls. -/
structure WellKept (tables : Catalog) (calls : List Call) : Prop where
  /-- The sessions in use are those with holders. -/
  holders_keys : (poolAfter tables calls).holders.keys = (poolAfter tables calls).sessions.keys
  /-- No session in use has no holder. -/
  one_le : ∀ {key n}, (poolAfter tables calls).holders.get? key = some n → 1 ≤ n
  /-- The holders of a session are those that took hold of it since it was last not in use, less
  those that gave it back. -/
  counted : ∀ key, ∃ since, SinceAbsent tables calls key since ∧
    (poolAfter tables calls).held key + since.countP (·.gives key) = since.countP (·.takes key)
  /-- A cluster is in use exactly if a session with it is. -/
  cluster_iff : ∀ ck, ck ∈ (poolAfter tables calls).clusters.keys ↔
    ∃ key ∈ (poolAfter tables calls).sessions.keys, key.cluster = ck
  /-- Whoever asks for a session gets the one under its key, which was not shut: the one that was in
  use before, if there was one. -/
  acquire : ∀ settings : Settings, ∃ id,
    ((Pool.acquire settings).run (after tables calls).state).result = .ok id ∧
      id ∉ shutSessions (after tables (calls ++ [.acquire settings])).events ∧
      (poolAfter tables (calls ++ [.acquire settings])).sessions.get? settings.sessionKey =
        some id ∧
      ∀ old, (poolAfter tables calls).sessions.get? settings.sessionKey = some old → id = old
  /-- A session stays under its key as long as the key is in use. -/
  stays : ∀ {key id} (more : List Call), (poolAfter tables calls).sessions.get? key = some id →
    (∀ part, part <+: more → key ∈ (poolAfter tables (calls ++ part)).sessions.keys) →
    (poolAfter tables (calls ++ more)).sessions.get? key = some id
  /-- No session is shut twice. -/
  sessions_nodup : (shutSessions (after tables calls).events).Nodup
  /-- No cluster is shut twice. -/
  clusters_nodup : (shutClusters (after tables calls).events).Nodup
  /-- A session that was ever opened was shut exactly if it is not in use. -/
  session_shut_iff : ∀ x ∈ (after tables calls).state.grid.sessions,
    x.id ∈ shutSessions (after tables calls).events ↔
      x.id ∉ (poolAfter tables calls).sessions.values
  /-- A cluster that was ever made was shut exactly if it is not in use. -/
  cluster_shut_iff : ∀ c ∈ (after tables calls).state.grid.clusters,
    c.id ∈ shutClusters (after tables calls).events ↔
      c.id ∉ (poolAfter tables calls).clusters.values
  /-- The next call shuts just those sessions that it takes out of use. -/
  session_leaves_iff : ∀ call id,
    id ∈ shutSessions ((after tables calls).eventsOf (Call.perform call)) ↔
      id ∈ (poolAfter tables calls).sessions.values ∧
        id ∉ (poolAfter tables (calls ++ [call])).sessions.values
  /-- The next call shuts just those clusters that it takes out of use. -/
  cluster_leaves_iff : ∀ call id,
    id ∈ shutClusters ((after tables calls).eventsOf (Call.perform call)) ↔
      id ∈ (poolAfter tables calls).clusters.values ∧
        id ∉ (poolAfter tables (calls ++ [call])).clusters.values
  /-- When a cluster is shut, all sessions that are ever opened with it have been shut before. -/
  clusters_last : ClustersLast (after tables calls).state.grid.sessions (after tables calls).events

/-- A cluster is in use exactly if a session with it is. -/
theorem Sound.mem_clusters_keys_iff (h : Sound s past) (ck : Settings.ClusterKey) :
    ck ∈ s.pool.clusters.keys ↔ ∃ key ∈ s.pool.sessions.keys, key.cluster = ck := by
  constructor
  · intro member
    obtain ⟨id, found⟩ := Ledger.mem_keys_iff.1 member
    exact usesCluster_iff.1 (h.used found)
  · rintro ⟨key, member, rfl⟩
    obtain ⟨id, found⟩ := Ledger.mem_keys_iff.1 member
    obtain ⟨x, -, -, -, reached⟩ := h.tidy.placed found
    exact Ledger.mem_keys_iff.2 ⟨x.cluster, reached⟩

/-- Whoever asks for a session gets the one under its key, which was not shut. -/
theorem exists_acquire_after (tables : Catalog) (calls : List Call) (settings : Settings) :
    ∃ id, ((Pool.acquire settings).run (after tables calls).state).result = .ok id ∧
      id ∉ shutSessions (after tables (calls ++ [.acquire settings])).events ∧
      (poolAfter tables (calls ++ [.acquire settings])).sessions.get? settings.sessionKey =
        some id ∧
      ∀ old, (poolAfter tables calls).sessions.get? settings.sessionKey = some old → id = old := by
  obtain ⟨id, t, signals, runs, acquired, -⟩ :=
    (sound_after tables calls).exists_run_acquire settings
  have sound := sound_after tables (calls ++ [.acquire settings])
  have left : (after tables (calls ++ [.acquire settings])).state = t := by
    rw [after_concat, Chronicle.extend, Call.perform, run_bind_of_ok runs]
    rfl
  have found : (poolAfter tables (calls ++ [.acquire settings])).sessions.get?
      settings.sessionKey = some id := by
    rw [poolAfter, left, acquired.get?_eq, if_pos rfl]
  refine ⟨id, by rw [runs], ?_, found, ?_⟩
  · exact sound.tidy.sessions.not_mem_shut (sound.tidy.sessions.mem_values_of_get? found)
  · intro old before
    rcases acquired.found with same | ⟨absent, -⟩
    · exact Option.some.inj (same.symm.trans before)
    · exact absurd (before.symm.trans absent) (Option.some_ne_none old)

/-- **A pool keeps its promises** after any sequence of calls, where clusters can be made and connected
to. -/
theorem wellKept (tables : Catalog) (calls : List Call) : WellKept tables calls := by
  have sound := sound_after tables calls
  have tidy := sound.tidy
  exact
    { holders_keys := sound.holders
      one_le := sound.positive
      counted := exists_sinceAbsent tables calls
      cluster_iff := sound.mem_clusters_keys_iff
      acquire := exists_acquire_after tables calls
      stays := fun more found inUse => get?_after_append found more inUse
      sessions_nodup := tidy.sessions.nodup_shut
      clusters_nodup := tidy.clusters.nodup_shut
      session_shut_iff := fun x hx => tidy.sessions.mem_shut_iff (List.mem_map_of_mem hx)
      cluster_shut_iff := fun c hc => tidy.clusters.mem_shut_iff (List.mem_map_of_mem hc)
      session_leaves_iff := fun call _ =>
        (performed_after tables calls call).mem_shutSessions_iff tidy
      cluster_leaves_iff := fun call _ =>
        (performed_after tables calls call).mem_shutClusters_iff tidy
      clusters_last := tidy.ordered }

end Pool

end EventRoster
