import EventRoster.Proofs.Registry.Moves

/-!
# Stores that share a session

Stores with the same settings share a session, and the pool counts how many of them hold it.  It counts
holders, and does not know them.  When everything is shut at once, the counts go and the leases stay: a
store that was open then is *bereft*, its lease is of a session that was shut.  If it is closed later,
it gives back a session which it does not have, and the pool takes that for the session which is by
then in use under the same key.

Two invariants carry the argument.  A lease is of the session in use under its key, or of one that was
shut (`Leased`).  And a session has at least as many holders as there are leases of it, unless a bereft
store was closed while it was in use (`leases_le_held`).

* `Moved.get?_iff_of_closed`: when closing a store shuts the session of another.
* `lease_unshut`: a store that is open has its session, if no bereft store was closed while that
  session was in use; and closing a bereft store shuts the session of its last holder.
* `lease_shut_of_bereft_closed`: a bereft store that shuts the session of another.
* `lease_unshut_of_orderly`: nothing is ever amiss if all stores are closed before everything is shut.
-/

namespace EventRoster

open Event EventRoster.Action
open Pool (Acquired Released Performed Sound)

/-- Whether a store has a lease of a session. -/
def Member.holds (id : Nat) (m : Member) : Bool :=
  m.lease?.any (·.1 = id)

namespace Registry

variable {now : Int} {environment : Environment} {tables : Catalog} {c : Chronicle Registry}
  {m : Move} {t : Pool.Site} {members : Ledger String Member} {new : List Event}
  {name other : String} {key : SessionKey} {id : Nat} {settings : Settings}

/-! ## Leases of sessions in use, and of others -/

/-- A lease is of the session under its key, or of one that was shut. -/
def Leased (s : Pool.Site) (members : Ledger String Member) (past : List Event) : Prop :=
  ∀ m ∈ members.values, ∀ id settings, m.lease? = some (id, settings) →
    s.pool.sessions.get? settings.sessionKey = some id ∨ id ∈ shutSessions past

/-- A session that is in use before a move stays under its key or is shut. -/
theorem Moved.get?_eq_or_mem_shut (h : Moved c m t members new)
    (sound : Sound c.state.site c.events)
    (found : c.state.site.pool.sessions.get? key = some id) :
    t.pool.sessions.get? key = some id ∨ id ∈ shutSessions new := by
  cases h with
  | opened _ performed | unopened _ performed | closed _ performed | closedAll performed =>
    exact performed.get?_eq_or_mem_shut sound.tidy found
  | idle => exact .inl found

/-- A session that is in use before a move has been shut after it exactly if it is not under its key
any more. -/
theorem Moved.mem_shutSessions_iff (h : Moved c m t members new)
    (sound : Sound c.state.site c.events)
    (found : c.state.site.pool.sessions.get? key = some id) :
    id ∈ shutSessions (c.events ++ new) ↔ t.pool.sessions.get? key ≠ some id := by
  constructor
  · intro shut still
    have sessions := (h.sound sound).tidy.sessions
    exact sessions.not_mem_shut (sessions.mem_values_of_get? still) shut
  · intro gone
    rw [shutSessions_append]
    exact List.mem_append_right _ ((h.get?_eq_or_mem_shut sound found).resolve_left gone)

theorem Moved.leased (h : Moved c m t members new) (sound : Sound c.state.site c.events)
    (leased : Leased c.state.site c.state.members c.events) :
    Leased t members (c.events ++ new) := by
  have kept : Leased t c.state.members (c.events ++ new) := by
    intro x member id settings lease
    rw [shutSessions_append, List.mem_append]
    rcases leased x member id settings lease with found | shut
    · exact (h.get?_eq_or_mem_shut sound found).imp_right .inr
    · exact .inr (.inl shut)
  intro x member id settings lease
  cases h with
  | opened acquired performed own =>
    rcases Ledger.eq_or_mem_values_of_mem_put member with rfl | old
    · rw [own] at lease
      cases lease
      exact .inl (by rw [acquired.get?_eq, if_pos rfl])
    · exact kept x old id settings lease
  | closed _ _ gone =>
    rcases Ledger.eq_or_mem_values_of_mem_put member with rfl | old
    · rw [gone] at lease
      cases lease
    · exact kept x old id settings lease
  | unopened | idle | closedAll => exact kept x member id settings lease

theorem leased_after (moves : List Move) :
    Leased (after now environment tables moves).state.site
      (after now environment tables moves).state.members
      (after now environment tables moves).events := by
  induction moves using List.reverseRecOn with
  | nil =>
    intro x member
    cases member
  | append_singleton moves m ih =>
    have kept := (moved_after moves m).leased (sound_after moves) ih
    rw [after_concat] at kept ⊢
    exact kept

/-- The lease of an open store. -/
theorem Leased.of_lease? (h : Leased c.state.site c.state.members c.events)
    (lease : c.state.lease? name = some (id, settings)) :
    c.state.site.pool.sessions.get? settings.sessionKey = some id ∨ id ∈ shutSessions c.events := by
  obtain ⟨x, found, own⟩ := Option.bind_eq_some_iff.1 lease
  exact h x (List.mem_map_of_mem (Ledger.mem_of_get? found)) id settings own

/-! ## Counting leases -/

/-- The number of leases of a session. -/
def leases (members : Ledger String Member) (id : Nat) : Nat :=
  members.countP fun entry => entry.2.holds id

theorem holds_iff {x : Member} : x.holds id = true ↔ ∃ settings, x.lease? = some (id, settings) := by
  rw [Member.holds, Option.any_eq_true]
  constructor
  · rintro ⟨⟨n, settings⟩, lease, same⟩
    obtain rfl := of_decide_eq_true same
    exact ⟨settings, lease⟩
  · rintro ⟨settings, lease⟩
    exact ⟨_, lease, decide_eq_true rfl⟩

/-- There is a lease of a session of which a store has one. -/
theorem one_le_leases (h : (members.get? name).bind Member.lease? = some (id, settings)) :
    1 ≤ leases members id := by
  obtain ⟨x, found, lease⟩ := Option.bind_eq_some_iff.1 h
  exact List.countP_pos_iff.2 ⟨(name, x), Ledger.mem_of_get? found, holds_iff.2 ⟨settings, lease⟩⟩

/-- Of a session that was never opened there is no lease. -/
theorem leases_eq_zero (sound : Sound c.state.site c.events)
    (leased : Leased c.state.site c.state.members c.events)
    (unmade : id ∉ c.state.site.grid.sessions.map Session.id) : leases c.state.members id = 0 := by
  refine List.countP_eq_zero.2 ?_
  intro entry member holds
  obtain ⟨settings, lease⟩ := holds_iff.1 holds
  refine unmade ?_
  rcases leased entry.2 (List.mem_map_of_mem member) id settings lease with found | shut
  · exact sound.tidy.sessions.mem_made_of_get? found
  · exact sound.tidy.sessions.mem_made_iff.2 (.inr shut)

/-- A store with a lease adds one to the leases of its session at most, and none to others. -/
theorem leases_put_le {x : Member} {n : Nat} (lease : x.lease? = some (n, settings))
    (members : Ledger String Member) (name : String) (id : Nat) :
    leases (members.put name x) id ≤ leases members id + if n = id then 1 else 0 := by
  have bound := Ledger.countP_put_le (fun entry => entry.2.holds id) members name x
  have own : x.holds id = decide (n = id) := by rw [Member.holds, lease]; rfl
  simp only [own, decide_eq_true_eq] at bound
  exact bound

/-- A store that has no lease any more takes one away from the leases of its session. -/
theorem leases_put_add_one {x : Member}
    (lease : (members.get? name).bind Member.lease? = some (id, settings))
    (gone : x.lease? = none) : leases (members.put name x) id + 1 = leases members id := by
  obtain ⟨y, found, own⟩ := Option.bind_eq_some_iff.1 lease
  have counted := Ledger.countP_put_of_get? (fun entry => entry.2.holds id) found x
  have before : y.holds id = true := holds_iff.2 ⟨settings, own⟩
  have after : x.holds id = false := by rw [Member.holds, gone]; rfl
  simp only [before, after, if_true, Bool.false_eq_true, if_false] at counted
  exact counted

/-- There are two leases of a session of which two stores have one. -/
theorem two_le_leases {own : Settings}
    (lease : (members.get? name).bind Member.lease? = some (id, settings))
    (given : (members.get? other).bind Member.lease? = some (id, own)) (different : other ≠ name) :
    2 ≤ leases members id := by
  -- Take the lease of the one away, and that of the other is left.
  let gone : Member := ⟨none, .memory .empty, []⟩
  have left : 1 ≤ leases (members.put other gone) id := by
    refine one_le_leases (?_ : ((members.put other gone).get? name).bind _ = some (id, settings))
    rw [Ledger.get?_put, if_neg different]
    exact lease
  have fewer := leases_put_add_one given (rfl : gone.lease? = none)
  omega

/-- A store without a lease does not add to the leases. -/
theorem leases_put_le_of_gone {x : Member} (gone : x.lease? = none)
    (members : Ledger String Member) (name : String) (id : Nat) :
    leases (members.put name x) id ≤ leases members id := by
  have bound := Ledger.countP_put_le (fun entry => entry.2.holds id) members name x
  have own : x.holds id = false := by rw [Member.holds, gone]; rfl
  simp only [own, Bool.false_eq_true, if_false] at bound
  exact bound

/-! ## Bereft stores -/

/-- The store of a name has a lease, for settings with a key, of a session that was shut. -/
def Bereft (c : Chronicle Registry) (name : String) (key : SessionKey) : Prop :=
  ∃ id settings, c.state.lease? name = some (id, settings) ∧ settings.sessionKey = key ∧
    id ∈ shutSessions c.events

/-- A store with a lease for a key, but not of the session under it, is bereft. -/
theorem Leased.bereft_of_ne (h : Leased c.state.site c.state.members c.events) {n : Nat}
    (lease : c.state.lease? name = some (n, settings)) (same : settings.sessionKey = key)
    (found : c.state.site.pool.sessions.get? key = some id) (different : n ≠ id) :
    Bereft c name key := by
  refine ⟨n, settings, lease, same, (h.of_lease? lease).resolve_left ?_⟩
  intro current
  rw [same, found] at current
  exact different (Option.some.inj current).symm

/-- On the way of some moves, no store that was bereft of its session was closed while a session, given
by its number, was in use under the same key. -/
def Undisturbed (now : Int) (environment : Environment) (tables : Catalog) (moves : List Move)
    (key : SessionKey) (id : Nat) : Prop :=
  ∀ part other, part ++ [.close other] <+: moves →
    Bereft (after now environment tables part) other key →
    (after now environment tables part).state.site.pool.sessions.get? key ≠ some id

theorem undisturbed_nil : Undisturbed now environment tables [] key id := by
  intro part other closing
  have none := (List.append_eq_nil_iff.1 (List.prefix_nil.1 closing)).2
  cases none

theorem undisturbed_concat_iff {moves : List Move} :
    Undisturbed now environment tables (moves ++ [m]) key id ↔
      Undisturbed now environment tables moves key id ∧
        ∀ other, m = .close other → Bereft (after now environment tables moves) other key →
          (after now environment tables moves).state.site.pool.sessions.get? key ≠ some id := by
  constructor
  · intro h
    refine ⟨fun part other first => h part other (first.trans (List.prefix_append _ _)), ?_⟩
    rintro other rfl
    exact h moves other List.prefix_rfl
  · rintro ⟨earlier, last⟩ part other first
    rcases List.prefix_concat_iff.1 first with whole | shorter
    · obtain ⟨rfl, same⟩ := List.append_inj' whole rfl
      exact last other (List.singleton_inj.1 same).symm
    · exact earlier part other shorter

/-- Only closing a store can disturb a session. -/
theorem Undisturbed.concat {moves : List Move}
    (h : Undisturbed now environment tables moves key id) (opens : ∀ other, m ≠ .close other) :
    Undisturbed now environment tables (moves ++ [m]) key id :=
  undisturbed_concat_iff.2 ⟨h, fun other closing => absurd closing (opens other)⟩

/-! ## What closing a store does to the sessions of others -/

/-- **Closing a store shuts the session of another** exactly if it is bereft and the pool counts one
holder of that session. -/
theorem Moved.get?_iff_of_closed (h : Moved c (.close other) t members new)
    (sound : Sound c.state.site c.events)
    (leased : Leased c.state.site c.state.members c.events)
    (lease : c.state.lease? name = some (id, settings))
    (found : c.state.site.pool.sessions.get? settings.sessionKey = some id)
    (held : leases c.state.members id ≤ c.state.site.pool.held settings.sessionKey)
    (different : other ≠ name) :
    t.pool.sessions.get? settings.sessionKey = some id ↔
      ¬(Bereft c other settings.sessionKey ∧
        c.state.site.pool.held settings.sessionKey = 1) := by
  have live : id ∉ shutSessions c.events :=
    sound.tidy.sessions.not_mem_shut (sound.tidy.sessions.mem_values_of_get? found)
  cases h with
  | idle none =>
    refine ⟨?_, fun _ => found⟩
    rintro - ⟨⟨n, own, lost, -⟩, -⟩
    rw [none] at lost
    cases lost
  | @closed _ own n x _ _ given performed gone =>
    have released : Released c.state.site own.sessionKey t := performed.effect
    rw [released.get?_eq]
    by_cases same : own.sessionKey = settings.sessionKey
    · rw [same]
      by_cases shared : n = id
      · -- The other store has a lease of the same session, so that there are two.
        subst shared
        have two := two_le_leases lease given different
        rw [if_neg (by rintro ⟨-, last⟩; omega)]
        refine ⟨?_, fun _ => found⟩
        rintro - ⟨-, one⟩
        omega
      · -- Its lease is of another session, which is not in use any more.
        have bereft := leased.bereft_of_ne given same found shared
        have positive := sound.one_le_held_iff.2 (Ledger.mem_keys_iff.2 ⟨id, found⟩)
        by_cases last : c.state.site.pool.held settings.sessionKey ≤ 1
        · rw [if_pos ⟨rfl, last⟩]
          refine ⟨nofun, fun harmless => absurd ⟨bereft, ?_⟩ harmless⟩
          omega
        · rw [if_neg (fun both => last both.2)]
          refine ⟨?_, fun _ => found⟩
          rintro - ⟨-, one⟩
          omega
    · rw [if_neg fun both => same both.1]
      refine ⟨?_, fun _ => found⟩
      rintro - ⟨⟨k, others, lost, eq, -⟩, -⟩
      rw [given] at lost
      cases lost
      exact same eq

/-! ## Leases and holders -/

/-- A move leaves at least as many holders of a session as leases, unless it closes a bereft store
while the session is in use. -/
theorem Moved.leases_le_held (h : Moved c m t members new)
    (sound : Sound c.state.site c.events)
    (leased : Leased c.state.site c.state.members c.events)
    (before : c.state.site.pool.sessions.get? key = some id →
      leases c.state.members id ≤ c.state.site.pool.held key)
    (harmless : ∀ other, m = .close other → Bereft c other key →
      c.state.site.pool.sessions.get? key ≠ some id)
    (found : t.pool.sessions.get? key = some id) : leases members id ≤ t.pool.held key := by
  have acquiring {other : SessionKey} {n : Nat} (acquired : Acquired c.state.site other n t) :
      leases c.state.members id ≤ c.state.site.pool.held key := by
    have taken := found
    rw [acquired.get?_eq] at taken
    split at taken
    · next same =>
      cases taken
      rcases acquired.found with earlier | ⟨-, fresh⟩
      · exact before (same ▸ earlier)
      · rw [leases_eq_zero sound leased fresh]
        exact Nat.zero_le _
    · exact before taken
  cases h with
  | @opened name _ _ _ n x _ _ acquired performed own =>
    have bound := leases_put_le own c.state.members name id
    have earlier := acquiring acquired
    have more := acquired.held_add_le performed.sound found
    omega
  | unopened acquired performed =>
    have earlier := acquiring acquired
    have more := acquired.held_add_le performed.sound found
    omega
  | @closed other own n x _ _ given performed gone =>
    have released : Released c.state.site own.sessionKey t := performed.effect
    have fewer := leases_put_le_of_gone gone c.state.members other id
    rw [released.get?_eq] at found
    rw [released.held_eq]
    split at found
    · cases found
    · have earlier := before found
      by_cases same : own.sessionKey = key
      · rw [if_pos same, same]
        have current : n = id := by
          by_contra different
          exact harmless other rfl (leased.bereft_of_ne given same found different) found
        subst current
        have taken := leases_put_add_one given gone
        omega
      · rw [if_neg same]
        omega
  | idle => exact before found
  | closedAll performed =>
    have emptied : t.pool = .empty := performed.effect
    rw [emptied] at found
    cases found

/-- **A session has at least as many holders as there are leases of it**, if no bereft store was closed
while it was in use. -/
theorem leases_le_held {moves : List Move}
    (undisturbed : Undisturbed now environment tables moves key id)
    (found : (after now environment tables moves).state.site.pool.sessions.get? key = some id) :
    leases (after now environment tables moves).state.members id ≤
      (after now environment tables moves).state.site.pool.held key := by
  induction moves using List.reverseRecOn with
  | nil => cases found
  | append_singleton moves m ih =>
    obtain ⟨earlier, harmless⟩ := undisturbed_concat_iff.1 undisturbed
    exact (moved_after moves m).leases_le_held (sound_after moves) (leased_after moves) (ih earlier)
      harmless found

/-! ## Stores that are open have their sessions -/

/-- Whether a move leaves the store of a name open, and does not shut everything. -/
def Move.Spares (name : String) : Move → Prop
  | openStore other .. | close other => other ≠ name
  | closeAll => False

instance (name : String) : DecidablePred (Move.Spares name)
  | .openStore other .. | .close other => inferInstanceAs (Decidable (other ≠ name))
  | .closeAll => inferInstanceAs (Decidable False)

theorem Moved.lease_of_spares (h : Moved c m t members new) (spares : m.Spares name)
    (lease : c.state.lease? name = some (id, settings)) :
    (members.get? name).bind Member.lease? = some (id, settings) := by
  cases h with
  | opened | closed =>
    rw [Ledger.get?_put, if_neg spares]
    exact lease
  | unopened | idle => exact lease
  | closedAll => exact spares.elim

/-- A move that spares a store does not shut its session, unless it closes a bereft store. -/
theorem Moved.get?_of_spares (h : Moved c m t members new)
    (sound : Sound c.state.site c.events)
    (leased : Leased c.state.site c.state.members c.events) (spares : m.Spares name)
    (lease : c.state.lease? name = some (id, settings))
    (found : c.state.site.pool.sessions.get? settings.sessionKey = some id)
    (held : leases c.state.members id ≤ c.state.site.pool.held settings.sessionKey)
    (harmless : ∀ other, m = .close other → ¬Bereft c other settings.sessionKey) :
    t.pool.sessions.get? settings.sessionKey = some id := by
  cases m with
  | openStore =>
    cases h with
    | opened acquired | unopened acquired => exact acquired.get?_of_some found
  | close other =>
    refine (h.get?_iff_of_closed sound leased lease found held spares).2 ?_
    rintro ⟨bereft, -⟩
    exact harmless other rfl bereft
  | closeAll => exact spares.elim

/-- A lease of a session in use outlasts a move that spares its store. -/
theorem lease_concat {moves : List Move}
    (undisturbed : Undisturbed now environment tables (moves ++ [m]) settings.sessionKey id)
    (spares : m.Spares name)
    (lease : (after now environment tables moves).state.lease? name = some (id, settings))
    (found : (after now environment tables moves).state.site.pool.sessions.get?
      settings.sessionKey = some id) :
    (after now environment tables (moves ++ [m])).state.lease? name = some (id, settings) ∧
      (after now environment tables (moves ++ [m])).state.site.pool.sessions.get?
        settings.sessionKey = some id := by
  obtain ⟨earlier, harmless⟩ := undisturbed_concat_iff.1 undisturbed
  have moved : Moved (after now environment tables moves) m _ _ _ := moved_after moves m
  refine ⟨moved.lease_of_spares spares lease, ?_⟩
  refine moved.get?_of_spares (sound_after moves) (leased_after moves) spares lease found
    (leases_le_held earlier found) ?_
  intro other closing bereft
  exact harmless other closing bereft found

theorem Undisturbed.of_prefix {first moves : List Move}
    (h : Undisturbed now environment tables moves key id) (begins : first <+: moves) :
    Undisturbed now environment tables first key id :=
  fun part other closing => h part other (closing.trans begins)

/-- The lease of a session in use outlasts all moves that spare its store. -/
theorem lease_append {moves since : List Move}
    (undisturbed : Undisturbed now environment tables (moves ++ since) settings.sessionKey id)
    (spares : ∀ m ∈ since, m.Spares name)
    (lease : (after now environment tables moves).state.lease? name = some (id, settings))
    (found : (after now environment tables moves).state.site.pool.sessions.get?
      settings.sessionKey = some id) :
    (after now environment tables (moves ++ since)).state.lease? name = some (id, settings) ∧
      (after now environment tables (moves ++ since)).state.site.pool.sessions.get?
        settings.sessionKey = some id := by
  induction since using List.reverseRecOn with
  | nil =>
    rw [List.append_nil]
    exact ⟨lease, found⟩
  | append_singleton since m ih =>
    rw [← List.append_assoc] at undisturbed ⊢
    obtain ⟨leaseThen, foundThen⟩ := ih (undisturbed.of_prefix (List.prefix_append _ _))
      fun x member => spares x (List.mem_append_left _ member)
    exact lease_concat undisturbed (spares m List.mem_concat_self) leaseThen foundThen

/-- **A store that is open has its session.**  The store was opened, and since then it was not closed,
no other was opened under its name, and not everything was shut.  Then its session has not been shut,
if no bereft store was closed while that session was in use.  This is what it takes: the next store
that is closed shuts the session exactly if it is bereft, and the pool counts one holder. -/
theorem lease_unshut {before since : List Move} {reader : Option ConditionReader}
    {clock : Option Int} {store : Store.Wide}
    (opened : ((step (Move.openStore name settings reader clock).step).run
      (after now environment tables before).state).result = .ok (.opened (.wide id store)))
    (spares : ∀ m ∈ since, m.Spares name)
    (undisturbed : Undisturbed now environment tables
      (before ++ .openStore name settings reader clock :: since) settings.sessionKey id) :
    let c := after now environment tables
      (before ++ .openStore name settings reader clock :: since)
    c.state.lease? name = some (id, settings) ∧ id ∉ shutSessions c.events ∧
      ∀ other, other ≠ name → (id ∈ shutSessions (c.extend (step (Move.close other).step)).events ↔
        Bereft c other settings.sessionKey ∧
          c.state.site.pool.held settings.sessionKey = 1) := by
  intro c
  let moves := before ++ .openStore name settings reader clock :: since
  have split : moves = before ++ [.openStore name settings reader clock] ++ since :=
    List.append_cons before _ since
  obtain ⟨leaseThen, foundThen⟩ := lease_of_opened opened
  have lasting := lease_append (split ▸ undisturbed) spares leaseThen foundThen
  rw [← split] at lasting
  obtain ⟨lease, found⟩ := lasting
  have sound : Sound c.state.site c.events := sound_after moves
  refine ⟨lease, sound.tidy.sessions.not_mem_shut (sound.tidy.sessions.mem_values_of_get? found), ?_⟩
  intro other different
  have moved : Moved c (.close other) _ _ _ := moved_after moves (.close other)
  have stays := moved.get?_iff_of_closed sound (leased_after moves) lease found
    (leases_le_held undisturbed found) different
  exact (moved.mem_shutSessions_iff sound found).trans ((not_congr stays).trans not_not)

/-- A store that was open when everything was shut gives its session back late, when none is in use.
Two more stores are opened then, and one of them is closed twice. -/
theorem lease_unshut_second :
    let c := after 0 [] .empty
      ([.openStore "early" {} none none, .closeAll, .close "early",
        .openStore "first" {} none none] ++
      .openStore "second" {} none none :: [.close "first", .close "first"])
    c.state.lease? "second" = some (2, {}) ∧ 2 ∉ shutSessions c.events ∧
      ∀ other, other ≠ "second" →
        (2 ∈ shutSessions (c.extend (step (Move.close other).step)).events ↔
          Bereft c other (Settings.sessionKey {}) ∧
            c.state.site.pool.held (Settings.sessionKey {}) = 1) := by
  refine lease_unshut rfl (by decide) ?_
  have early : Undisturbed 0 [] .empty ([.openStore "early" {} none none] ++ [.closeAll])
      (Settings.sessionKey {}) 2 :=
    (undisturbed_nil.concat (by simp)).concat (by simp)
  have late : Undisturbed 0 [] .empty ([.openStore "early" {} none none] ++ [.closeAll] ++
      [.close "early"]) (Settings.sessionKey {}) 2 := by
    refine undisturbed_concat_iff.2 ⟨early, ?_⟩
    intro other closing bereft
    decide
  have opened : Undisturbed 0 [] .empty ([.openStore "early" {} none none] ++ [.closeAll] ++
      [.close "early"] ++ [.openStore "first" {} none none] ++ [.openStore "second" {} none none])
      (Settings.sessionKey {}) 2 :=
    (late.concat (by simp)).concat (by simp)
  have once : Undisturbed 0 [] .empty ([.openStore "early" {} none none] ++ [.closeAll] ++
      [.close "early"] ++ [.openStore "first" {} none none] ++ [.openStore "second" {} none none] ++
      [.close "first"]) (Settings.sessionKey {}) 2 := by
    refine undisturbed_concat_iff.2 ⟨opened, ?_⟩
    rintro other closing ⟨n, settings, lease, -, shut⟩
    cases closing
    cases lease
    revert shut
    decide
  refine undisturbed_concat_iff.2 ⟨once, ?_⟩
  rintro other closing ⟨n, settings, lease, -, -⟩
  cases closing
  cases lease

/-- **A store can shut the session of another.**  The first store outlasts its session, the second is
opened with the same settings, and the first is closed. -/
theorem lease_shut_of_bereft_closed :
    let before : List Move := [.openStore "early" {} none none, .closeAll]
    let opening : Move := .openStore "late" {} none none
    let since : List Move := [.close "early"]
    (∃ store, ((step opening.step).run (after 0 [] .empty before).state).result =
        .ok (.opened (.wide 2 store))) ∧
      (∀ m ∈ since, m.Spares "late") ∧
      2 ∈ shutSessions (after 0 [] .empty (before ++ opening :: since)).events := by
  refine ⟨⟨_, rfl⟩, ?_, ?_⟩
  · decide
  · decide

/-! ## Stores of which none is ever bereft -/

/-- On the way of some moves, everything is shut at once only when all stores have been closed. -/
def Orderly (now : Int) (environment : Environment) (tables : Catalog) (moves : List Move) : Prop :=
  ∀ part, part ++ [.closeAll] <+: moves →
    ∀ name, (after now environment tables part).state.lease? name = none

/-- If every lease is of a session in use, it stays so, unless everything is shut while a store is
open. -/
theorem Moved.get?_of_lease (h : Moved c m t members new)
    (sound : Sound c.state.site c.events)
    (leased : Leased c.state.site c.state.members c.events)
    (current : ∀ {name id settings}, c.state.lease? name = some (id, settings) →
      c.state.site.pool.sessions.get? settings.sessionKey = some id)
    (held : ∀ {key id}, c.state.site.pool.sessions.get? key = some id →
      leases c.state.members id ≤ c.state.site.pool.held key)
    (orderly : m = .closeAll → ∀ name, c.state.lease? name = none)
    (lease : (members.get? name).bind Member.lease? = some (id, settings)) :
    t.pool.sessions.get? settings.sessionKey = some id := by
  have moved := h
  cases h with
  | opened acquired performed own =>
    rw [Ledger.get?_put] at lease
    split at lease
    · rw [Option.bind_some, own] at lease
      cases lease
      rw [acquired.get?_eq, if_pos rfl]
    · exact acquired.get?_of_some (current lease)
  | unopened acquired => exact acquired.get?_of_some (current lease)
  | @closed other _ _ _ _ _ given performed gone =>
    rw [Ledger.get?_put] at lease
    split at lease
    · rw [Option.bind_some, gone] at lease
      cases lease
    · next different =>
      have found := current lease
      refine (moved.get?_iff_of_closed sound leased lease found (held found) different).2 ?_
      rintro ⟨⟨n, own, lost, -, shut⟩, -⟩
      have inUse := sound.tidy.sessions.mem_values_of_get? (current lost)
      exact sound.tidy.sessions.not_mem_shut inUse shut
  | idle => exact current lease
  | closedAll =>
    have lost : c.state.lease? name = some (id, settings) := lease
    rw [orderly rfl name] at lost
    cases lost

/-- On an orderly way, every lease is of a session in use. -/
theorem get?_of_lease_of_orderly {moves : List Move}
    (orderly : Orderly now environment tables moves) :
    ∀ part, part <+: moves → ∀ {name id settings},
      (after now environment tables part).state.lease? name = some (id, settings) →
      (after now environment tables part).state.site.pool.sessions.get? settings.sessionKey =
        some id := by
  induction moves using List.reverseRecOn with
  | nil =>
    intro part first name id settings lease
    rw [List.prefix_nil.1 first] at lease
    cases lease
  | append_singleton moves m ih =>
    have earlier := ih fun part closing => orderly part (closing.trans (List.prefix_append _ _))
    intro part first name id settings lease
    rcases List.prefix_concat_iff.1 first with rfl | shorter
    · have harmless {key : SessionKey} {n : Nat} :
          Undisturbed now environment tables moves key n := by
        rintro part other closing ⟨k, own, lost, -, shut⟩
        have sound : Sound (after now environment tables part).state.site _ := sound_after part
        have inUse := earlier part ((List.prefix_append _ _).trans closing) lost
        exact absurd shut
          (sound.tidy.sessions.not_mem_shut (sound.tidy.sessions.mem_values_of_get? inUse))
      have closed : m = .closeAll → ∀ name,
          (after now environment tables moves).state.lease? name = none := by
        rintro rfl
        exact orderly moves List.prefix_rfl
      exact (moved_after moves m).get?_of_lease (sound_after moves) (leased_after moves)
        (earlier moves List.prefix_rfl) (fun found => leases_le_held harmless found) closed lease
    · exact earlier part shorter lease

/-- **Stores never shut the sessions of each other** if everything is shut at once only when all stores
have been closed. -/
theorem lease_unshut_of_orderly {moves : List Move}
    (orderly : Orderly now environment tables moves)
    (lease : (after now environment tables moves).state.lease? name = some (id, settings)) :
    id ∉ shutSessions (after now environment tables moves).events := by
  have sound : Sound (after now environment tables moves).state.site _ := sound_after moves
  have found := get?_of_lease_of_orderly orderly moves List.prefix_rfl lease
  exact sound.tidy.sessions.not_mem_shut (sound.tidy.sessions.mem_values_of_get? found)

end Registry

end EventRoster
