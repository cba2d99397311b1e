import EventRoster.Proofs.Pool.Accounts
import EventRoster.Registry.Step

/-!
# Opening and closing stores

A store that is opened takes hold of a session of the pool and has a lease of it: what it has to give
back when it is closed.  It gives it back once, and has no lease any more.

The moves are those that open a store, close one, or shut all sessions.  What a move comes to is what a
call on the pool comes to, together with a change of the leases.  `Moved` lists the ways in which this
can go, where clusters can be made and connected to.

* `exists_run_openWide`: a session is held, whether the store can be opened on it or not.
* `exists_run_move`: every move goes in one of the ways of `Moved`.
* `moved_after`: one more move after others.
* `lease_of_opened`: a store that was opened has a lease of the session under its key.
-/

namespace EventRoster

open Event EventRoster.Action
open Pool (Acquired Released Performed Sound)

/-- The session that an open store has to give back, with the settings that it is for. -/
def Member.lease? (m : Member) : Option (Nat × Settings) :=
  match m.holding with
  | .memory _ => none
  | .wide id store => store.lease.map fun settings => (id, settings)

theorem Member.lease?_wide (clock : Option Int) (id : Nat) (store : Store.Wide)
    (readings : Ledger String Reading) :
    Member.lease? ⟨clock, .wide id store, readings⟩ =
      store.lease.map fun settings => (id, settings) :=
  rfl

/-- A store on a session has the lease that it was given. -/
theorem Store.Wide.lease_of_attach {session : Session} {keyspace table : Option String}
    {reader : ConditionReader} {lease : Option Settings} {store : Store.Wide}
    (h : Store.Wide.attach session keyspace table reader lease = .ok store) :
    store.lease = lease := by
  rw [attach] at h
  split at h
  · cases h
  · split at h
    · cases h
    · cases h
      rfl

namespace Registry

/-- The lease of the store of a name. -/
def lease? (r : Registry) (name : String) : Option (Nat × Settings) :=
  (r.members.get? name).bind Member.lease?

/-- What opens or closes stores. -/
inductive Move
  | openStore (name : String) (settings : Settings) (reader : Option ConditionReader)
      (clock : Option Int)
  | close (name : String)
  | closeAll

/-- The step that a move is. -/
def Move.step : Move → Step
  | openStore name settings reader clock => .fromSettings name settings reader clock
  | close name => .on name .close
  | closeAll => .closeAll

/-- What a move does to the pool and to the leases. -/
inductive Moved (c : Chronicle Registry) :
    Move → Pool.Site → Ledger String Member → List Event → Prop
  /-- A store is opened. -/
  | opened {name settings reader clock id m t new}
      (acquired : Acquired c.state.site settings.sessionKey id t)
      (performed : Performed c.state.site c.events (.acquire settings) t new)
      (lease : m.lease? = some (id, settings)) :
      Moved c (.openStore name settings reader clock) t (c.state.members.put name m) new
  /-- The session is held, but no store can be opened on it. -/
  | unopened {name settings reader clock id t new}
      (acquired : Acquired c.state.site settings.sessionKey id t)
      (performed : Performed c.state.site c.events (.acquire settings) t new) :
      Moved c (.openStore name settings reader clock) t c.state.members new
  /-- A store gives back its session. -/
  | closed {name settings id m t new} (lease : c.state.lease? name = some (id, settings))
      (performed : Performed c.state.site c.events (.release settings) t new)
      (gone : m.lease? = none) :
      Moved c (.close name) t (c.state.members.put name m) new
  /-- There is nothing to give back. -/
  | idle {name} (none : c.state.lease? name = none) :
      Moved c (.close name) c.state.site c.state.members []
  /-- Everything is shut. -/
  | closedAll {t new} (performed : Performed c.state.site c.events .closeAll t new) :
      Moved c .closeAll t c.state.members new

/-! ## One move -/

variable {r : Registry} {past : List Event}

/-- What a store holds when it is opened on a session, if it can be. -/
theorem exists_run_openWide (h : Sound r.site past) (settings : Settings)
    (reader : Option ConditionReader) :
    ∃ id t signals, Acquired r.site settings.sessionKey id t ∧
      Performed r.site past (.acquire settings) t (Signal.events signals) ∧
      ((∃ store, store.lease = some settings ∧ (openWide settings reader).run r =
          ⟨.ok (.wide id store), { r with site := t }, signals⟩) ∨
        ∃ failure, (openWide settings reader).run r =
          ⟨.error failure, { r with site := t }, signals⟩) := by
  obtain ⟨id, t, signals, runs, acquired, performed⟩ := h.exists_run_acquire settings
  refine ⟨id, t, signals, acquired, performed, ?_⟩
  have acquires : (onSite (Pool.acquire settings)).run r =
      ⟨.ok id, { r with site := t }, signals⟩ := by
    rw [onSite, run_within, runs]
  rw [openWide, run_bind_of_ok acquires, run_bind_of_ok (run_state _)]
  dsimp only
  generalize (t.grid.session? id).getD _ = session
  cases attached : Store.Wide.attach session settings.keyspace settings.table
    (reader.getD Condition.reader) (some settings) with
  | error failure =>
    refine .inr ⟨failure, ?_⟩
    rw [run_bind_of_error (run_lift _ _)]
    simp only [List.append_nil]
  | ok store =>
    refine .inl ⟨store, Store.Wide.lease_of_attach attached, ?_⟩
    rw [run_bind_of_ok (run_lift _ _), run_pure]
    simp only [List.append_nil]

/-- What opening a store comes to, and what it answers. -/
theorem exists_run_openStore (h : Sound r.site past) (name : String) (settings : Settings)
    (reader : Option ConditionReader) (clock : Option Int) :
    ∃ id t signals, Acquired r.site settings.sessionKey id t ∧
      Performed r.site past (.acquire settings) t (Signal.events signals) ∧
      ((∃ store, store.lease = some settings ∧
          (step (Move.openStore name settings reader clock).step).run r =
            ⟨.ok (.opened (.wide id store)),
              { r with site := t, members := r.members.put name ⟨clock, .wide id store, []⟩ },
              signals⟩) ∨
        ∃ failure, (step (Move.openStore name settings reader clock).step).run r =
          ⟨.error failure, { r with site := t }, signals⟩) := by
  obtain ⟨id, t, signals, acquired, performed, runs⟩ := exists_run_openWide h settings reader
  refine ⟨id, t, signals, acquired, performed, ?_⟩
  rw [Move.step, step, keepOpened]
  rcases runs with ⟨store, lease, runs⟩ | ⟨failure, runs⟩
  · refine .inl ⟨store, lease, ?_⟩
    rw [run_bind_of_ok runs, keep, run_bind_of_ok (run_change _ _)]
    simp only [run_pure, List.append_nil]
  · exact .inr ⟨failure, run_bind_of_error runs⟩

theorem run_member_of_get? {name : String} {m : Member} (h : r.members.get? name = some m) :
    (member name).run r = ⟨.ok m, r, []⟩ := by
  rw [member, run_bind_of_ok (run_state r), h]
  rfl

/-- Closing has no effect where there is no lease. -/
theorem exists_run_close_of_none {name : String} (h : r.lease? name = none) :
    ∃ result, (close name).run r = ⟨result, r, []⟩ := by
  rw [lease?] at h
  cases found : r.members.get? name with
  | none =>
    have fails : (member name).run r =
        ⟨.error (.ofRaised (.ofStandard .keyError name)), r, []⟩ := by
      rw [member, run_bind_of_ok (run_state r), found]
      rfl
    exact ⟨_, by rw [close, run_bind_of_error fails]⟩
  | some m =>
    rw [found, Option.bind_some, Member.lease?] at h
    rw [close, run_bind_of_ok (run_member_of_get? found)]
    cases holding : m.holding with
    | memory store => exact ⟨_, rfl⟩
    | wide id store =>
      rw [holding] at h
      dsimp only at h ⊢
      rw [Option.map_eq_none_iff.1 h]
      exact ⟨_, rfl⟩

/-- A store that has a lease gives its session back, and has no lease any more. -/
theorem exists_run_close_of_some {name : String} {id : Nat} {settings : Settings} {t : Pool.Site}
    {signals : List Signal} (h : r.lease? name = some (id, settings))
    (releases : (Pool.release settings).run r.site = ⟨.ok (), t, signals⟩) :
    ∃ m, m.lease? = none ∧ (close name).run r =
      ⟨.ok (), { r with site := t, members := r.members.put name m }, signals⟩ := by
  obtain ⟨m, found, lease⟩ := Option.bind_eq_some_iff.1 h
  rw [Member.lease?] at lease
  rw [close, run_bind_of_ok (run_member_of_get? found)]
  cases holding : m.holding with
  | memory store =>
    rw [holding] at lease
    cases lease
  | wide n store =>
    rw [holding] at lease
    obtain ⟨own, leased, same⟩ := Option.map_eq_some_iff.1 lease
    cases same
    have gives : (onSite (Pool.release settings)).run r =
        ⟨.ok (), { r with site := t }, signals⟩ := by
      rw [onSite, run_within, releases]
    refine ⟨{ m with holding := .wide id { store with lease := none } }, rfl, ?_⟩
    dsimp only
    rw [leased]
    dsimp only
    rw [run_bind_of_ok gives]
    simp only [keep, run_change, List.nil_append, List.append_nil]

/-- **Every move** goes in one of these ways. -/
theorem exists_run_move {c : Chronicle Registry} (h : Sound c.state.site c.events) (m : Move) :
    ∃ result t members signals, (step m.step).run c.state =
      ⟨result, { c.state with site := t, members }, signals⟩ ∧
        Moved c m t members (Signal.events signals) := by
  cases m with
  | openStore name settings reader clock =>
    obtain ⟨id, t, signals, acquired, performed, ⟨store, lease, runs⟩ | ⟨failure, runs⟩⟩ :=
      exists_run_openStore h name settings reader clock
    · refine ⟨_, t, _, signals, runs, .opened acquired performed ?_⟩
      rw [Member.lease?_wide, lease]
      rfl
    · exact ⟨_, t, _, signals, runs, .unopened acquired performed⟩
  | close name =>
    cases lease : c.state.lease? name with
    | none =>
      obtain ⟨result, runs⟩ := exists_run_close_of_none lease
      cases result with
      | ok =>
        refine ⟨.ok .done, _, _, [], ?_, .idle lease⟩
        rw [Move.step, step, storeStep, run_bind_of_ok runs]
        rfl
      | error failure =>
        refine ⟨.error failure, _, _, [], ?_, .idle lease⟩
        rw [Move.step, step, storeStep, run_bind_of_error runs]
    | some own =>
      obtain ⟨id, settings⟩ := own
      obtain ⟨t, signals, releases, performed⟩ := h.exists_run_release settings
      obtain ⟨m, gone, runs⟩ := exists_run_close_of_some lease releases
      refine ⟨.ok .done, t, _, signals, ?_, .closed lease performed gone⟩
      rw [Move.step, step, storeStep, run_bind_of_ok runs]
      simp only [run_pure, List.append_nil]
  | closeAll =>
    obtain ⟨signals, runs, performed⟩ := h.exists_run_closeAll
    have shuts : (onSite Pool.closeAll).run c.state =
        ⟨.ok (), { c.state with site := { c.state.site with pool := .empty } }, signals⟩ := by
      rw [onSite, run_within, runs]
    refine ⟨.ok .done, _, _, signals, ?_, .closedAll performed⟩
    rw [Move.step, step, run_bind_of_ok shuts]
    simp only [run_pure, List.append_nil]

/-! ## Moves one after the other -/

section Sequences

variable (now : Int) (environment : Environment) (tables : Catalog)

/-- The chronicle of some moves, from before anything is opened. -/
def after (moves : List Move) : Chronicle Registry :=
  Chronicle.extendAll ⟨start now environment tables, []⟩ (moves.map fun m => step m.step)

theorem after_concat (moves : List Move) (m : Move) :
    after now environment tables (moves ++ [m]) =
      (after now environment tables moves).extend (step m.step) := by
  rw [after, List.map_append]
  exact Chronicle.extendAll_concat _ _ _

end Sequences

variable {now : Int} {environment : Environment} {tables : Catalog}

/-- The books of the pool are in order after a move. -/
theorem Moved.sound {c : Chronicle Registry} {m : Move} {t : Pool.Site}
    {members : Ledger String Member} {new : List Event} (h : Moved c m t members new)
    (before : Sound c.state.site c.events) : Sound t (c.events ++ new) := by
  cases h with
  | opened _ performed | unopened _ performed | closed _ performed | closedAll performed =>
    exact performed.sound
  | idle =>
    rw [List.append_nil]
    exact before

/-- The books of the pool are in order after any moves. -/
theorem sound_after (moves : List Move) :
    Sound (after now environment tables moves).state.site
      (after now environment tables moves).events := by
  induction moves using List.reverseRecOn with
  | nil => exact Sound.start tables
  | append_singleton moves m ih =>
    obtain ⟨result, t, members, signals, runs, moved⟩ := exists_run_move ih m
    rw [after_concat, Chronicle.extend, Chronicle.eventsOf, runs]
    exact moved.sound ih

/-- One more move. -/
theorem moved_after (moves : List Move) (m : Move) :
    Moved (after now environment tables moves) m
      (after now environment tables (moves ++ [m])).state.site
      (after now environment tables (moves ++ [m])).state.members
      ((after now environment tables moves).eventsOf (step m.step)) := by
  obtain ⟨result, t, members, signals, runs, moved⟩ := exists_run_move (sound_after moves) m
  rw [after_concat, Chronicle.extend, Chronicle.eventsOf, runs]
  exact moved

/-- A store that was opened has a lease of the session under its key. -/
theorem lease_of_opened {moves : List Move} {name : String} {settings : Settings}
    {reader : Option ConditionReader} {clock : Option Int} {id : Nat} {store : Store.Wide}
    (h : ((step (Move.openStore name settings reader clock).step).run
      (after now environment tables moves).state).result = .ok (.opened (.wide id store))) :
    let c := after now environment tables (moves ++ [.openStore name settings reader clock])
    c.state.lease? name = some (id, settings) ∧
      c.state.site.pool.sessions.get? settings.sessionKey = some id := by
  obtain ⟨n, t, signals, acquired, -, ⟨own, lease, runs⟩ | ⟨failure, runs⟩⟩ :=
    exists_run_openStore (sound_after moves) name settings reader clock
  · rw [runs] at h
    cases h
    rw [after_concat, Chronicle.extend, runs]
    refine ⟨?_, by rw [acquired.get?_eq, if_pos rfl]⟩
    rw [lease?, Ledger.get?_put, if_pos rfl, Option.bind_some, Member.lease?_wide, lease]
    rfl
  · rw [runs] at h
    cases h

end Registry

end EventRoster
