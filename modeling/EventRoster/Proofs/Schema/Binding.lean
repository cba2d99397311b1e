import EventRoster.Proofs.Schema.Calls

/-!
# The columns are found once

A resolver is asked for the columns time and again.  Between the calls anything may happen to the
cluster that it asks, and a second look at the cluster may come to anything.  All the same, the calls
go through two phases.  At first every call fails and leaves no mark on the resolver; with the first
call that succeeds the columns are settled, and from then on the cluster is of no account.

* `Called.exists_result_iff`: a call succeeds exactly if the table that it reads has enough columns.
* `Called.events_eq`: when a second look is asked for.
* `resolver_after_of_bound`, `columns_after_eq_none_iff`: what a sequence of calls and changes leaves.
* `binds_once`: every call in every such sequence.
-/

namespace EventRoster.Schema

open EventRoster.Action EventRoster.Failure

variable {looking : Looking} {v : View} {reply : Reply View Cql.Columns} {columns : Cql.Columns}

/-! ## One call -/

/-- **A second look is asked for** exactly if the columns were not found before and the table is not
in the catalog, and then once. -/
theorem Called.events_eq (h : Called looking v reply) :
    Signal.events reply.signals =
      if v.resolver.columns = none ∧ v.table? = none then [.refreshed v.resolver.place] else [] := by
  have looks : ∀ {looked : Reply View (Except Fault Cql.Columns)}, Looked looking v looked →
      Signal.events looked.signals =
        if v.table? = none then [.refreshed v.resolver.place] else [] := by
    intro looked h
    cases h with
    | present found => simp [found, Signal.events]
    | again missing => simp [missing, Signal.events]
    | failed missing => simp [missing, Signal.events]
  cases h with
  | known bound => simp [bound, Signal.events]
  | found unbound looked | faulty unbound looked =>
    rw [Signal.events_append, looks looked]
    simp [unbound, Signal.events]
  | failed unbound looked =>
    rw [looks looked]
    simp [unbound]

/-- **A call succeeds** exactly if the table that it reads has enough columns, unless they were found
before. -/
theorem Called.exists_result_iff (h : Called looking v reply) (unbound : v.resolver.columns = none) :
    (∃ columns, reply.result = .ok columns) ↔
      ∃ t, v.Reads looking t ∧ 2 ≤ t.primaryKey.length ∧ 3 ≤ t.columns.length := by
  constructor
  · rintro ⟨columns, succeeds⟩
    cases h with
    | known bound =>
      rw [unbound] at bound
      cases bound
    | found _ looked =>
      obtain ⟨t, reads, shape⟩ := looked.exists_reads rfl
      exact ⟨t, reads, exists_columnsOf_iff.1 ⟨_, shape⟩⟩
    | faulty | failed => cases succeeds
  · rintro ⟨t, reads, enough⟩
    obtain ⟨columns, shape⟩ := exists_columnsOf_iff.2 enough
    cases h with
    | known bound => exact ⟨_, rfl⟩
    | found => exact ⟨_, rfl⟩
    | faulty _ looked =>
      have result := looked.result_eq reads
      rw [shape] at result
      cases result
    | failed _ looked => cases looked.result_eq reads

/-- The columns of a call that succeeds are those of the table that it read, unless they were found
before. -/
theorem Called.exists_binds (h : Called looking v reply) (unbound : v.resolver.columns = none)
    (succeeds : reply.result = .ok columns) : ∃ t, v.Reads looking t ∧ t.Binds columns := by
  cases h with
  | known bound =>
    rw [unbound] at bound
    cases bound
  | found _ looked =>
    cases succeeds
    obtain ⟨t, reads, shape⟩ := looked.exists_reads rfl
    exact ⟨t, reads, columnsOf_eq_ok_iff.1 shape⟩
  | faulty | failed => cases succeeds

/-! ## Calls and changes -/

/-- What happens around a resolver: the cluster becomes another, or the columns are asked for, when a
second look would come to something. -/
inductive Turn
  | changed (cluster : Cluster)
  | asked (looking : Looking)

/-- The view after a turn. -/
def Turn.apply (v : View) : Turn → View
  | changed cluster => { v with cluster }
  | asked looking => ((resolveBy looking).run v).state

/-- The view after some turns. -/
def after (v : View) (turns : List Turn) : View :=
  turns.foldl Turn.apply v

/-- What the calls among some turns come to. -/
def results (v : View) : List Turn → List (Except Failure Cql.Columns)
  | [] => []
  | .changed cluster :: turns => results { v with cluster } turns
  | .asked looking :: turns =>
    ((resolveBy looking).run v).result :: results ((resolveBy looking).run v).state turns

/-- A resolver that has found the columns stays as it is. -/
theorem resolver_after_of_bound (turns : List Turn) (bound : v.resolver.columns = some columns) :
    (after v turns).resolver = v.resolver := by
  induction turns generalizing v with
  | nil => rfl
  | cons turn turns ih =>
    cases turn with
    | changed cluster => exact ih (v := { v with cluster }) bound
    | asked looking =>
      have same : ((resolveBy looking).run v).state = v := by
        rw [resolveBy_of_resolved looking bound]
      show (after ((resolveBy looking).run v).state turns).resolver = _
      rw [same]
      exact ih bound

/-- The columns have not been found exactly if all calls so far have failed. -/
theorem columns_after_eq_none_iff (turns : List Turn) (unbound : v.resolver.columns = none) :
    (after v turns).resolver.columns = none ↔
      ∀ result ∈ results v turns, ∃ failure, result = .error failure := by
  induction turns generalizing v with
  | nil => exact ⟨fun _ => List.forall_mem_nil _, fun _ => unbound⟩
  | cons turn turns ih =>
    cases turn with
    | changed cluster => exact ih (v := { v with cluster }) unbound
    | asked looking =>
      have remembers := (called_resolveBy looking v).resolver_eq
      show (after ((resolveBy looking).run v).state turns).resolver.columns = none ↔
        ∀ result ∈ ((resolveBy looking).run v).result ::
          results ((resolveBy looking).run v).state turns, _
      rw [List.forall_mem_cons]
      cases outcome : ((resolveBy looking).run v).result with
      | error failure =>
        rw [outcome] at remembers
        rw [ih (by rw [remembers]; rfl)]
        exact ⟨fun h => ⟨⟨failure, rfl⟩, h⟩, And.right⟩
      | ok columns =>
        rw [outcome] at remembers
        have bound : ((resolveBy looking).run v).state.resolver.columns = some columns := by
          rw [remembers]
          rfl
        rw [resolver_after_of_bound turns bound, bound]
        exact ⟨nofun, fun h => nomatch h.1.choose_spec⟩

theorem place_after (v : View) (turns : List Turn) :
    (after v turns).resolver.place = v.resolver.place := by
  induction turns generalizing v with
  | nil => rfl
  | cons turn turns ih =>
    refine (ih (turn.apply v)).trans ?_
    cases turn with
    | changed cluster => rfl
    | asked looking =>
      show ((resolveBy looking).run v).state.resolver.place = _
      rw [(called_resolveBy looking v).resolver_eq]

/-- **The columns are found once, and failures do not stick**, whatever happens to the cluster between
the calls and whatever a second look at it comes to.

Before the first call that succeeds all calls fail.  That call answers with the columns of the table
that it reads, and every later one answers the same, changes nothing and gives no signal.  A call that
fails leaves no mark on the resolver; unless the second look failed, the table is at fault.  As long as
no call has succeeded, one succeeds as soon as the table that it reads has enough columns.  A second
look is asked for once by each call that finds the columns unknown and the table missing, and by no
other. -/
theorem binds_once (place : Cql.Location) (cluster : Cluster) (before : List Turn)
    (looking : Looking) :
    let v := after ⟨⟨place, none⟩, cluster⟩ before
    let call := (resolveBy looking).run v
    (v.resolver.columns = none ↔
        ∀ result ∈ results ⟨⟨place, none⟩, cluster⟩ before, ∃ failure, result = .error failure) ∧
      (∀ columns, call.result = .ok columns →
        (v.resolver.columns = none → ∃ t, v.Reads looking t ∧ t.Binds columns) ∧
          ∀ later again, (resolveBy again).run (after call.state later) =
            ⟨.ok columns, after call.state later, []⟩) ∧
      (∀ failure, call.result = .error failure →
        call.state.resolver = ⟨place, none⟩ ∧
          (v.table? = none ∧ (v.sight looking).result = .error failure ∨
            (∃ fault : Fault, failure = fault.failure place) ∧
              failure.error.isA (.own .schemaResolutionError) = true)) ∧
      (v.resolver.columns = none →
        ((∃ columns, call.result = .ok columns) ↔
          ∃ t, v.Reads looking t ∧ 2 ≤ t.primaryKey.length ∧ 3 ≤ t.columns.length)) ∧
      Signal.events call.signals =
        if v.resolver.columns = none ∧ v.table? = none then [.refreshed place] else [] := by
  intro v call
  have called : Called looking v call := called_resolveBy looking v
  have placed : v.resolver.place = place := place_after _ before
  refine ⟨columns_after_eq_none_iff before rfl, fun columns succeeds => ⟨?_, ?_⟩, ?_, ?_, ?_⟩
  · exact fun unbound => called.exists_binds unbound succeeds
  · intro later again
    have bound : call.state.resolver.columns = some columns := by
      rw [called.resolver_eq, succeeds]
      rfl
    refine resolveBy_of_resolved again ?_
    rw [resolver_after_of_bound later bound, bound]
  · intro failure fails
    constructor
    · rw [called.resolver_eq, fails, ← placed]
      rfl
    · rcases called.failure_cases fails with looks | ⟨fault, rfl⟩
      · exact .inl looks
      · rw [placed]
        exact .inr ⟨⟨fault, rfl⟩, rfl⟩
  · exact called.exists_result_iff
  · rw [called.events_eq, placed]

end EventRoster.Schema
