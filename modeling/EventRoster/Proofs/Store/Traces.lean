import EventRoster.Proofs.Action
import EventRoster.Proofs.Schema.Outlook
import EventRoster.Proofs.Store.Conduct

/-!
# Writes that fail leave no trace

A write can fail at three points, one after the other: the columns are not found, the record cannot be
written down, or the session refuses the command.  Nothing is put into the partition before all three
are passed.  What may be left of a write that fails is what it found out about the table: the columns
are remembered, or the cluster has come to know the table.

This cannot be told from outside.  `Scene.Alike` ties scenes together that differ in nothing but what
has been found out so far.  Every operation comes to the same on both of them and leaves such scenes
behind.

* `shared_respects`: nothing that a store does tells scenes apart that are alike.
* `Write.columns_of_error`: a write that fails has done no more than to ask for the columns.
* `leaves_no_trace`: the rows are as before, nothing is said to have been written, and whatever is done
  afterwards comes to the same.
-/

namespace EventRoster

open EventRoster.Action

/-- A command that fails changes nothing and is not noted. -/
theorem Session.eq_of_execute_error {s t : Session} {now : Int} {place : Cql.Location}
    {columns : Cql.Columns} {command : Cql.Command} {failure : Failure} {signals : List Signal}
    (fails : (Session.execute now place columns command).run s = ⟨.error failure, t, signals⟩) :
    t = s ∧ Signal.notices signals = [] := by
  rw [execute, run_bind_of_ok (run_state s), report, run_bind_of_ok (run_signal _ s)] at fails
  cases willing : s.failing with
  | some failure =>
    rw [willing] at fails
    cases fails
    exact ⟨rfl, rfl⟩
  | none =>
    rw [willing] at fails
    cases fails

namespace Store.Wide

/-! ## Scenes that are alike -/

/-- The scenes differ in nothing but what has been found out about the table: asking for its columns
comes to the same. -/
structure Scene.Alike (s t : Scene) : Prop where
  session : s.session = t.session
  reader : s.store.reader = t.store.reader
  place : s.store.place = t.store.place
  outlook : s.view.outlook = t.view.outlook

/-- Asking for the columns leaves a scene behind that is like the one before. -/
theorem Scene.alike_withView {s : Scene} {looking : Schema.Looking}
    (steady : s.view.Steady looking) :
    (s.withView ((Schema.resolveBy looking).run s.view).state).Alike s := by
  have called := Schema.called_resolveBy looking s.view
  refine ⟨rfl, rfl, ?_, called.outlook_eq steady⟩
  show ((Schema.resolveBy looking).run s.view).state.resolver.place = s.view.resolver.place
  rw [called.resolver_eq]

/-- Finding the columns comes to the same. -/
theorem respects_columns : columns.Respects Scene.Alike := by
  intro s t h
  have place : s.view.resolver.place = t.view.resolver.place := h.place
  have left := Scene.alike_withView s.view.steady_lookAgain
  have right := Scene.alike_withView t.view.steady_lookAgain
  rw [columns, columnsBy, run_within, run_within]
  constructor
  · rw [(Schema.called_resolveBy Schema.lookAgain s.view).result_eq_outlook,
      (Schema.called_resolveBy Schema.lookAgain t.view).result_eq_outlook, h.outlook, place]
  · exact ⟨h.session, h.reader, left.place.trans (h.place.trans right.place.symm),
      left.outlook.trans (h.outlook.trans right.outlook.symm)⟩

/-- So does having a command executed. -/
theorem respects_send (now : Int) (cols : Cql.Columns) (command : Cql.Command) :
    (send now cols command).Respects Scene.Alike := by
  refine respects_state_bind (fun s t h => by rw [h.place]) fun s => ?_
  refine respects_within (fun _ _ h => h.session) ?_ _
  exact fun _ _ _ h => ⟨rfl, h.reader, h.place, h.outlook⟩

/-- **Whatever a store does** does not tell scenes apart that are alike. -/
theorem shared_respects : Shared fun _ a => a.Respects Scene.Alike where
  columns := respects_columns
  send := respects_send
  lift := respects_lift
  note := respects_note
  bind := Respects.bind
  attempt := Respects.attempt
  look := fun same next => respects_state_bind (fun s t h => same s t h.place h.reader) next

/-! ## What is done afterwards -/

/-- An operation that is tried at some time by the store's own clock and by that of the database, after
something else has been done with the session. -/
structure Trial where
  meanwhile : Session → Session
  own : Int
  now : Int
  operation : Operation

/-- What some trials come to, one after the other. -/
def replies (s : Scene) : List Trial → List (Except Failure Answer)
  | [] => []
  | x :: later =>
    let reply := (perform x.own x.now x.operation).run { s with session := x.meanwhile s.session }
    reply.result :: replies reply.state later

/-- On scenes that are alike, the same trials come to the same. -/
theorem Scene.Alike.replies_eq {s t : Scene} (h : s.Alike t) (later : List Trial) :
    replies s later = replies t later := by
  induction later generalizing s t with
  | nil => rfl
  | cons x later ih =>
    have started : Scene.Alike { s with session := x.meanwhile s.session }
        { t with session := x.meanwhile t.session } :=
      ⟨congrArg x.meanwhile h.session, h.reader, h.place, h.outlook⟩
    obtain ⟨same, alike⟩ := shared_respects.perform x.own x.now x.operation started
    rw [replies, replies, same, ih alike]

/-! ## Writes that fail -/

/-- What changes the rows. -/
inductive Write
  | insert (r : Registration)
  | delete (name : String)

/-- Performs a write while the cluster looks in some way. -/
def Write.performBy (looking : Schema.Looking) (own now : Int) : Write → Action Scene Unit
  | insert r => insertBy looking own now r
  | delete name => deleteBy looking now name

variable {looking : Schema.Looking} {s t : Scene} {w : Write} {own now : Int} {failure : Failure}
  {signals : List Signal}

theorem eq_of_send_error {cols : Cql.Columns} {command : Cql.Command}
    (fails : (send now cols command).run s = ⟨.error failure, t, signals⟩) :
    t = s ∧ Signal.notices signals = [] := by
  rw [send, run_bind_of_ok (run_state s), run_within] at fails
  rcases executes : (Session.execute now s.store.place cols command).run s.session with
    ⟨result, session, given⟩
  rw [executes] at fails
  cases fails
  obtain ⟨rfl, silent⟩ := Session.eq_of_execute_error executes
  exact ⟨rfl, silent⟩

/-- A write fails when it asks for the columns, or it fails afterwards without having done or noted
anything. -/
theorem Write.columns_of_error
    (fails : (w.performBy looking own now).run s = ⟨.error failure, t, signals⟩) :
    ∃ result before, (columnsBy looking).run s = ⟨result, t, before⟩ ∧
      Signal.notices signals = Signal.notices before := by
  cases w with
  | insert r =>
    rcases error_of_run_bind fails with asks | ⟨cols, u, before, more, asks, puts, rfl⟩
    · exact ⟨_, signals, asks, rfl⟩
    · refine ⟨.ok cols, before, ?_⟩
      -- Encoding only answers or fails, and the notice at the end cannot fail.
      have silent : t = u ∧ Signal.notices more = [] := by
        rcases error_of_run_bind puts with encodes | ⟨payload, _, _, _, encodes, rest, rfl⟩
        · simp only [run_lift, Reply.mk.injEq] at encodes
          obtain ⟨-, rfl, rfl⟩ := encodes
          exact ⟨rfl, rfl⟩
        · simp only [run_lift, Reply.mk.injEq] at encodes
          obtain ⟨-, rfl, rfl⟩ := encodes
          rcases error_of_run_bind rest with sends | ⟨_, _, _, _, -, notes, -⟩
          · exact eq_of_send_error sends
          · cases notes
      rw [silent.1, Signal.notices_append, silent.2, List.append_nil]
      exact ⟨asks, rfl⟩
  | delete name =>
    rcases error_of_run_bind fails with requests | ⟨_, _, _, _, -, notes, -⟩
    · rcases error_of_run_bind requests with asks | ⟨cols, u, before, more, asks, sends, rfl⟩
      · exact ⟨_, signals, asks, rfl⟩
      · obtain ⟨rfl, silent⟩ := eq_of_send_error sends
        exact ⟨_, before, asks, by rw [Signal.notices_append, silent, List.append_nil]⟩
    · cases notes

/-- **A write that fails leaves no trace**, at whichever point it fails, and even if a second look at
the cluster fails, as long as that leaves what is seen of the table as it is.  The session and its rows
are as before, no notice tells of a subscription that was inserted or deleted, and whatever is tried
afterwards comes to what it would have come to without the write. -/
theorem leaves_no_trace (steady : s.view.Steady looking)
    (fails : (w.performBy looking own now).run s = ⟨.error failure, t, signals⟩) :
    t.session = s.session ∧
      (∀ n ∈ Signal.notices signals,
        n.event ≠ "subscription_inserted" ∧ n.event ≠ "subscription_deleted") ∧
      ∀ later, replies t later = replies s later := by
  obtain ⟨result, before, asks, noted⟩ := Write.columns_of_error fails
  rw [columnsBy, run_within] at asks
  obtain ⟨-, rfl, rfl⟩ := Reply.mk.inj asks
  have alike : (s.withView ((Schema.resolveBy looking).run s.view).state).Alike s :=
    Scene.alike_withView steady
  refine ⟨alike.session, fun n mem => ?_, alike.replies_eq⟩
  rw [noted] at mem
  rcases (Schema.called_resolveBy looking s.view).event_of_mem_notices mem with event | event
  · rw [event]
    decide
  · rw [event]
    decide

/-- A session that has lost its database, and a cluster that is about to know of the table. -/
def outage : Scene :=
  let place : Cql.Location := ⟨"databus", "subscription"⟩
  let table := Table.of place ["rowkey", "subscription"] ["rowkey", "subscription", "value"]
  ⟨⟨⟨place, none⟩, Condition.reader, none⟩, ⟨1, .empty, some table⟩,
    { Session.opened 1 1 (some "databus") with
      failing := some (.ofRaised (.ofStandard .connectionError "lost")) }⟩

/-- The columns are found and remembered, and then the session fails. -/
theorem leaves_no_trace_of_outage :
    ∃ failure t signals,
      ((Write.delete "a").performBy Schema.lookAgain 0 0).run outage =
          ⟨.error failure, t, signals⟩ ∧
        outage.store.resolver.columns = none ∧
        t.store.resolver.columns = some ⟨"rowkey", "subscription", "value"⟩ ∧
        t.session = outage.session ∧ ∀ later, replies t later = replies outage later := by
  have found : (((Write.delete "a").performBy Schema.lookAgain 0 0).run
      outage).state.store.resolver.columns = some ⟨"rowkey", "subscription", "value"⟩ := by
    decide
  have refused : ∃ failure, (((Write.delete "a").performBy Schema.lookAgain 0 0).run
      outage).result = .error failure :=
    ⟨_, rfl⟩
  obtain ⟨failure, refused⟩ := refused
  rcases fails : ((Write.delete "a").performBy Schema.lookAgain 0 0).run outage with
    ⟨result, t, signals⟩
  rw [fails] at found refused
  subst refused
  obtain ⟨kept, -, same⟩ := leaves_no_trace outage.view.steady_lookAgain fails
  exact ⟨failure, t, signals, rfl, rfl, found, kept, same⟩

end Store.Wide

end EventRoster
