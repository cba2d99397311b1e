import EventRoster.Proofs.Action
import EventRoster.Proofs.Schema.Calls
import EventRoster.Store.Wide
import Mathlib.Data.List.Forall2

/-!
# The wide-column store on a session that does not fail

As long as the table is there and the session does not fail, every request of the store reaches its
partition.  `Scene.Serves` is what all of them keep true, and says how conditions are read and what
the partition holds, which may be anything; there is one lemma for each operation, which says what it
comes to and what the partition holds afterwards.  The lemmas hide when the columns were found, and
what was signalled.

* `Schema.exists_answers_resolve`: the columns of a table that is there are found.
* `exists_answers_request`: a request is executed on the partition.
* `exists_answers_registration`, `exists_comes_registration_error` and `exists_answers_delete`: how the
  partition changes.
* `exists_comes_get` and `exists_answers_list`: reading leaves it alone and shows what the rows are
  decoded as, up to the first that cannot be.
* `found_eq_ok` and `listing_eq_of_decodes`: rows that can be decoded are shown to the last.
-/

namespace EventRoster

open EventRoster.Action

/-! ## Columns -/

namespace Schema

/-- The columns of the table have been found, or it is in the catalog and has enough of them. -/
def View.Knows (v : View) : Prop :=
  ∃ columns, v.resolver.columns = some columns ∨
    columnsIn v.cluster.catalog v.resolver.place = .ok columns

/-- The columns of a table that is there are found, and remembered. -/
theorem exists_answers_resolve {v : View} (h : v.Knows) :
    ∃ columns, resolve.Answers v columns (v.bind columns) := by
  cases resolved : v.resolver.columns with
  | some columns =>
    refine ⟨columns, [], ?_⟩
    rw [resolve, resolveBy_of_resolved lookAgain resolved, View.bind, ← resolved]
  | none =>
    obtain ⟨columns, found | shaped⟩ := h
    · rw [resolved] at found
      cases found
    · obtain ⟨t, there, shape⟩ := View.columnsIn_eq_ok_iff.1 shaped
      have looks := run_lookBy_of_some lookAgain there
      rw [shape] at looks
      exact ⟨columns, _, run_resolveBy_of_ok resolved looks⟩

end Schema

/-! ## Sessions -/

/-- A session that does not fail executes commands on its partition. -/
theorem Session.answers_execute {s : Session} (h : s.failing = none) (now : Int)
    (place : Cql.Location) (columns : Cql.Columns) (command : Cql.Command) :
    (Session.execute now place columns command).Answers s
      ((s.partition Cql.partition).execute now command).2
      (s.withPartition Cql.partition ((s.partition Cql.partition).execute now command).1) := by
  refine (answers_state s).bind ?_
  refine (answers_report _ s).bind ?_
  rw [h]
  exact (answers_change _ s).bind (answers_pure _ _)

namespace Store.Wide

/-- A scene in which nothing fails but what is read: the table is known, and the session is willing.
It also tells how the store reads conditions, and what its partition holds. -/
structure Scene.Serves (s : Scene) (reader : ConditionReader) (p : Partition) : Prop where
  reader : s.store.reader = reader
  known : Schema.View.Knows ⟨s.store.resolver, s.cluster⟩
  willing : s.session.failing = none
  cells : s.session.partition Cql.partition = p

/-- Such a scene with a store that reads the conditions that stores write. -/
abbrev Scene.Holds (s : Scene) (p : Partition) : Prop :=
  s.Serves Condition.reader p

variable {s : Scene} {reader : ConditionReader} {p : Partition}

/-! ## Requests -/

theorem exists_answers_columns (h : s.Serves reader p) :
    ∃ cols t, columns.Answers s cols t ∧ t.Serves reader p := by
  obtain ⟨cols, finds⟩ := Schema.exists_answers_resolve h.known
  have resolves : Schema.resolve.Answers s.view cols (s.view.bind cols) := finds
  refine ⟨cols, _, Answers.within Scene.withView resolves, ?_⟩
  exact ⟨h.reader, ⟨cols, .inl rfl⟩, h.willing, h.cells⟩

theorem exists_answers_send (h : s.Serves reader p) (now : Int) (cols : Cql.Columns)
    (command : Cql.Command) :
    ∃ t, (send now cols command).Answers s (p.execute now command).2 t ∧
      t.Serves reader (p.execute now command).1 := by
  have executes := Session.answers_execute h.willing now s.store.place cols command
  rw [h.cells] at executes
  refine ⟨_, (answers_state s).bind (Answers.within _ executes), ?_⟩
  exact ⟨h.reader, h.known, h.willing, Session.partition_withPartition _ _ _⟩

/-- **A request is executed on the partition.** -/
theorem exists_answers_request (h : s.Serves reader p) (now : Int) (command : Cql.Command) :
    ∃ t, (request now command).Answers s (p.execute now command).2 t ∧
      t.Serves reader (p.execute now command).1 := by
  obtain ⟨cols, t, finds, ht⟩ := exists_answers_columns h
  obtain ⟨u, sends, hu⟩ := exists_answers_send ht now cols command
  exact ⟨u, finds.bind sends, hu⟩

/-! ## Writing -/

/-- A subscription whose record can be written is put into the partition. -/
theorem exists_answers_insert (h : s.Serves reader p) {own : Int} {r : Registration}
    {payload : Text} (written : Record.encode (r.subscription own) = .ok payload) (now : Int) :
    ∃ t, (insert own now r).Answers s () t ∧
      t.Serves reader (p.put now r.name (.text payload) (Lifetime.clampSeconds r.lifetime)) := by
  obtain ⟨cols, t, finds, ht⟩ := exists_answers_columns h
  obtain ⟨u, sends, hu⟩ := exists_answers_send ht now cols
    (.insert r.name payload (Lifetime.clampSeconds r.lifetime))
  refine ⟨u, finds.bind ?_, hu⟩
  rw [written]
  refine (answers_lift payload t).bind (sends.bind ?_)
  exact (answers_state u).bind (answers_note _ u)

/-- A subscription whose record cannot be written is refused, and the partition stays as it is. -/
theorem exists_comes_insert_error (h : s.Serves reader p) {own : Int} {r : Registration}
    {failure : Failure} (unwritten : Record.encode (r.subscription own) = .error failure)
    (now : Int) : ∃ t, (insert own now r).Comes s (.error failure) t ∧ t.Serves reader p := by
  obtain ⟨cols, t, finds, ht⟩ := exists_answers_columns h
  refine ⟨t, finds.bind_comes ?_, ht⟩
  rw [unwritten]
  exact (comes_lift (.error failure) t).bind_error _

/-- A registration whose record can be written is done. -/
theorem exists_answers_registration (h : s.Serves reader p) {r : Registration} {payload : Text}
    {now : Int} (written : Record.encode (r.subscription now) = .ok payload) :
    ∃ t, (perform now now (.insert r)).Answers s .done t ∧
      t.Serves reader (p.put now r.name (.text payload) (Lifetime.clampSeconds r.lifetime)) := by
  obtain ⟨t, inserts, ht⟩ := exists_answers_insert h written now
  exact ⟨t, inserts.bind (answers_pure Answer.done t), ht⟩

/-- A registration whose record cannot be written fails with what writing it fails with. -/
theorem exists_comes_registration_error (h : s.Serves reader p) {r : Registration} {now : Int}
    {failure : Failure} (unwritten : Record.encode (r.subscription now) = .error failure) :
    ∃ t, (perform now now (.insert r)).Comes s (.error failure) t ∧ t.Serves reader p := by
  obtain ⟨t, refuses, ht⟩ := exists_comes_insert_error h unwritten now
  exact ⟨t, refuses.bind_error _, ht⟩

/-- A name is removed from the partition. -/
theorem exists_answers_delete (h : s.Serves reader p) (now : Int) (name : String) :
    ∃ t, (delete now name).Answers s () t ∧ t.Serves reader (Shelf.erase p name) := by
  obtain ⟨t, executes, ht⟩ := exists_answers_request h now (.delete name)
  exact ⟨t, executes.bind ((answers_state t).bind (answers_note _ t)), ht⟩

/-! ## Reading -/

/-- What is found in some rows: the subscription in the first of them, if there is one. -/
def found (reader : ConditionReader) : List Row → Except Failure (Option Subscription)
  | [] => .ok none
  | row :: _ => (Record.decode reader row.name row.payload).map some

/-- What a listing shows of a row. -/
def shown (reader : ConditionReader) (row : Row) : Selection → Except Failure Item
  | .subscriptions => (Record.decode reader row.name row.payload).map .subscription
  | .names => .ok (.name row.name)

/-- What a listing shows of some rows, up to the first that cannot be read. -/
def listing (reader : ConditionReader) (what : Selection) : List Row → Listing
  | [] => ⟨[], none⟩
  | row :: rows =>
    match shown reader row what with
    | .error failure => ⟨[], some failure⟩
    | .ok item => ⟨item :: (listing reader what rows).items, (listing reader what rows).stopped⟩

theorem comes_readRow (h : s.Serves reader p) (row : Row) :
    (readRow row).Comes s (Record.decode reader row.name row.payload) s := by
  refine (answers_state s).bind_comes ?_
  rw [h.reader]
  cases Record.decode reader row.name row.payload with
  | ok subscription => exact answers_pure subscription s
  | error failure =>
    simp only
    split
    · exact (answers_note _ s).bind_comes (comes_fail failure s)
    · exact comes_fail failure s

theorem comes_readItem (h : s.Serves reader p) (what : Selection) (row : Row) :
    (readItem what row).Comes s (shown reader row what) s := by
  cases what with
  | subscriptions => exact (comes_readRow h row).map Item.subscription
  | names => exact answers_pure (Item.name row.name) s

theorem answers_readItems (h : s.Serves reader p) (what : Selection) (rows : List Row) :
    (readItems what rows).Answers s (listing reader what rows) s := by
  induction rows with
  | nil => exact answers_pure _ s
  | cons row rows ih =>
    refine (comes_readItem h what row).attempt.bind ?_
    rw [listing]
    cases shown reader row what with
    | error failure => exact answers_pure _ s
    | ok item => exact ih.bind (answers_pure _ s)

/-- **Looking up a name** comes to what its row is decoded as, unless it is hidden. -/
theorem exists_comes_get (h : s.Serves reader p) (now : Int) (name : String) :
    ∃ t, (get now name).Comes s (found reader (p.liveAt now name)) t ∧ t.Serves reader p := by
  obtain ⟨t, executes, ht⟩ := exists_answers_request h now (.get name)
  have finds : (request now (.get name)).Answers s (p.liveAt now name) t := executes
  refine ⟨t, finds.bind_comes ?_, ht⟩
  cases p.liveAt now name with
  | nil => exact answers_pure none t
  | cons row rows => exact (comes_readRow ht row).map some

/-- A listing asks for all rows that are not hidden. -/
theorem execute_command (p : Partition) (now : Int) (what : Selection) :
    p.execute now (command what) = (p, p.live now) := by
  cases what with
  | subscriptions => rfl
  | names => rfl

/-- **A listing** shows the rows that are not hidden, up to the first that cannot be read. -/
theorem exists_answers_list (h : s.Serves reader p) (now : Int) (what : Selection) :
    ∃ t, (list now what).Answers s (listing reader what (p.live now)) t ∧ t.Serves reader p := by
  obtain ⟨t, executes, ht⟩ := exists_answers_request h now (command what)
  rw [execute_command] at executes ht
  exact ⟨t, executes.comes.attempt.bind (answers_readItems ht what _), ht⟩

/-! ## Rows that can be decoded -/

/-- A row and the subscription that it is decoded as. -/
def Decodes (row : Row) (subscription : Subscription) : Prop :=
  Record.decode Condition.reader row.name row.payload = .ok subscription ∧
    subscription.name = row.name

theorem Decodes.shown_eq {row : Row} {subscription : Subscription} (h : Decodes row subscription)
    (what : Selection) : shown Condition.reader row what = .ok (what.show subscription) := by
  cases what with
  | subscriptions =>
    rw [shown, h.1]
    rfl
  | names => rw [shown, Selection.show, h.2]

/-- A name that is not hidden is found, if its row can be decoded. -/
theorem found_eq_ok {rows : List Row} {subscription : Option Subscription}
    (decodes : List.Forall₂ Decodes rows subscription.toList) :
    found Condition.reader rows = .ok subscription := by
  cases subscription with
  | none =>
    rw [List.forall₂_nil_right_iff.1 decodes]
    rfl
  | some subscription =>
    obtain ⟨row, rest, first, -, rfl⟩ := List.forall₂_cons_right_iff.1 decodes
    rw [found, first.1]
    rfl

/-- Rows that can be decoded are shown to the last. -/
theorem listing_eq_of_decodes (what : Selection) {rows : List Row}
    {subscriptions : List Subscription} (decodes : List.Forall₂ Decodes rows subscriptions) :
    listing Condition.reader what rows = ⟨subscriptions.map what.show, none⟩ := by
  induction decodes with
  | nil => rfl
  | cons first others ih => rw [listing, first.shown_eq, ih, List.map_cons]

end Store.Wide

end EventRoster
