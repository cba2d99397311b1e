import EventRoster.Action.Basic
import EventRoster.Store.Wide

/-!
# The conduct of the wide-column store

All that a store does is made of few single actions.  It asks for the columns and has the session
execute commands; besides, it looks at its place and at its reader, gives notices, and answers or fails
as something comes to.  So what holds of these, and is passed on from actions to what is made of them,
holds of everything that the store does.

`Shared` says of a property of actions that it is such a one, with a clause for each way of making
actions.  There is one lemma for each thing that the store does.

* `Shared.perform`: operations.
* `Shared.pull`: listings that are read step by step.
-/

namespace EventRoster.Store.Wide

/-- A property that the single actions of a store have, and compound ones if their parts have it. -/
structure Shared (P : ∀ α : Type, Action Scene α → Prop) : Prop where
  columns : P _ columns
  send : ∀ now cols command, P _ (send now cols command)
  lift : ∀ {α : Type} (result : Except Failure α), P α (Action.lift result)
  note : ∀ n, P Unit (Action.note n)
  bind : ∀ {α β : Type} {a : Action Scene α} {f : α → Action Scene β},
    P α a → (∀ x, P β (f x)) → P β (a >>= f)
  attempt : ∀ {α : Type} {a : Action Scene α}, P α a → P _ (Action.attempt a)
  /-- What is done next depends on the place and on the reader. -/
  look : ∀ {α : Type} {f : Scene → Action Scene α},
    (∀ s t, s.store.place = t.store.place → s.store.reader = t.store.reader → f s = f t) →
      (∀ s, P α (f s)) → P α (Action.state >>= f)

namespace Shared

variable {P : ∀ α : Type, Action Scene α → Prop} {α : Type} (h : Shared P)

include h

theorem answer (x : α) : P α (pure x) :=
  h.lift (.ok x)

theorem fail (failure : Failure) : P α (Action.fail failure) :=
  h.lift (.error failure)

theorem request (now : Int) (command : Cql.Command) : P _ (request now command) :=
  h.bind h.columns fun cols => h.send now cols command

/-! ## Writing -/

theorem note_at (n : Cql.Location → Notice) :
    P Unit (Action.state >>= fun s : Scene => Action.note (n s.store.place)) :=
  h.look (fun s t place _ => by rw [place]) fun _ => h.note _

theorem insert (own now : Int) (r : Registration) : P Unit (insert own now r) := by
  refine h.bind h.columns fun cols => h.bind (h.lift _) fun payload => ?_
  exact h.bind (h.send now cols _) fun _ => h.note_at fun place =>
    .inserted place r.name (Lifetime.clampSeconds r.lifetime)

theorem delete (now : Int) (name : String) : P Unit (delete now name) :=
  h.bind (h.request now _) fun _ => h.note_at fun place => .deleted place name

/-! ## Reading -/

theorem readRow (row : Row) : P _ (readRow row) := by
  refine h.look (fun s t place reader => by rw [place, reader]) fun s => ?_
  split
  · exact h.answer _
  · split
    · exact h.bind (h.note _) fun _ => h.fail _
    · exact h.fail _

theorem readItem (what : Selection) (row : Row) : P _ (readItem what row) := by
  cases what with
  | subscriptions => exact h.bind (h.readRow row) fun _ => h.answer _
  | names => exact h.answer _

theorem readItems (what : Selection) (rows : List Row) : P _ (readItems what rows) := by
  induction rows with
  | nil => exact h.answer _
  | cons row rows ih =>
    refine h.bind (h.attempt (h.readItem what row)) fun outcome => ?_
    cases outcome with
    | error failure => exact h.answer _
    | ok item => exact h.bind ih fun _ => h.answer _

theorem get (now : Int) (name : String) : P _ (get now name) := by
  refine h.bind (h.request now _) fun rows => ?_
  cases rows with
  | nil => exact h.answer _
  | cons row rows => exact h.bind (h.readRow row) fun _ => h.answer _

theorem list (now : Int) (what : Selection) : P _ (list now what) := by
  refine h.bind (h.attempt (h.request now _)) fun outcome => ?_
  cases outcome with
  | error failure => exact h.answer _
  | ok rows => exact h.readItems what rows

/-! ## Operations, and listings read step by step -/

/-- **Operations have what the single actions have.** -/
theorem perform (own now : Int) (op : Operation) : P _ (perform own now op) := by
  cases op with
  | insert r => exact h.bind (h.insert own now r) fun _ => h.answer _
  | delete name => exact h.bind (h.delete now name) fun _ => h.answer _
  | get name => exact h.bind (h.get now name) fun _ => h.answer _
  | list what => exact h.bind (h.list now what) fun _ => h.answer _

theorem takeItem (what : Selection) (rows : List Row) : P _ (takeItem what rows) := by
  cases rows with
  | nil => exact h.answer _
  | cons row rest =>
    refine h.bind (h.attempt (h.readItem what row)) fun outcome => ?_
    cases outcome with
    | error failure => exact h.answer _
    | ok item => exact h.answer _

/-- So does reading the next entry of a listing. -/
theorem pull (now : Int) (cursor : Cursor) : P _ (pull now cursor) := by
  cases cursor with
  | unopened what =>
    refine h.bind (h.attempt (h.request now _)) fun outcome => ?_
    cases outcome with
    | error failure => exact h.answer _
    | ok rows => exact h.takeItem what rows
  | opened what rest => exact h.takeItem what rest

end Shared

end EventRoster.Store.Wide
