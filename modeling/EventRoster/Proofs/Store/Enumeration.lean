import EventRoster.Proofs.Shelf
import EventRoster.Proofs.Store.Parity

/-!
# Listings agree with looking up

Three requests read the same partition: one asks for a name, one for all rows and one for all names.
What they have in common is which names are live, that is, which rows the session does not hide at
the time; and a row is decoded in the same way for the first two.  Nothing is asked of the rows: some
may have been written by a store and others be whatever was put there.

* `Partition.mem_live_iff`: the rows that are live are those whose cells are not hidden.
* `Partition.liveAt_eq_nil_iff` and `Partition.liveAt_of_mem`: the row under a name.
* `collects_listing`: a listing collects what is found under the names, up to the first failure.
* `answers_pulls`: the same listing, step by step.
* `enumerates`: how the three requests agree.
-/

namespace EventRoster

/-! ## Live rows -/

namespace Partition

variable {p : Partition} {now : Int}

/-- The names that are not hidden at a time, in order. -/
def liveNames (p : Partition) (now : Int) : List String :=
  (p.live now).map (·.name)

theorem mem_live_iff {row : Row} :
    row ∈ p.live now ↔
      ∃ cell, Shelf.get? p row.name = some cell ∧ now < cell.deadline ∧
        cell.payload = row.payload := by
  rw [live, List.mem_map]
  constructor
  · rintro ⟨⟨name, cell⟩, member, rfl⟩
    obtain ⟨stands, unhidden⟩ := List.mem_filter.1 member
    exact ⟨cell, Shelf.mem_rows_iff.1 stands, of_decide_eq_true unhidden, rfl⟩
  · rintro ⟨cell, found, unhidden, payload⟩
    refine ⟨(row.name, cell), List.mem_filter.2 ⟨Shelf.mem_rows_iff.2 found, ?_⟩, ?_⟩
    · exact decide_eq_true unhidden
    · exact congrArg (Row.mk row.name) payload

/-- A name is live exactly if there is a cell under it that is not hidden. -/
theorem mem_liveNames_iff {name : String} :
    name ∈ p.liveNames now ↔ ∃ cell, Shelf.get? p name = some cell ∧ now < cell.deadline := by
  rw [liveNames, List.mem_map]
  constructor
  · rintro ⟨row, member, rfl⟩
    obtain ⟨cell, found, unhidden, -⟩ := mem_live_iff.1 member
    exact ⟨cell, found, unhidden⟩
  · rintro ⟨cell, found, unhidden⟩
    exact ⟨⟨name, cell.payload⟩, mem_live_iff.2 ⟨cell, found, unhidden, rfl⟩, rfl⟩

/-- Live names are listed in order, each once. -/
theorem pairwise_liveNames (p : Partition) (now : Int) : (p.liveNames now).Pairwise (· < ·) := by
  rw [liveNames, live, List.map_map]
  exact List.pairwise_map.2 (p.sorted.sublist List.filter_sublist)

/-- The row under a live name is the one that is listed. -/
theorem liveAt_of_mem {row : Row} (h : row ∈ p.live now) : p.liveAt now row.name = [row] := by
  obtain ⟨cell, found, unhidden, payload⟩ := mem_live_iff.1 h
  rw [liveAt, found]
  simp only [if_pos unhidden, payload]

/-- There is no row under a name exactly if it is not live. -/
theorem liveAt_eq_nil_iff {name : String} : p.liveAt now name = [] ↔ name ∉ p.liveNames now := by
  rw [mem_liveNames_iff, liveAt]
  cases Shelf.get? p name with
  | none => simp
  | some cell =>
    by_cases unhidden : now < cell.deadline
    · simp [unhidden]
    · simp [unhidden]

end Partition

namespace Store

/-! ## Listings -/

/-- A listing collects what is found under some names, one after the other.  It stops at the first
name under which looking fails, with that failure. -/
inductive Collects (look : String → Except Failure (Option Subscription)) :
    List String → Listing → Prop
  | done : Collects look [] ⟨[], none⟩
  | failed {name : String} {names : List String} {failure : Failure}
      (fails : look name = .error failure) : Collects look (name :: names) ⟨[], some failure⟩
  | found {name : String} {names : List String} {s : Subscription} {l : Listing}
      (finds : look name = .ok (some s)) (more : Collects look names l) :
      Collects look (name :: names) ⟨.subscription s :: l.items, l.stopped⟩

/-- What the steps of reading a listing come to: its entries and the failure that ended it. -/
def Listing.outcomes (l : Listing) : List (Except Failure (Option Item)) :=
  l.items.map (fun item => Except.ok (some item)) ++ l.stopped.toList.map Except.error

/-- What the first steps of reading a listing come to, however many they are: there is nothing more
from its end on. -/
def Listing.steps (l : Listing) (count : Nat) : List (Except Failure (Option Item)) :=
  (l.outcomes ++ List.replicate count (Except.ok none)).take count

/-- The steps after the first are those of what comes after. -/
theorem Listing.steps_succ {l rest : Listing} {outcome : Except Failure (Option Item)}
    (h : l.outcomes = outcome :: rest.outcomes) (count : Nat) :
    l.steps (count + 1) = outcome :: rest.steps count := by
  have enough : count ≤ (rest.outcomes ++ List.replicate count (Except.ok none)).length := by
    rw [List.length_append, List.length_replicate]
    exact Nat.le_add_left _ _
  rw [steps, steps, h, List.cons_append, List.take_succ_cons, List.replicate_succ',
    ← List.append_assoc, List.take_append_of_le_length enough]

/-- Nothing comes after the end. -/
theorem Listing.steps_done (count : Nat) :
    steps ⟨[], none⟩ (count + 1) = .ok none :: steps ⟨[], none⟩ count := by
  simp [steps, outcomes, List.replicate_succ]

namespace Wide

open EventRoster.Action

/-- What looking up a name comes to. -/
def look (s : Scene) (now : Int) (name : String) : Except Failure (Option Subscription) :=
  ((get now name).run s).result

/-- What reading a listing step by step comes to, at one time after the other. -/
def pulls : Cursor → List Int → Action Scene (List (Except Failure (Option Item)))
  | _, [] => pure []
  | cursor, now :: later => do
    let p ← pull now cursor
    let outcomes ← pulls p.rest later
    pure (p.outcome :: outcomes)

variable {s : Scene} {reader : ConditionReader} {p : Partition}

/-- What is found under a live name is what its row is decoded as. -/
theorem look_of_mem (h : s.Serves reader p) {now : Int} {row : Row} (live : row ∈ p.live now) :
    look s now row.name = (Record.decode reader row.name row.payload).map some := by
  obtain ⟨t, gets, -⟩ := exists_comes_get h now row.name
  rw [look, gets.result_eq, Partition.liveAt_of_mem live, found]

/-- Looking up a name comes to nothing exactly if it is not live. -/
theorem look_eq_none_iff (h : s.Serves reader p) {now : Int} {name : String} :
    look s now name = .ok none ↔ name ∉ p.liveNames now := by
  obtain ⟨t, gets, -⟩ := exists_comes_get h now name
  rw [look, gets.result_eq, ← Partition.liveAt_eq_nil_iff]
  cases p.liveAt now name with
  | nil => exact ⟨fun _ => rfl, fun _ => rfl⟩
  | cons row rows =>
    refine ⟨fun none => ?_, nofun⟩
    rw [found] at none
    cases decoded : Record.decode reader row.name row.payload with
    | error failure =>
      rw [decoded] at none
      cases none
    | ok subscription =>
      rw [decoded] at none
      cases none

/-- **A listing of rows collects** what is found under their names. -/
theorem collects_listing {look : String → Except Failure (Option Subscription)} {rows : List Row}
    (looked : ∀ row ∈ rows,
      look row.name = (Record.decode reader row.name row.payload).map some) :
    Collects look (rows.map (·.name)) (listing reader .subscriptions rows) := by
  induction rows with
  | nil => exact .done
  | cons row rows ih =>
    have first := looked row List.mem_cons_self
    rw [List.map_cons, listing, shown]
    cases decoded : Record.decode reader row.name row.payload with
    | error failure =>
      rw [decoded] at first
      exact .failed first
    | ok subscription =>
      rw [decoded] at first
      exact .found first (ih fun row member => looked row (List.mem_cons_of_mem _ member))

theorem listing_names (rows : List Row) :
    listing reader .names rows = ⟨rows.map fun row => .name row.name, none⟩ := by
  induction rows with
  | nil => rfl
  | cons row rows ih =>
    rw [listing, shown]
    simp only [ih, List.map_cons]

/-! ## Step by step -/

/-- The first step of reading rows that have been fetched, and the rows that it leaves. -/
theorem exists_answers_takeItem (h : s.Serves reader p) (what : Selection) (rows : List Row)
    (count : Nat) :
    ∃ outcome rest, (takeItem what rows).Answers s ⟨.opened what rest, outcome⟩ s ∧
      (listing reader what rows).steps (count + 1) =
        outcome :: (listing reader what rest).steps count := by
  cases rows with
  | nil => exact ⟨.ok none, [], answers_pure _ s, Listing.steps_done count⟩
  | cons row rows =>
    have attempted := (comes_readItem h what row).attempt
    cases shows : shown reader row what with
    | error failure =>
      rw [shows] at attempted
      refine ⟨.error failure, [], attempted.bind (answers_pure _ s), Listing.steps_succ ?_ count⟩
      simp only [listing, shows]
      rfl
    | ok item =>
      rw [shows] at attempted
      refine ⟨.ok (some item), rows, attempted.bind (answers_pure _ s), Listing.steps_succ ?_ count⟩
      rw [listing, shows]
      rfl

/-- Rows that have been fetched are shown up to the first that cannot be read, whenever and however
often the next is asked for. -/
theorem answers_pulls_opened (h : s.Serves reader p) (what : Selection) (rows : List Row)
    (times : List Int) :
    (pulls (.opened what rows) times).Answers s
      ((listing reader what rows).steps times.length) s := by
  induction times generalizing rows with
  | nil => exact answers_pure [] s
  | cons now later ih =>
    obtain ⟨outcome, rest, takes, steps⟩ := exists_answers_takeItem h what rows later.length
    rw [List.length_cons, steps]
    exact takes.bind ((ih rest).bind (answers_pure _ s))

/-- **A listing that is read step by step** shows what was live when it was first asked for an
entry. -/
theorem exists_answers_pulls (h : s.Serves reader p) (what : Selection) (now : Int)
    (later : List Int) :
    ∃ t, (pulls (.unopened what) (now :: later)).Answers s
      ((listing reader what (p.live now)).steps (later.length + 1)) t := by
  obtain ⟨t, executes, ht⟩ := exists_answers_request h now (command what)
  rw [execute_command] at executes ht
  obtain ⟨outcome, rest, takes, steps⟩ :=
    exists_answers_takeItem ht what (p.live now) later.length
  rw [steps]
  have pulled : (pull now (.unopened what)).Answers s ⟨.opened what rest, outcome⟩ t :=
    executes.comes.attempt.bind takes
  exact ⟨t, pulled.bind ((answers_pulls_opened ht what rest later).bind (answers_pure _ t))⟩

/-! ## How the requests agree -/

/-- **Listings agree with looking up**, whatever the partition holds, however the store reads
conditions, and at every time.  The names for which anything is found, or looking fails, are the live
ones.  The listing of names has all of them in order.  The listing of subscriptions has what is found
under them in order, up to the first under which looking fails, and then that failure; reading it step
by step comes to the same, and there is nothing behind the failure. -/
theorem enumerates (h : s.Serves reader p) (now : Int) :
    (p.liveNames now).Pairwise (· < ·) ∧
      (∀ name, name ∈ p.liveNames now ↔
        ∃ cell, Shelf.get? p name = some cell ∧ now < cell.deadline) ∧
      (∀ name, name ∈ p.liveNames now ↔ look s now name ≠ .ok none) ∧
      ((list now .names).run s).result = .ok ⟨(p.liveNames now).map .name, none⟩ ∧
      ∃ l, Collects (look s now) (p.liveNames now) l ∧
        ((list now .subscriptions).run s).result = .ok l ∧
        ∀ later, ((pulls (.unopened .subscriptions) (now :: later)).run s).result =
          .ok (l.steps (later.length + 1)) := by
  refine ⟨p.pairwise_liveNames now, fun name => Partition.mem_liveNames_iff, fun name => ?_, ?_,
    listing reader .subscriptions (p.live now), ?_, ?_, fun later => ?_⟩
  · rw [ne_eq, look_eq_none_iff h, not_not]
  · obtain ⟨t, lists, -⟩ := exists_answers_list h now .names
    rw [lists.result_eq, listing_names, Partition.liveNames, List.map_map]
    rfl
  · exact collects_listing fun row live => look_of_mem h live
  · obtain ⟨t, lists, -⟩ := exists_answers_list h now .subscriptions
    exact lists.result_eq
  · obtain ⟨t, reads⟩ := exists_answers_pulls h .subscriptions now later
    exact reads.result_eq

/-- A partition with rows of every kind: one that can be read, one with a condition that cannot, one
that is no record at all, and one that is hidden. -/
def motley : Partition :=
  Shelf.put (Shelf.put (Shelf.put (Shelf.put ∅
    "b" ⟨.bytes [0xff], 2000⟩)
    "a" ⟨.text (Record.text ((Memory.brief "a").subscription 0)), 1000⟩)
    "c" ⟨.text "\x7b\"eventTtl\":1,\"expiresAt\":1,\"filter\":\"\"\x7d", 2000⟩)
    "d" ⟨.other "NoneType", 500⟩

/-- The bench with these rows. -/
def motleyBench : Scene :=
  { bench with session := bench.session.withPartition Cql.partition motley }

theorem enumerates_motley :
    motleyBench.Serves Condition.reader motley ∧
      motley.liveNames 500 = ["a", "b", "c"] ∧
      (∀ name, name ∈ ["a", "b", "c"] ↔ look motleyBench 500 name ≠ .ok none) ∧
      ∃ l, Collects (look motleyBench 500) ["a", "b", "c"] l ∧
        ((list 500 .subscriptions).run motleyBench).result = .ok l := by
  have serves : motleyBench.Serves Condition.reader motley :=
    ⟨rfl, ⟨_, .inr columnsIn_bench⟩, rfl, Session.partition_withPartition _ _ _⟩
  have names : motley.liveNames 500 = ["a", "b", "c"] := by decide
  obtain ⟨-, -, found, -, l, collects, lists, -⟩ := enumerates serves 500
  rw [names] at found collects
  exact ⟨serves, names, found, l, collects, lists⟩

end Wide

end Store

end EventRoster
