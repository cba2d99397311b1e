import EventRoster.Proofs.Store.Parity
import EventRoster.Proofs.Time.Lifetime

/-!
# How long subscriptions are found

A subscription carries a hint when it ends, in milliseconds, and the store drops it when its lifetime
in seconds is over.  Neither is derived from the other, and both pass through a different rounding.
For lifetimes of up to a year the second brackets the first: a subscription is found until its hint,
and for a second more at most.  Requests that leave its name alone make no difference, whether they
succeed or not.

Being found is not being read.  The store in memory returns what it was given; the other one reads the
record anew, and fails with whatever its reader of conditions makes of the text.

* `Brackets`: until when a name is found, against the hint.
* `ShowsUntil.brackets`: the end of the lifetime is such a time, and
  `ShowsUntil.eq_of_brackets` says that there is one thing to be seen until then.
* `Memory.visible_foldl` and `Wide.exists_serves_after`: what other requests leave in both stores.
* `brackets_hint`: both stores, and when the record that is found is the one that was put there.
-/

namespace EventRoster.Store

/-- When the lifetime of a subscription is over. -/
def Registration.deadline (r : Registration) (start : Int) : Int :=
  start + Lifetime.clampSeconds r.lifetime * 1000

/-- From its registration on, looking up a subscription comes to something until a deadline, and from
then on to nothing.  `look` is told which requests were made since and what time it is; they leave the
name alone, and none of them is later. -/
def ShowsUntil (deadline : Int) (r : Registration) (start : Int)
    (look : List Request → Int → Except Failure Answer) (seen : Except Failure Subscription) : Prop :=
  ∀ later now, start ≤ now → (∀ q ∈ later, q.writesTo r.name = false ∧ q.now ≤ now) →
    look later now =
      if now < deadline then seen.map fun s => .found (some s) else .ok (.found none)

/-- There is such a deadline that is not before the hint, and at most a second after it. -/
def Brackets (r : Registration) (start : Int) (look : List Request → Int → Except Failure Answer)
    (seen : Except Failure Subscription) : Prop :=
  ∃ deadline, (r.subscription start).expiresAt ≤ deadline ∧
    deadline ≤ (r.subscription start).expiresAt + 1000 ∧ ShowsUntil deadline r start look seen

/-- A request that registers under a name writes there. -/
theorem Request.ne_of_spared_insert {r : Registration} {now : Int} {name : String}
    (spared : Request.writesTo name ⟨now, .insert r⟩ = false) : r.name ≠ name := by
  intro same
  have left : (if r.name = name then some (some (now, r)) else none).isSome = false := spared
  rw [if_pos same] at left
  cases left

/-- A request that deletes a name writes there. -/
theorem Request.ne_of_spared_delete {n : String} {now : Int} {name : String}
    (spared : Request.writesTo name ⟨now, .delete n⟩ = false) : n ≠ name := by
  intro same
  have left : (if n = name then some (none : Option (Int × Registration)) else none).isSome = false :=
    spared
  rw [if_pos same] at left
  cases left

section Deadline

variable {r : Registration} {start : Int} {look : List Request → Int → Except Failure Answer}
  {seen : Except Failure Subscription}

/-- **The end of the lifetime brackets the hint.** -/
theorem ShowsUntil.brackets (h : ShowsUntil (r.deadline start) r start look seen)
    (nonneg : 0 ≤ r.lifetime.micros)
    (most : r.lifetime.micros ≤ Lifetime.greatest * Time.microsPerSecond) :
    Brackets r start look seen := by
  have bounds := Lifetime.clampSeconds_bounds nonneg most
  have hint : (r.subscription start).expiresAt = start + r.lifetime.wholeMillis := rfl
  refine ⟨r.deadline start, ?_, ?_, h⟩ <;>
  · rw [hint, Registration.deadline]
    omega

/-- There is one thing that looking up comes to before the deadline: every lifetime is a second at
least, so that there is such a time. -/
theorem ShowsUntil.eq_of_brackets {other : Except Failure Subscription}
    (h : ShowsUntil (r.deadline start) r start look seen) (brackets : Brackets r start look other) :
    other = seen := by
  obtain ⟨deadline, -, -, shows⟩ := brackets
  have begins : start < r.deadline start := by
    have least := (Lifetime.clampSeconds_mem r.lifetime).1
    rw [Lifetime.least] at least
    rw [Registration.deadline]
    omega
  have first := h [] start le_rfl (List.forall_mem_nil _)
  rw [shows [] start le_rfl (List.forall_mem_nil _), if_pos begins] at first
  split at first
  · cases other <;> cases seen <;> cases first <;> rfl
  · cases seen <;> cases first

theorem ShowsUntil.brackets_iff {other : Except Failure Subscription}
    (h : ShowsUntil (r.deadline start) r start look seen) (nonneg : 0 ≤ r.lifetime.micros)
    (most : r.lifetime.micros ≤ Lifetime.greatest * Time.microsPerSecond) :
    Brackets r start look other ↔ other = seen := by
  refine ⟨h.eq_of_brackets, ?_⟩
  rintro rfl
  exact h.brackets nonneg most

end Deadline

/-! ## In memory -/

namespace Memory

variable {name : String} {now : Int}

/-- A request that leaves a name alone changes nothing that can be seen under it from then on. -/
theorem visible_perform (m : Memory) {q : Request} (spared : q.writesTo name = false)
    (past : q.now ≤ now) :
    ((perform q.now q.operation).run m).state.visible name now = m.visible name now := by
  obtain ⟨t, operation⟩ := q
  cases operation with
  | insert r =>
    show (m.insert t r).visible name now = _
    rw [visible_insert, if_neg (Request.ne_of_spared_insert spared)]
  | delete n =>
    show (m.delete n).visible name now = _
    rw [visible_delete, if_neg (Request.ne_of_spared_delete spared).symm]
  | get n => exact visible_get m past n name
  | list what => exact visible_purged m past name

/-- **Requests that leave a name alone** change nothing that can be seen under it. -/
theorem visible_foldl (m : Memory) {later : List Request}
    (spared : ∀ q ∈ later, q.writesTo name = false ∧ q.now ≤ now) :
    (later.foldl (fun m q => ((perform q.now q.operation).run m).state) m).visible name now =
      m.visible name now := by
  induction later generalizing m with
  | nil => rfl
  | cons q later ih =>
    obtain ⟨first, past⟩ := spared q List.mem_cons_self
    rw [List.foldl_cons, ih _ fun q' hq' => spared q' (List.mem_cons_of_mem q hq'),
      visible_perform m first past]

/-- **What was registered is found** until its lifetime is over, whatever came before. -/
theorem showsUntil_deadline (before : List Request) (r : Registration) (start : Int) :
    ShowsUntil (r.deadline start) r start
      (fun later now => answer (before ++ ⟨start, .insert r⟩ :: later) now (.get r.name))
      (.ok (r.subscription start)) := by
  intro later now _ spared
  have seen : (after (before ++ ⟨start, .insert r⟩ :: later)).visible r.name now =
      (some (entry start r)).filter (·.isLive now) := by
    rw [after, List.foldl_append, List.foldl_cons, visible_foldl _ spared]
    show ((after before).insert start r).visible r.name now = _
    rw [visible_insert, if_pos rfl]
  show Except.ok (Answer.found ((after _).get now r.name).1) = _
  rw [fst_get, seen, Option.filter_some]
  simp only [Entry.isLive, decide_eq_true_eq]
  show Except.ok (Answer.found
    ((if now < r.deadline start then some (entry start r) else none).map (·.subscription))) = _
  by_cases lasts : now < r.deadline start
  · rw [if_pos lasts, if_pos lasts]
    rfl
  · rw [if_neg lasts, if_neg lasts]
    rfl

end Memory

/-! ## In the wide-column database -/

namespace Wide

open EventRoster.Action

variable {s : Scene} {reader : ConditionReader} {p : Partition}

/-- **Every request** comes to something, whether it succeeds or not, and leaves the rows under all
names alone to which it does not write. -/
theorem exists_comes_perform (h : s.Serves reader p) (q : Request) :
    ∃ result t p', (perform q.now q.now q.operation).Comes s result t ∧ t.Serves reader p' ∧
      ∀ name, q.writesTo name = false → Shelf.get? p' name = Shelf.get? p name := by
  obtain ⟨now, operation⟩ := q
  cases operation with
  | insert r =>
    cases written : Record.encode (r.subscription now) with
    | ok payload =>
      obtain ⟨t, performs, ht⟩ := exists_answers_registration h written
      refine ⟨_, t, _, performs.comes, ht, fun name spared => ?_⟩
      rw [Partition.put, Shelf.get?_put, if_neg (Request.ne_of_spared_insert spared)]
    | error failure =>
      obtain ⟨t, refuses, ht⟩ := exists_comes_registration_error h written
      exact ⟨_, t, p, refuses, ht, fun name spared => rfl⟩
  | delete n =>
    obtain ⟨t, deletes, ht⟩ := exists_answers_delete h now n
    refine ⟨_, t, _, deletes.bind_comes (answers_pure Answer.done t), ht, fun name spared => ?_⟩
    rw [Shelf.get?_erase, if_neg (Request.ne_of_spared_delete spared).symm]
  | get n =>
    obtain ⟨t, gets, ht⟩ := exists_comes_get h now n
    exact ⟨_, t, p, gets.map Answer.found, ht, fun name spared => rfl⟩
  | list what =>
    obtain ⟨t, lists, ht⟩ := exists_answers_list h now what
    exact ⟨_, t, p, lists.comes.map Answer.listed, ht, fun name spared => rfl⟩

/-- **Requests that leave a name alone** leave the row under it. -/
theorem exists_serves_after (h : s.Serves reader p) {name : String} {later : List Request}
    (spared : ∀ q ∈ later, q.writesTo name = false) :
    ∃ p', (after s later).Serves reader p' ∧ Shelf.get? p' name = Shelf.get? p name := by
  induction later generalizing s p with
  | nil => exact ⟨p, h, rfl⟩
  | cons q later ih =>
    obtain ⟨result, t, p₁, performs, ht, row⟩ := exists_comes_perform h q
    obtain ⟨p₂, serves, same⟩ := ih ht fun q' hq' => spared q' (List.mem_cons_of_mem q hq')
    refine ⟨p₂, ?_, same.trans (row name (spared q List.mem_cons_self))⟩
    rw [after, List.foldl_cons, performs.state_eq]
    exact serves

/-- Looking up a name shows what its row is decoded as, unless it is hidden. -/
theorem answer_get (h : s.Serves reader p) {name : String} {later : List Request}
    (spared : ∀ q ∈ later, q.writesTo name = false) (now : Int) :
    answer s later now (.get name) = (found reader (p.liveAt now name)).map .found := by
  obtain ⟨p', serves, same⟩ := exists_serves_after h spared
  obtain ⟨t, gets, -⟩ := exists_comes_get serves now name
  have rows : p'.liveAt now name = p.liveAt now name := by
    rw [Partition.liveAt, Partition.liveAt, same]
  rw [rows] at gets
  exact (gets.map Answer.found).result_eq

/-- A registration that was answered was written. -/
theorem exists_encode_of_done (h : s.Serves reader p) {r : Registration} {start : Int}
    (inserted : ((perform start start (.insert r)).run s).result = .ok .done) :
    Record.encode (r.subscription start) = .ok (Record.text (r.subscription start)) ∧
      Condition.digitCount (r.subscription start).expiresAt ≤ Number.digitLimit := by
  cases written : Record.encode (r.subscription start) with
  | ok payload =>
    obtain ⟨rfl, short⟩ := Record.of_encode_eq_ok written
    exact ⟨rfl, short⟩
  | error failure =>
    obtain ⟨t, refuses, -⟩ := exists_comes_registration_error h written
    rw [refuses.result_eq] at inserted
    cases inserted

/-- **The row of what was registered is there** until its lifetime is over, and its record is read
every time. -/
theorem showsUntil_deadline (h : s.Serves reader p) {r : Registration} {start : Int}
    (inserted : ((perform start start (.insert r)).run s).result = .ok .done) :
    ShowsUntil (r.deadline start) r start
      (fun later now => answer s (⟨start, .insert r⟩ :: later) now (.get r.name))
      ((reader r.condition.text.joined).map fun c =>
        { r.subscription start with condition := c, owner := r.owner.map Text.joined }) := by
  obtain ⟨written, short⟩ := exists_encode_of_done h inserted
  obtain ⟨t, performs, ht⟩ := exists_answers_registration h written
  intro later now _ spared
  have rest : ∀ q ∈ later, q.writesTo r.name = false := fun q hq => (spared q hq).1
  have looks : answer s (⟨start, .insert r⟩ :: later) now (.get r.name) =
      answer t later now (.get r.name) := by
    rw [answer, answer, ← performs.state_eq]
    rfl
  have decodes := Record.decode_text reader (s := r.subscription start)
    (n := Lifetime.clampSeconds r.eventTtl) short rfl
  show answer s (⟨start, .insert r⟩ :: later) now (.get r.name) = _
  rw [looks, answer_get ht rest, Partition.liveAt, Partition.put, Shelf.get?_put, if_pos rfl]
  show (found reader (if now < r.deadline start then [⟨r.name, .text (Record.text _)⟩] else [])).map
    Answer.found = _
  by_cases lasts : now < r.deadline start
  · rw [if_pos lasts, if_pos lasts, found]
    show ((Record.decode reader (r.subscription start).name _).map some).map Answer.found = _
    rw [decodes]
    show (((reader r.condition.text.joined).map _).map some).map Answer.found = _
    cases reader r.condition.text.joined <;> rfl
  · rw [if_neg lasts, if_neg lasts]
    rfl

end Wide

/-! ## Both stores -/

/-- **A lifetime of up to a year brackets the hint**, in both stores, whatever they held before and
whatever else is asked of them.  In the wide-column database it is the row that is there from its
registration until its deadline.  Looking it up comes to a record only if the values of its condition can
be read back, and this record is the one that was put there if no surrogate pair stands in it. -/
theorem brackets_hint {r : Registration} (nonneg : 0 ≤ r.lifetime.micros)
    (most : r.lifetime.micros ≤ Lifetime.greatest * Time.microsPerSecond) (start : Int) :
    (∀ before, Brackets r start
      (fun later now => Memory.answer (before ++ ⟨start, .insert r⟩ :: later) now (.get r.name))
      (.ok (r.subscription start))) ∧
    ∀ (s : Wide.Scene) (p : Partition), s.Holds p →
      ((Wide.perform start start (.insert r)).run s).result = .ok .done →
      Brackets r start
          (fun later now => Wide.answer s (⟨start, .insert r⟩ :: later) now (.get r.name))
          ((Condition.reader r.condition.text.joined).map fun c =>
            { r.subscription start with condition := c, owner := r.owner.map Text.joined }) ∧
        ((∃ record, Brackets r start
            (fun later now => Wide.answer s (⟨start, .insert r⟩ :: later) now (.get r.name))
            (.ok record)) ↔
          ∀ v ∈ r.condition.values, v.readable = true) ∧
        (Brackets r start
            (fun later now => Wide.answer s (⟨start, .insert r⟩ :: later) now (.get r.name))
            (.ok (r.subscription start)) ↔
          (∀ v ∈ r.condition.values, v.readable = true) ∧ ¬(r.subscription start).HasPair) := by
  refine ⟨fun before => (Memory.showsUntil_deadline before r start).brackets nonneg most, ?_⟩
  intro s p h inserted
  have shows := Wide.showsUntil_deadline h inserted
  have comes (record : Subscription) : Brackets r start
      (fun later now => Wide.answer s (⟨start, .insert r⟩ :: later) now (.get r.name)) (.ok record) ↔
      (∀ v ∈ r.condition.values, v.readable = true) ∧ record = (r.subscription start).joined :=
    (shows.brackets_iff nonneg most).trans (eq_comm.trans Record.map_reader_eq_ok_iff)
  refine ⟨shows.brackets nonneg most, ?_, ?_⟩
  · simp only [comes, exists_and_left, exists_eq, and_true]
  · rw [comes, ← Subscription.joined_eq_self_iff, eq_comm (a := r.subscription start)]

/-- A lifetime of a second, on the bench. -/
theorem brackets_hint_brief :
    0 ≤ (Memory.brief "a").lifetime.micros ∧
      (Memory.brief "a").lifetime.micros ≤ Lifetime.greatest * Time.microsPerSecond ∧
      Wide.bench.Holds ∅ ∧
      ((Wide.perform 0 0 (.insert (Memory.brief "a"))).run Wide.bench).result = .ok .done ∧
      Brackets (Memory.brief "a") 0
        (fun later now => Memory.answer (⟨0, .insert (Memory.brief "a")⟩ :: later) now (.get "a"))
        (.ok ((Memory.brief "a").subscription 0)) ∧
      Brackets (Memory.brief "a") 0
        (fun later now =>
          Wide.answer Wide.bench (⟨0, .insert (Memory.brief "a")⟩ :: later) now (.get "a"))
        (.ok ((Memory.brief "a").subscription 0)) := by
  have least : 0 ≤ (Memory.brief "a").lifetime.micros := by decide
  have most : (Memory.brief "a").lifetime.micros ≤ Lifetime.greatest * Time.microsPerSecond := by
    decide
  have holds := Wide.holds_of_attach Wide.attach_bench Wide.columnsIn_bench rfl rfl
  have storable : (Memory.brief "a").Storable 0 := by decide
  have inserted :
      ((Wide.perform 0 0 (.insert (Memory.brief "a"))).run Wide.bench).result = .ok .done := by
    obtain ⟨t, performs, -⟩ := Wide.exists_answers_registration holds storable.encode_eq
    exact performs.result_eq
  obtain ⟨memory, wide⟩ := brackets_hint least most 0
  exact ⟨least, most, holds, inserted, memory [],
    (wide Wide.bench ∅ holds inserted).2.2.2 ⟨storable.readable, storable.noPair⟩⟩

/-- A registration for a second with a condition in which a number overflows. -/
def overflowing : Registration :=
  { Memory.brief "a" with condition := Record.overflowing }

/-- **Not every record is returned while its row is there.**  A condition that was read from a text and
put into the wide-column database for a second is not found at once, and not before its hint. -/
theorem not_brackets_overflowing :
    Condition.parse Record.overflowingText = .ok overflowing.condition ∧
      overflowing.lifetime.micros = 1000000 ∧
      ((Wide.perform 0 0 (.insert overflowing)).run Wide.bench).result = .ok .done ∧
      ¬Brackets overflowing 0
        (fun later now => Wide.answer Wide.bench (⟨0, .insert overflowing⟩ :: later) now (.get "a"))
        (.ok (overflowing.subscription 0)) := by
  have holds := Wide.holds_of_attach Wide.attach_bench Wide.columnsIn_bench rfl rfl
  have written : Record.encode (overflowing.subscription 0) =
      .ok (Record.text (overflowing.subscription 0)) :=
    Record.encode_of_isLiteral (Condition.isLiteral_of_parse Record.parse_overflowingText) (by decide)
  have inserted : ((Wide.perform 0 0 (.insert overflowing)).run Wide.bench).result = .ok .done := by
    obtain ⟨t, performs, -⟩ := Wide.exists_answers_registration holds written
    exact performs.result_eq
  refine ⟨Record.parse_overflowingText, rfl, inserted, fun brackets => ?_⟩
  have reads := (Wide.showsUntil_deadline holds inserted).eq_of_brackets brackets
  obtain ⟨readable, -⟩ :=
    (Record.map_reader_eq_ok_iff (s := overflowing.subscription 0)).1 reads.symm
  cases readable _ List.mem_cons_self

end EventRoster.Store
