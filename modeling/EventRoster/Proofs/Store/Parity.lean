import EventRoster.Proofs.Record.Survival
import EventRoster.Proofs.Store.History
import EventRoster.Proofs.Store.Wide
import EventRoster.Proofs.Time.Lifetime

/-!
# Both kinds of stores answer alike

One store keeps subscriptions and removes those that are gone when it meets them; the other keeps
their records, never removes one for its age, and decodes them again whenever they are asked for.
What ties them together is the history that both of them were given.  The partition holds under each
name the record of whatever was last written there, gone or not, and the store in memory shows what
of this is not gone.

A record has to be written before it can be kept.  This fails for an expiry hint with too many
digits, which the store in memory does not mind.  And it has to be read back as it was, which fails if a
surrogate pair stands in it.

* `Keeps`: what a partition holds after a history.
* `exists_answers_perform`: one request, in step with the store in memory.
* `answer_eq_of_storable`: the answers of both are equal after every history of what can be stored.
* `answer_insert_of_long`: a registration with too long a hint is refused.
* `answer_get_of_insert`: a registration is found joined.
-/

namespace EventRoster

namespace Store

/-! ## What can be stored -/

/-- A registration whose record can be written at some time, and read back as it was: the values of its
condition can be read back, its expiry hint is short enough, and no surrogate pair stands in its owner or
in its condition. -/
structure Registration.Storable (r : Registration) (now : Int) : Prop where
  readable : ∀ v ∈ r.condition.values, v.readable = true
  hint : Condition.digitCount (r.subscription now).expiresAt ≤ Number.digitLimit
  noPair : ¬(r.subscription now).HasPair

instance (r : Registration) (now : Int) : Decidable (r.Storable now) :=
  decidable_of_iff
    ((∀ v ∈ r.condition.values, v.readable = true) ∧
      Condition.digitCount (r.subscription now).expiresAt ≤ Number.digitLimit ∧
      ¬(r.subscription now).HasPair)
    ⟨fun h => ⟨h.1, h.2.1, h.2.2⟩, fun h => ⟨h.readable, h.hint, h.noPair⟩⟩

/-- A request that puts nothing into a store but what can be stored. -/
def Request.Storable (q : Request) : Prop :=
  match q.operation with
  | .insert r => r.Storable q.now
  | .delete _ | .get _ | .list _ => True

instance (q : Request) : Decidable q.Storable := by
  unfold Request.Storable
  split <;> infer_instance

namespace Registration

variable {r : Registration} {now : Int}

/-- The record of a registration is written, if its values can be read back and its hint is short. -/
theorem encode_subscription (readable : ∀ v ∈ r.condition.values, v.readable = true)
    (hint : Condition.digitCount (r.subscription now).expiresAt ≤ Number.digitLimit) :
    Record.encode (r.subscription now) = .ok (Record.text (r.subscription now)) := by
  refine Record.encode_of_isLiteral ?_ hint
  intro v hv
  exact Condition.isLiteral_of_readable (readable v hv)

/-- The record of what can be stored is written. -/
theorem Storable.encode_eq (h : r.Storable now) :
    Record.encode (r.subscription now) = .ok (Record.text (r.subscription now)) :=
  encode_subscription h.readable h.hint

/-- It is read back as the same subscription. -/
theorem Storable.decode_eq (h : r.Storable now) :
    Record.decode Condition.reader r.name (.text (Record.text (r.subscription now))) =
      .ok (r.subscription now) := by
  have same := Subscription.joined_eq_self_iff.2 h.noPair
  exact (Record.decode_text_eq_ok_iff (s := r.subscription now) (n := Lifetime.clampSeconds r.eventTtl)
    h.hint rfl).2 ⟨h.readable, same.symm⟩

end Registration

/-! ## What a partition holds -/

/-- The cell in which an entry is kept. -/
def Entry.cell (e : Entry) : Cell :=
  ⟨.text (Record.text e.subscription), e.deadline⟩

/-- A partition holds under each name the record of what was last written there. -/
def Keeps (p : Partition) (history : List Request) : Prop :=
  ∀ name, Shelf.get? p name = (written history name).map fun w => (Memory.entry w.1 w.2).cell

section Keeps

variable {p : Partition} {history : List Request}

theorem keeps_nil : Keeps ∅ [] :=
  fun _ => rfl

theorem Keeps.insert (kept : Keeps p history) (now : Int) (r : Registration) :
    Keeps (p.put now r.name (.text (Record.text (r.subscription now)))
      (Lifetime.clampSeconds r.lifetime)) (history ++ [⟨now, .insert r⟩]) := by
  intro name
  rw [written_insert, Partition.put, Shelf.get?_put, kept name]
  split <;> rfl

theorem Keeps.delete (kept : Keeps p history) (now : Int) (n : String) :
    Keeps (Shelf.erase p n) (history ++ [⟨now, .delete n⟩]) := by
  intro name
  rw [written_delete, Shelf.get?_erase, kept name]
  by_cases same : n = name
  · rw [if_pos same, if_pos same.symm]
    rfl
  · rw [if_neg same, if_neg (Ne.symm same)]

theorem Keeps.get (kept : Keeps p history) (now : Int) (n : String) :
    Keeps p (history ++ [⟨now, .get n⟩]) := by
  intro name
  rw [written_get, kept name]

theorem Keeps.list (kept : Keeps p history) (now : Int) (what : Selection) :
    Keeps p (history ++ [⟨now, .list what⟩]) := by
  intro name
  rw [written_list, kept name]

/-- What was written in a history of what can be stored can be decoded. -/
theorem decodes_of_written (storable : ∀ q ∈ history, q.Storable) {name : String} {start : Int}
    {r : Registration} (h : written history name = some (start, r)) :
    Wide.Decodes ⟨name, .text (Record.text (r.subscription start))⟩ (r.subscription start) := by
  obtain ⟨rfl, registered⟩ := of_written h
  exact ⟨(storable _ registered : r.Storable start).decode_eq, rfl⟩

/-- The row under a name is decoded as the recorded subscription. -/
theorem Keeps.decodes_liveAt (kept : Keeps p history) (storable : ∀ q ∈ history, q.Storable)
    (now : Int) (name : String) :
    List.Forall₂ Wide.Decodes (p.liveAt now name) (recorded history name now).toList := by
  rw [Partition.liveAt, kept name, recorded]
  cases h : written history name with
  | none => exact .nil
  | some w =>
    obtain ⟨start, r⟩ := w
    show List.Forall₂ Wide.Decodes
      (if now < start + Lifetime.clampSeconds r.lifetime * 1000 then _ else _) _
    simp only [Int.mul_comm 1000]
    split
    · exact .cons (decodes_of_written storable h) .nil
    · exact .nil

/-- The cells that are not hidden keep the entries that the store in memory shows. -/
theorem Keeps.filter_eq_map (kept : Keeps p history) {now : Int} (h : Chronological history now) :
    Shelf.filter p (fun _ cell => decide (now < cell.deadline)) =
      ((Memory.after history).purged now).rows.map Entry.cell := by
  refine Shelf.ext_get? ?_
  intro name
  have seen : ((Memory.after history).purged now).rows.get? name =
      ((written history name).map fun w => Memory.entry w.1 w.2).filter (·.isLive now) := by
    rw [← Memory.visible_after h, Memory.purged, Shelf.get?_filter]
    rfl
  rw [Shelf.get?_filter, Shelf.get?_map, kept name, seen]
  cases written history name with
  | none => rfl
  | some w =>
    show (some (Memory.entry w.1 w.2).cell).filter _ = ((some (Memory.entry w.1 w.2)).filter _).map _
    rw [Option.filter_some, Option.filter_some]
    show (if (Memory.entry w.1 w.2).isLive now then _ else _) = _
    split <;> rfl

/-- The rows that are not hidden are decoded as what the store in memory shows. -/
theorem Keeps.decodes_live (kept : Keeps p history) (storable : ∀ q ∈ history, q.Storable)
    {now : Int} (h : Chronological history now) :
    List.Forall₂ Wide.Decodes (p.live now) ((Memory.after history).snapshot now) := by
  have rows : p.live now = ((Memory.after history).purged now).rows.rows.map fun row =>
      ⟨row.1, .text (Record.text row.2.subscription)⟩ := by
    show (Shelf.filter p fun _ cell => decide (now < cell.deadline)).rows.map _ = _
    rw [kept.filter_eq_map h]
    exact List.map_map
  have shown : (Memory.after history).snapshot now =
      ((Memory.after history).purged now).rows.rows.map (·.2.subscription) := List.map_map
  rw [rows, shown, List.forall₂_map_left_iff, List.forall₂_map_right_iff, List.forall₂_same]
  rintro ⟨name, e⟩ member
  have found := Shelf.mem_rows_iff.1 member
  rw [Memory.purged, Shelf.get?_filter] at found
  have visible := (Memory.visible_after h name).symm.trans found
  obtain ⟨w, hw, rfl⟩ := Option.map_eq_some_iff.1 (Option.filter_eq_some_iff.1 visible).1
  exact decodes_of_written storable hw

end Keeps

/-! ## Requests -/

namespace Wide

/-- The scene after a history, for which the store and the database go by one clock. -/
def after (scene : Scene) (history : List Request) : Scene :=
  history.foldl (fun s q => ((perform q.now q.now q.operation).run s).state) scene

/-- What the store answers to a request after a history. -/
def answer (scene : Scene) (history : List Request) (now : Int) (operation : Operation) :
    Except Failure Answer :=
  ((perform now now operation).run (after scene history)).result

theorem after_concat (scene : Scene) (history : List Request) (q : Request) :
    after scene (history ++ [q]) =
      ((perform q.now q.now q.operation).run (after scene history)).state := by
  rw [after, List.foldl_append]
  rfl

/-- **One request** is answered as the store in memory answers it, and the partition then holds what
it should after the longer history. -/
theorem exists_answers_perform {s : Scene} {p : Partition} {history : List Request} {now : Int}
    {operation : Operation} (holds : s.Holds p) (kept : Keeps p history)
    (h : Chronological history now) (storable : ∀ q ∈ history, q.Storable)
    (fits : Request.Storable ⟨now, operation⟩) :
    ∃ x t p', Memory.answer history now operation = .ok x ∧
      (perform now now operation).Answers s x t ∧
      t.Holds p' ∧ Keeps p' (history ++ [⟨now, operation⟩]) := by
  cases operation with
  | insert r =>
    have fits : r.Storable now := fits
    obtain ⟨t, performs, ht⟩ := exists_answers_registration holds fits.encode_eq
    exact ⟨.done, t, _, rfl, performs, ht, kept.insert now r⟩
  | delete name =>
    obtain ⟨t, deletes, ht⟩ := exists_answers_delete holds now name
    exact ⟨.done, t, _, rfl, deletes.bind (Action.answers_pure _ t), ht, kept.delete now name⟩
  | get name =>
    obtain ⟨t, gets, ht⟩ := exists_comes_get holds now name
    rw [found_eq_ok (kept.decodes_liveAt storable now name)] at gets
    exact ⟨_, t, _, Memory.answer_get h name, Action.Answers.bind gets (Action.answers_pure _ t),
      ht, kept.get now name⟩
  | list what =>
    obtain ⟨t, lists, ht⟩ := exists_answers_list holds now what
    rw [listing_eq_of_decodes what (kept.decodes_live storable h)] at lists
    exact ⟨_, t, _, rfl, lists.bind (Action.answers_pure _ t), ht, kept.list now what⟩

/-- **A history** leaves a partition that holds what it should. -/
theorem exists_holds_after {scene : Scene} (holds : scene.Holds ∅) {history : List Request}
    {now : Int} (h : Chronological history now) (storable : ∀ q ∈ history, q.Storable) :
    ∃ p, (after scene history).Holds p ∧ Keeps p history := by
  induction history using List.reverseRecOn generalizing now with
  | nil => exact ⟨∅, holds, keeps_nil⟩
  | append_singleton history q ih =>
    obtain ⟨before, -⟩ := h.of_concat
    have earlier : ∀ q ∈ history, q.Storable := by
      intro q' hq'
      exact storable q' (List.mem_append_left _ hq')
    have last : q.Storable := storable q (List.mem_append_right _ (List.mem_singleton_self q))
    obtain ⟨p, holds, kept⟩ := ih before earlier
    obtain ⟨x, t, p', -, performs, ht, kept'⟩ :=
      exists_answers_perform holds kept before earlier last
    rw [after_concat, performs.state_eq]
    exact ⟨p', ht, kept'⟩

/-- A store that was attached to a session that does not fail finds its empty partition. -/
theorem holds_of_attach {session : Session} {keyspace table : Option String}
    {lease : Option Settings} {store : Wide} {cluster : Cluster} {columns : Cql.Columns}
    (attached : attach session keyspace table Condition.reader lease = .ok store)
    (shaped : Schema.columnsIn cluster.catalog store.place = .ok columns)
    (willing : session.failing = none) (empty : session.partition Cql.partition = ∅) :
    Scene.Holds ⟨store, cluster, session⟩ ∅ := by
  have reader : store.reader = Condition.reader := by
    rw [attach] at attached
    split at attached
    · cases attached
    · split at attached
      · cases attached
      · cases attached
        rfl
  exact ⟨reader, ⟨columns, .inr shaped⟩, willing, empty⟩

/-- **Both kinds of stores answer alike.**  After any history in which time does not run backwards,
a store that was attached to a willing session, with the table in place and nothing in it, answers
whatever is asked next as the store in memory does.  Everything that was inserted has to be storable:
the values of its condition can be read back, its expiry hint is short enough to be written, and no
surrogate pair stands in it. -/
theorem answer_eq_of_storable {session : Session} {keyspace table : Option String}
    {lease : Option Settings} {store : Wide} {cluster : Cluster} {columns : Cql.Columns}
    (attached : attach session keyspace table Condition.reader lease = .ok store)
    (shaped : Schema.columnsIn cluster.catalog store.place = .ok columns)
    (willing : session.failing = none) (empty : session.partition Cql.partition = ∅)
    {history : List Request} {now : Int} {operation : Operation} (h : Chronological history now)
    (storable : ∀ q ∈ history, q.Storable) (fits : Request.Storable ⟨now, operation⟩) :
    answer ⟨store, cluster, session⟩ history now operation =
      Memory.answer history now operation := by
  have start := holds_of_attach attached shaped willing empty
  obtain ⟨p, holds, kept⟩ := exists_holds_after start h storable
  obtain ⟨x, t, p', answers, performs, -, -⟩ :=
    exists_answers_perform holds kept h storable fits
  rw [answers, answer, performs.result_eq]

/-! ## A scene -/

/-- A new session, and a store on it, with a table as it should be. -/
def bench : Scene :=
  let place : Cql.Location := ⟨"databus", "subscription"⟩
  let table := Table.of place ["rowkey", "subscription"] ["rowkey", "subscription", "value"]
  ⟨⟨⟨place, none⟩, Condition.reader, none⟩, .made 1 (.ofTables [table]),
    .opened 1 1 (some "databus")⟩

theorem attach_bench :
    attach bench.session none (some "subscription") Condition.reader none = .ok bench.store := rfl

theorem columnsIn_bench :
    Schema.columnsIn bench.cluster.catalog bench.store.place =
      .ok ⟨"rowkey", "subscription", "value"⟩ := by
  decide

theorem answers_after_eventful :
    Chronological Memory.eventful 1999 ∧ (∀ q ∈ Memory.eventful, q.Storable) ∧
      ∀ what, answer bench Memory.eventful 1999 (.list what) =
        Memory.answer Memory.eventful 1999 (.list what) := by
  have chronological : Chronological Memory.eventful 1999 := ⟨by decide, by decide⟩
  have storable : ∀ q ∈ Memory.eventful, q.Storable := by decide
  refine ⟨chronological, storable, ?_⟩
  intro what
  exact answer_eq_of_storable attach_bench columnsIn_bench rfl rfl chronological storable trivial

/-! ## Hints that are too long -/

/-- A subscription with too long a hint is refused, whatever was stored before. -/
theorem answer_insert_of_long {scene : Scene} (holds : scene.Holds ∅) {history : List Request}
    {now : Int} (h : Chronological history now) (storable : ∀ q ∈ history, q.Storable)
    {r : Registration}
    (long : Number.digitLimit < Condition.digitCount (r.subscription now).expiresAt) :
    answer scene history now (.insert r) = .error Record.unwritable := by
  obtain ⟨p, holds, -⟩ := exists_holds_after holds h storable
  have unwritten : Record.encode (r.subscription now) = .error Record.unwritable := by
    rw [Record.encode, decide_eq_false (Nat.not_le.2 long), Bool.and_false]
    rfl
  obtain ⟨t, refuses, -⟩ := exists_comes_registration_error holds unwritten
  exact refuses.result_eq

/-- A time whose digits are as many as can be written, and all nines. -/
def endless : Int :=
  10 ^ Number.digitLimit - 1

/-- One store refuses a subscription that is registered at this time for a second, whose hint has one digit
too many, and the other does not. -/
theorem answers_differ_endless :
    Chronological [] endless ∧
      (∀ v ∈ (Memory.brief "a").condition.values, v.readable = true) ∧
      answer bench [] endless (.insert (Memory.brief "a")) = .error Record.unwritable ∧
      Memory.answer [] endless (.insert (Memory.brief "a")) = .ok .done := by
  have long : Number.digitLimit <
      Condition.digitCount ((Memory.brief "a").subscription endless).expiresAt := by
    have hint : ((Memory.brief "a").subscription endless).expiresAt = endless + 1000 := rfl
    rw [hint, endless]
    refine Number.lt_length_natChars ?_
    have power : (10 : Int) ^ Number.digitLimit = (10 ^ Number.digitLimit : Nat) :=
      (Nat.cast_pow 10 Number.digitLimit).symm
    omega
  refine ⟨chronological_nil endless, by decide, ?_, rfl⟩
  have start := holds_of_attach attach_bench columnsIn_bench rfl rfl
  exact answer_insert_of_long start (chronological_nil endless) (List.forall_mem_nil _) long

/-! ## Surrogate pairs -/

/-- A subscription that is registered is found at once, and joined. -/
theorem answer_get_of_insert {scene : Scene} (holds : scene.Holds ∅) {r : Registration} {now : Int}
    (readable : ∀ v ∈ r.condition.values, v.readable = true)
    (hint : Condition.digitCount (r.subscription now).expiresAt ≤ Number.digitLimit) :
    answer scene [⟨now, .insert r⟩] now (.get r.name) =
      .ok (.found (some (r.subscription now).joined)) := by
  obtain ⟨t, inserts, ht⟩ := exists_answers_registration holds (r.encode_subscription readable hint)
  obtain ⟨u, gets, -⟩ := exists_comes_get ht now r.name
  have decodes := (Record.decode_text_eq_ok_iff (s := r.subscription now)
    (n := Lifetime.clampSeconds r.eventTtl) hint rfl).2 ⟨readable, rfl⟩
  have lasts : now < now + Lifetime.clampSeconds r.lifetime * 1000 := by
    have least := (Lifetime.clampSeconds_mem r.lifetime).1
    rw [Lifetime.least] at least
    omega
  have row : (Partition.put ∅ now r.name (.text (Record.text (r.subscription now)))
      (Lifetime.clampSeconds r.lifetime)).liveAt now r.name =
        [⟨r.name, .text (Record.text (r.subscription now))⟩] := by
    rw [Partition.liveAt, Partition.put, Shelf.get?_put, if_pos rfl]
    exact if_pos lasts
  have finds : found Condition.reader [⟨r.name, .text (Record.text (r.subscription now))⟩] =
      .ok (some (r.subscription now).joined) :=
    congrArg (Except.map some) decodes
  rw [row, finds] at gets
  have state : after scene [⟨now, .insert r⟩] = t := inserts.state_eq
  rw [answer, state]
  exact (gets.map Answer.found).result_eq

/-- A registration for a second whose owner is the two halves of a surrogate pair. -/
def halved : Registration :=
  { Memory.brief "a" with owner := some Record.halves }

/-- One store finds the owner of this subscription joined, and the other does not. -/
theorem answers_differ_halved :
    Chronological [⟨0, .insert halved⟩] 0 ∧
      (∀ v ∈ halved.condition.values, v.readable = true) ∧
      Condition.digitCount (halved.subscription 0).expiresAt ≤ Number.digitLimit ∧
      answer bench [⟨0, .insert halved⟩] 0 (.get "a") =
        .ok (.found (some (halved.subscription 0).joined)) ∧
      Memory.answer [⟨0, .insert halved⟩] 0 (.get "a") = .ok (.found (some (halved.subscription 0))) ∧
      (halved.subscription 0).HasPair := by
  have start := holds_of_attach attach_bench columnsIn_bench rfl rfl
  have readable : ∀ v ∈ halved.condition.values, v.readable = true := by decide
  have hint : Condition.digitCount (halved.subscription 0).expiresAt ≤ Number.digitLimit := by decide
  refine ⟨⟨by decide, by decide⟩, readable, hint, answer_get_of_insert start readable hint, rfl, by decide⟩

/-- **They do not answer alike in general**: one store refuses a hint with too many digits and joins a
surrogate pair in an owner, and the other does neither. -/
theorem answers_differ :
    attach bench.session none (some "subscription") Condition.reader none = .ok bench.store ∧
      Schema.columnsIn bench.cluster.catalog bench.store.place =
        .ok ⟨"rowkey", "subscription", "value"⟩ ∧
      bench.session.failing = none ∧ bench.session.partition Cql.partition = ∅ ∧
      (Chronological [] endless ∧ (∀ v ∈ (Memory.brief "a").condition.values, v.readable = true) ∧
        answer bench [] endless (.insert (Memory.brief "a")) ≠
          Memory.answer [] endless (.insert (Memory.brief "a"))) ∧
      Chronological [⟨0, .insert halved⟩] 0 ∧ (∀ v ∈ halved.condition.values, v.readable = true) ∧
        answer bench [⟨0, .insert halved⟩] 0 (.get "a") ≠
          Memory.answer [⟨0, .insert halved⟩] 0 (.get "a") := by
  obtain ⟨chronological, readable, refused, done⟩ := answers_differ_endless
  obtain ⟨chronological', readable', -, joined, found, pair⟩ := answers_differ_halved
  refine ⟨attach_bench, columnsIn_bench, rfl, rfl, ⟨chronological, readable, ?_⟩, chronological',
    readable', ?_⟩
  · rw [refused, done]
    rintro ⟨⟩
  · rw [joined, found]
    intro same
    have whole : (halved.subscription 0).joined = halved.subscription 0 :=
      Option.some.inj (Answer.found.inj (Except.ok.inj same))
    exact Subscription.joined_eq_self_iff.1 whole pair

end Wide

end Store

end EventRoster
