import EventRoster.Proofs.Shelf
import EventRoster.Store.Memory
import Mathlib.Data.List.Induction

/-!
# The store in memory and its history

What the store in memory answers is told by the requests that it was given before, and of these only
by the last one that wrote under the name in question: `written` is what that request left there, and
`recorded` is what can still be seen of it.  The rows of the store need not be the same, because
entries that are gone are removed at some times and not at others.  They agree on what can be seen,
now and later, which is what the induction over the history carries: once an entry is gone, no later
time brings it back.

* `visible_after`: what can be seen in the store is what can be seen in the history.
* `answer_get`, `mem_snapshot_after_iff` and `pairwise_snapshot_after`: what lookups and listings show.
* `written_filter_writesTo` and `written_filter_writes`: reading, and writing under other names,
  leave no trace in it.
* `answers_of_history`: the account of all answers.
-/

namespace EventRoster.Store

/-- What is asked of a store at some time. -/
structure Request where
  now : Int
  operation : Operation

namespace Request

/-- What a request leaves under a name if it writes there: a registration with its time, or nothing.
-/
def writes? (q : Request) (name : String) : Option (Option (Int × Registration)) :=
  match q.operation with
  | .insert r => if r.name = name then some (some (q.now, r)) else none
  | .delete n => if n = name then some none else none
  | .get _ | .list _ => none

/-- Whether a request writes under a name. -/
def writesTo (name : String) (q : Request) : Bool :=
  (q.writes? name).isSome

/-- Whether a request writes at all. -/
def writes (q : Request) : Bool :=
  match q.operation with
  | .insert _ | .delete _ => true
  | .get _ | .list _ => false

/-- Only requests that write at all write under a name. -/
theorem writes_of_writesTo {name : String} {q : Request} (h : q.writesTo name = true) :
    q.writes = true := by
  obtain ⟨now, operation⟩ := q
  cases operation with
  | insert r => rfl
  | delete n => rfl
  | get n => cases h
  | list what => cases h

end Request

/-- The requests of a history, and a time that is not before any of them. -/
def Chronological (history : List Request) (now : Int) : Prop :=
  history.Pairwise (fun p q => p.now ≤ q.now) ∧ ∀ q ∈ history, q.now ≤ now

theorem chronological_nil (now : Int) : Chronological [] now :=
  ⟨.nil, List.forall_mem_nil _⟩

theorem Chronological.filter {history : List Request} {now : Int} (h : Chronological history now)
    (keep : Request → Bool) : Chronological (history.filter keep) now := by
  constructor
  · exact h.1.sublist List.filter_sublist
  · intro q hq
    exact h.2 q (List.mem_of_mem_filter hq)

theorem Chronological.mono {history : List Request} {now later : Int} (h : Chronological history now)
    (le : now ≤ later) : Chronological history later :=
  ⟨h.1, fun q hq => Int.le_trans (h.2 q hq) le⟩

/-- A history goes on with a request at its end. -/
theorem Chronological.concat {history : List Request} {now : Int} (h : Chronological history now)
    (op : Operation) : Chronological (history ++ [⟨now, op⟩]) now := by
  constructor
  · refine List.pairwise_append.2 ⟨h.1, List.pairwise_singleton _ _, ?_⟩
    intro p hp q hq
    rw [List.mem_singleton.1 hq]
    exact h.2 p hp
  · intro q hq
    rcases List.mem_append.1 hq with hq | hq
    · exact h.2 q hq
    · obtain rfl := List.mem_singleton.1 hq
      exact Int.le_refl _

/-- A history ends with a request that is not before the others. -/
theorem Chronological.of_concat {history : List Request} {q : Request} {now : Int}
    (h : Chronological (history ++ [q]) now) : Chronological history q.now ∧ q.now ≤ now := by
  obtain ⟨ordered, past⟩ := h
  obtain ⟨before, -, last⟩ := List.pairwise_append.1 ordered
  refine ⟨⟨before, ?_⟩, past q (List.mem_append_right _ (List.mem_singleton_self q))⟩
  intro p hp
  exact last p hp q (List.mem_singleton_self q)

/-! ## What a history says -/

/-- What the last request that wrote under a name left there. -/
def written (history : List Request) (name : String) : Option (Int × Registration) :=
  (history.reverse.findSome? (·.writes? name)).join

/-- The subscription under a name that a history leaves to be seen at some time: the one that was
registered last, if it was not deleted since and its lifetime is not over. -/
def recorded (history : List Request) (name : String) (now : Int) : Option Subscription :=
  match written history name with
  | some (start, r) =>
    if now < start + 1000 * Lifetime.clampSeconds r.lifetime then some (r.subscription start) else none
  | none => none

theorem written_concat (history : List Request) (q : Request) (name : String) :
    written (history ++ [q]) name = (q.writes? name).getD (written history name) := by
  rw [written, List.reverse_append, List.reverse_singleton, List.singleton_append,
    List.findSome?_cons]
  cases q.writes? name with
  | none => rfl
  | some left => rfl

theorem written_insert (history : List Request) (now : Int) (r : Registration) (name : String) :
    written (history ++ [⟨now, .insert r⟩]) name =
      if r.name = name then some (now, r) else written history name := by
  rw [written_concat]
  show Option.getD (if r.name = name then some (some (now, r)) else none) _ = _
  split <;> rfl

theorem written_delete (history : List Request) (now : Int) (n name : String) :
    written (history ++ [⟨now, .delete n⟩]) name =
      if n = name then none else written history name := by
  rw [written_concat]
  show Option.getD (if n = name then some none else none) _ = _
  split <;> rfl

theorem written_get (history : List Request) (now : Int) (n name : String) :
    written (history ++ [⟨now, .get n⟩]) name = written history name := by
  rw [written_concat]
  rfl

theorem written_list (history : List Request) (now : Int) (what : Selection) (name : String) :
    written (history ++ [⟨now, .list what⟩]) name = written history name := by
  rw [written_concat]
  rfl

/-- What a history leaves under a name bears that name, and was registered in it. -/
theorem of_written {history : List Request} {name : String} {start : Int} {r : Registration}
    (h : written history name = some (start, r)) :
    r.name = name ∧ ⟨start, .insert r⟩ ∈ history := by
  induction history using List.reverseRecOn with
  | nil => cases h
  | append_singleton history q ih =>
    have earlier : written history name = some (start, r) →
        r.name = name ∧ ⟨start, .insert r⟩ ∈ history ++ [q] := by
      intro before
      exact ⟨(ih before).1, List.mem_append_left _ (ih before).2⟩
    obtain ⟨now, operation⟩ := q
    cases operation with
    | insert new =>
      rw [written_insert] at h
      split at h
      · next same =>
        cases h
        exact ⟨same, List.mem_append_right _ (List.mem_singleton_self _)⟩
      · exact earlier h
    | delete n =>
      rw [written_delete] at h
      split at h
      · cases h
      · exact earlier h
    | get n =>
      rw [written_get] at h
      exact earlier h
    | list what =>
      rw [written_list] at h
      exact earlier h

/-- **Writing under other names leaves no trace** under a name. -/
theorem written_filter_writesTo (history : List Request) (name : String) :
    written (history.filter (·.writesTo name)) name = written history name := by
  induction history using List.reverseRecOn with
  | nil => rfl
  | append_singleton history q ih =>
    rw [List.filter_append, written_concat]
    cases h : q.writes? name with
    | none =>
      have other : [q].filter (·.writesTo name) = [] := by
        rw [List.filter_singleton, Request.writesTo, h]
        rfl
      rw [other, List.append_nil, ih]
      rfl
    | some left =>
      have same : [q].filter (·.writesTo name) = [q] := by
        rw [List.filter_singleton, Request.writesTo, h]
        rfl
      rw [same, written_concat, h]
      rfl

/-- **Reading leaves no trace.** -/
theorem written_filter_writes (history : List Request) (name : String) :
    written (history.filter (·.writes)) name = written history name := by
  have both : (history.filter (·.writes)).filter (·.writesTo name) =
      history.filter (·.writesTo name) := by
    rw [List.filter_filter]
    refine List.filter_congr ?_
    intro q _
    cases h : q.writesTo name with
    | false => rfl
    | true => exact Request.writes_of_writesTo h
  rw [← written_filter_writesTo, both, written_filter_writesTo]

/-! ## What can be seen in the store -/

namespace Memory

/-- The store after a history. -/
def after (history : List Request) : Memory :=
  history.foldl (fun m q => ((perform q.now q.operation).run m).state) empty

/-- What the store answers to a request after a history. -/
def answer (history : List Request) (now : Int) (operation : Operation) : Except Failure Answer :=
  ((perform now operation).run (after history)).result

theorem after_concat (history : List Request) (q : Request) :
    after (history ++ [q]) = ((perform q.now q.operation).run (after history)).state := by
  rw [after, List.foldl_append]
  rfl

/-- The entry that can be seen under a name at some time. -/
def visible (m : Memory) (name : String) (now : Int) : Option Entry :=
  (m.rows.get? name).filter (·.isLive now)

theorem visible_insert (m : Memory) (start : Int) (r : Registration) (name : String) (now : Int) :
    (m.insert start r).visible name now =
      if r.name = name then (some (entry start r)).filter (·.isLive now) else m.visible name now := by
  rw [visible, insert, Shelf.get?_put]
  split <;> rfl

theorem visible_delete (m : Memory) (n name : String) (now : Int) :
    (m.delete n).visible name now = if name = n then none else m.visible name now := by
  rw [visible, delete, Shelf.get?_erase]
  split <;> rfl

/-- An entry that is there at some time was there before. -/
theorem isLive_of_le {e : Entry} {t u : Int} (h : t ≤ u) (live : e.isLive u = true) :
    e.isLive t = true := by
  have deadline := of_decide_eq_true live
  exact decide_eq_true (by omega)

/-- Removing all that is gone changes nothing that can be seen from then on. -/
theorem visible_purged (m : Memory) {t now : Int} (h : t ≤ now) (name : String) :
    (m.purged t).visible name now = m.visible name now := by
  rw [visible, visible, purged, Shelf.get?_filter, Option.filter_filter]
  congr 1
  funext e
  cases live : e.isLive now with
  | false => exact Bool.and_false _
  | true => rw [isLive_of_le h live, Bool.and_true]

/-- Looking up a name changes nothing that can be seen from then on. -/
theorem visible_get (m : Memory) {t now : Int} (h : t ≤ now) (n name : String) :
    (m.get t n).2.visible name now = m.visible name now := by
  unfold get
  split
  · rfl
  · next e found =>
    split
    · rfl
    · next gone =>
      rw [visible_delete]
      split
      · next same =>
        rw [same, visible, found, Option.filter_some, if_neg]
        intro live
        exact gone (isLive_of_le h live)
      · rfl

/-- **What can be seen in the store is what can be seen in its history**, from the end of the history
on. -/
theorem visible_after {history : List Request} {now : Int} (h : Chronological history now)
    (name : String) :
    (after history).visible name now =
      ((written history name).map fun w => entry w.1 w.2).filter (·.isLive now) := by
  induction history using List.reverseRecOn generalizing now with
  | nil => rfl
  | append_singleton history q ih =>
    obtain ⟨before, le⟩ := h.of_concat
    have past : Chronological history now := by
      refine ⟨before.1, ?_⟩
      intro p hp
      exact Int.le_trans (before.2 p hp) le
    obtain ⟨t, operation⟩ := q
    rw [after_concat]
    cases operation with
    | insert r =>
      show ((after history).insert t r).visible name now = _
      rw [visible_insert, written_insert]
      split
      · rfl
      · exact ih past
    | delete n =>
      show ((after history).delete n).visible name now = _
      rw [visible_delete, written_delete]
      by_cases same : n = name
      · rw [if_pos same, if_pos same.symm]
        rfl
      · rw [if_neg same, if_neg (Ne.symm same)]
        exact ih past
    | get n =>
      show ((after history).get t n).2.visible name now = _
      rw [visible_get _ le, written_get]
      exact ih past
    | list what =>
      show ((after history).purged t).visible name now = _
      rw [visible_purged _ le, written_list]
      exact ih past

/-- The subscription that can be seen is the recorded one. -/
theorem map_visible_after {history : List Request} {now : Int} (h : Chronological history now)
    (name : String) :
    ((after history).visible name now).map (·.subscription) = recorded history name now := by
  rw [visible_after h, recorded]
  cases written history name with
  | none => rfl
  | some w =>
    obtain ⟨start, r⟩ := w
    show ((some (entry start r)).filter (·.isLive now)).map _ = _
    rw [Option.filter_some, Entry.isLive, entry, Int.mul_comm]
    simp only [decide_eq_true_eq]
    split <;> rfl

/-- What can be seen under a name bears that name. -/
theorem name_of_visible_after {history : List Request} {now : Int} (h : Chronological history now)
    {name : String} {e : Entry} (he : (after history).visible name now = some e) :
    e.subscription.name = name := by
  rw [visible_after h] at he
  obtain ⟨w, hw, rfl⟩ := Option.map_eq_some_iff.1 (Option.filter_eq_some_iff.1 he).1
  exact (of_written hw).1

/-! ## Answers -/

theorem fst_get (m : Memory) (now : Int) (name : String) :
    (m.get now name).1 = (m.visible name now).map (·.subscription) := by
  rw [get, visible]
  cases m.rows.get? name with
  | none => rfl
  | some e =>
    show (if e.isLive now then _ else _ : Option Subscription × Memory).1 = _
    rw [Option.filter_some]
    split <;> rfl

theorem answer_get {history : List Request} {now : Int} (h : Chronological history now)
    (name : String) : answer history now (.get name) = .ok (.found (recorded history name now)) := by
  rw [← map_visible_after h, ← fst_get]
  rfl

theorem mem_snapshot_iff {m : Memory} {now : Int} {s : Subscription} :
    s ∈ m.snapshot now ↔ ∃ name, ∃ e, m.visible name now = some e ∧ e.subscription = s := by
  have row : ∀ name e, (name, e) ∈ (m.purged now).rows.rows ↔ m.visible name now = some e := by
    intro name e
    rw [Shelf.mem_rows_iff, visible, purged, Shelf.get?_filter]
  rw [snapshot, List.mem_map]
  constructor
  · rintro ⟨e, he, same⟩
    obtain ⟨⟨name, e'⟩, member, rfl⟩ := List.mem_map.1 he
    exact ⟨name, e', (row name e').1 member, same⟩
  · rintro ⟨name, e, he, same⟩
    exact ⟨e, List.mem_map.2 ⟨(name, e), (row name e).2 he, rfl⟩, same⟩

/-- A listing shows the recorded subscriptions. -/
theorem mem_snapshot_after_iff {history : List Request} {now : Int} (h : Chronological history now)
    {s : Subscription} :
    s ∈ (after history).snapshot now ↔ recorded history s.name now = some s := by
  rw [mem_snapshot_iff, ← map_visible_after h, Option.map_eq_some_iff]
  constructor
  · rintro ⟨name, e, he, rfl⟩
    rw [name_of_visible_after h he]
    exact ⟨e, he, rfl⟩
  · rintro ⟨e, he, same⟩
    exact ⟨s.name, e, he, same⟩

/-- A listing is in the order of the names, each of which occurs once. -/
theorem pairwise_snapshot_after {history : List Request} {now : Int}
    (h : Chronological history now) :
    (((after history).snapshot now).map (·.name)).Pairwise (· < ·) := by
  have names : ((after history).snapshot now).map (·.name) =
      ((after history).purged now).rows.names := by
    rw [snapshot, Shelf.values, List.map_map, List.map_map, Shelf.names]
    refine List.map_congr_left ?_
    rintro ⟨name, e⟩ member
    have found := Shelf.mem_rows_iff.1 member
    rw [purged, Shelf.get?_filter] at found
    exact name_of_visible_after h found
  rw [names]
  exact Shelf.pairwise_names _

/-- Histories that leave the same under every name are listed alike. -/
theorem answer_list_congr {history other : List Request} {now : Int}
    (h : Chronological history now) (h' : Chronological other now)
    (same : ∀ name, written history name = written other name) (what : Selection) :
    answer history now (.list what) = answer other now (.list what) := by
  have rows : ((after history).purged now).rows = ((after other).purged now).rows := by
    refine Shelf.ext_get? ?_
    intro name
    have seen : (after history).visible name now = (after other).visible name now := by
      rw [visible_after h, visible_after h', same]
    rw [purged, purged, Shelf.get?_filter, Shelf.get?_filter]
    exact seen
  show Except.ok (Answer.listed ⟨(after history).items now what, none⟩) =
    Except.ok (Answer.listed ⟨(after other).items now what, none⟩)
  rw [items, items, snapshot, snapshot, rows]

/-- **The store in memory answers from its history.**  Writing always succeeds.  A lookup finds the
subscription that is recorded under the name, and a listing shows all recorded subscriptions, in the
strict order of their names.  A lookup would answer the same if nothing had been done but writing
under its name, and a listing if nothing had been done but writing. -/
theorem answers_of_history {history : List Request} {now : Int} (h : Chronological history now) :
    (∀ r, answer history now (.insert r) = .ok .done) ∧
      (∀ name, answer history now (.delete name) = .ok .done) ∧
      (∀ name, answer history now (.get name) = .ok (.found (recorded history name now))) ∧
      (∃ subscriptions : List Subscription,
        (subscriptions.map (·.name)).Pairwise (· < ·) ∧
          (∀ s, s ∈ subscriptions ↔ recorded history s.name now = some s) ∧
          ∀ what, answer history now (.list what) =
            .ok (.listed ⟨subscriptions.map what.show, none⟩)) ∧
      (∀ name, answer history now (.get name) =
        answer (history.filter (·.writesTo name)) now (.get name)) ∧
      ∀ what, answer history now (.list what) =
        answer (history.filter (·.writes)) now (.list what) := by
  refine ⟨fun r => rfl, fun name => rfl, answer_get h, ?_, fun name => ?_, fun what => ?_⟩
  · exact ⟨(after history).snapshot now, pairwise_snapshot_after h,
      fun s => mem_snapshot_after_iff h, fun what => rfl⟩
  · rw [answer_get h, answer_get (h.filter _), recorded, recorded, written_filter_writesTo]
  · exact answer_list_congr h (h.filter _) (fun name => (written_filter_writes history name).symm)
      what

/-- A registration for a second. -/
def brief (name : String) : Registration :=
  ⟨none, name, .constant true, ⟨1000000, by decide⟩, ⟨0, by decide⟩⟩

/-- A history in which one subscription ends, another is deleted and a third is registered. -/
def eventful : List Request :=
  [⟨0, .insert (brief "a")⟩, ⟨500, .insert (brief "b")⟩, ⟨999, .get "a"⟩, ⟨1000, .list .names⟩,
    ⟨1000, .insert (brief "c")⟩, ⟨1000, .delete "b"⟩]

/-- A lifetime of a second is over after a thousand milliseconds, and not before. -/
theorem answers_of_eventful :
    Chronological eventful 1999 ∧
      answer eventful 1999 (.get "a") = .ok (.found none) ∧
      answer eventful 1999 (.get "b") = .ok (.found none) ∧
      answer eventful 1999 (.get "c") = .ok (.found (some ((brief "c").subscription 1000))) :=
  have chronological : Chronological eventful 1999 := ⟨by decide, by decide⟩
  have answers := (answers_of_history chronological).2.2.1
  ⟨chronological, answers "a", answers "b", answers "c"⟩

end Memory

end EventRoster.Store
