import EventRoster.Proofs.Registry.Moves
import EventRoster.Proofs.Store.Enumeration
import EventRoster.Proofs.Store.History

/-!
# Listings of the store in memory, read step by step

Many may read listings of one store in memory at the same time, each at a pace of its own, while
others write and time goes by.  A listing is settled when its first entry is asked for.  Until then it
is no more than the wish to see one, and from then on nothing that happens to the store reaches it.

That first step removes what is gone from the store, so that reading changes the rows.  What can be
seen is not changed, now or later: stores are compared by `Alike`, and every action respects it.

The registry is followed by a `Desk`, which is what there is to know of the store and of those who
read.  `Seats.step` ties the two together, once for each kind of act; all else is about desks.

* `Memory.respects_perform` and `Memory.alike_touched`: reading leaves no trace that shows.
* `Desk.pulled_eq`: from its first entry on a listing shows what is left of it, and then nothing.
* `Beside.told_eq`: leaving out some readers changes nothing for the others.
* `reads_one_instant`: both, for all acts with a store in memory.
-/

namespace EventRoster

open EventRoster.Action EventRoster.Store

/-! ## Stores that show the same -/

namespace Store.Memory

variable {m m' : Memory} {now : Int}

/-- Two stores show the same, from a time on. -/
def Alike (now : Int) (m m' : Memory) : Prop :=
  m.purged now = m'.purged now

theorem alike_iff : Alike now m m' ↔ ∀ name, m.visible name now = m'.visible name now := by
  have seen : ∀ (m : Memory) name, (m.purged now).rows.get? name = m.visible name now := by
    intro m name
    rw [purged, Shelf.get?_filter, visible]
  constructor
  · intro same name
    rw [← seen, ← seen, same]
  · intro same
    refine congrArg mk (Shelf.ext_get? fun name => ?_)
    exact (seen m name).trans ((same name).trans (seen m' name).symm)

/-- Stores that show the same go on doing so. -/
theorem Alike.mono (h : Alike now m m') {later : Int} (le : now ≤ later) : Alike later m m' := by
  rw [alike_iff]
  intro name
  rw [← visible_purged m le, ← visible_purged m' le, h]

theorem Alike.items_eq (h : Alike now m m') (what : Selection) :
    m.items now what = m'.items now what := by
  rw [items, items, snapshot, snapshot, h]

theorem alike_purged (m : Memory) (now : Int) : Alike now (m.purged now) m :=
  alike_iff.2 fun name => visible_purged m (Int.le_refl now) name

/-- Removing what is gone from either store does not show. -/
theorem Alike.purged (h : Alike now m m') : Alike now (m.purged now) (m'.purged now) :=
  congrArg (Memory.purged · now) h

/-- **Stores that show the same answer alike**, and show the same afterwards. -/
theorem respects_perform (now : Int) (op : Operation) : (perform now op).Respects (Alike now) := by
  intro m m' h
  have seen := alike_iff.1 h
  cases op with
  | insert r =>
    refine ⟨rfl, alike_iff.2 fun name => ?_⟩
    show (m.insert now r).visible name now = (m'.insert now r).visible name now
    rw [visible_insert, visible_insert, seen]
  | delete n =>
    refine ⟨rfl, alike_iff.2 fun name => ?_⟩
    show (m.delete n).visible name now = (m'.delete n).visible name now
    rw [visible_delete, visible_delete, seen]
  | get n =>
    constructor
    · show Except.ok (Answer.found (m.get now n).1) = Except.ok (Answer.found (m'.get now n).1)
      rw [fst_get, fst_get, seen]
    · refine alike_iff.2 fun name => ?_
      show (m.get now n).2.visible name now = (m'.get now n).2.visible name now
      rw [visible_get _ (Int.le_refl now), visible_get _ (Int.le_refl now), seen]
  | list what =>
    refine ⟨?_, h.purged⟩
    show Except.ok (Answer.listed ⟨m.items now what, none⟩) =
      Except.ok (Answer.listed ⟨m'.items now what, none⟩)
    rw [h.items_eq]

/-! ## What a listing has still to show -/

/-- What a listing has still to show if it is asked at some time. -/
def showing (m : Memory) (now : Int) : Cursor → List Item
  | .unopened what => m.items now what
  | .opened rest => rest

/-- The store when a listing has been asked. -/
def touched (m : Memory) (now : Int) : Cursor → Memory
  | .unopened _ => m.purged now
  | .opened _ => m

theorem run_pull (m : Memory) (now : Int) (cursor : Cursor) :
    (pull now cursor).run m = ⟨.ok (takeItem (m.showing now cursor)), m.touched now cursor, []⟩ := by
  cases cursor <;> rfl

/-- Asking a listing does not show in the store. -/
theorem alike_touched (m : Memory) (now : Int) (cursor : Cursor) :
    Alike now (m.touched now cursor) m := by
  cases cursor with
  | unopened what => exact alike_purged m now
  | opened rest => rfl

theorem Alike.showing_eq (h : Alike now m m') (cursor : Cursor) :
    m.showing now cursor = m'.showing now cursor := by
  cases cursor with
  | unopened what => exact h.items_eq what
  | opened rest => rfl

/-- Asking the same listing of either store does not show. -/
theorem Alike.touched (h : Alike now m m') (cursor : Cursor) :
    Alike now (m.touched now cursor) (m'.touched now cursor) :=
  (alike_touched m now cursor).trans (h.trans (alike_touched m' now cursor).symm)

theorem rest_takeItem (left : List Item) : (takeItem left).rest = .opened left.tail := by
  cases left <;> rfl

/-- A listing that is not stopped shows its entries one by one, and nothing from its end on. -/
theorem steps_takeItem (left : List Item) (count : Nat) :
    Listing.steps ⟨left, none⟩ (count + 1) =
      (takeItem left).outcome :: Listing.steps ⟨left.tail, none⟩ count := by
  cases left with
  | nil => exact Listing.steps_done count
  | cons item rest => exact Listing.steps_succ rfl count

end Store.Memory

namespace Registry

/-! ## Acts -/

/-- What is done with a store in memory and with listings of it, which have names. -/
inductive Act
  | wait (millis : Nat)
  | ask (op : Operation)
  | start (reading : String) (what : Selection)
  | pull (reading : String)
  | leave (reading : String)

namespace Act

/-- The step that an act is. -/
def step (store : String) : Act → Step
  | wait millis => .advance millis
  | ask op => .on store (.perform op)
  | start reading what => .on store (.openListing reading what)
  | pull reading => .on store (.pull reading)
  | leave reading => .on store (.dropListing reading)

/-- The listing that an act is about. -/
def reading? : Act → Option String
  | wait _ | ask _ => none
  | start reading _ | pull reading | leave reading => some reading

/-- Whether an act is about one of some listings. -/
def isAbout (readings : String → Bool) (a : Act) : Bool :=
  a.reading?.any readings

/-- Whether an act asks a listing for its next entry. -/
def pulls (reading : String) : Act → Bool
  | pull other => other = reading
  | wait _ | ask _ | start _ _ | leave _ => false

/-- Whether a listing is not the same any more after an act: it is left, or another is started under
its name. -/
def ends (reading : String) : Act → Bool
  | start other _ | leave other => other = reading
  | wait _ | ask _ | pull _ => false

end Act

/-- The registry after some acts. -/
def afterActs (store : String) (r : Registry) (acts : List Act) : Registry :=
  acts.foldl (fun r a => ((step (a.step store)).run r).state) r

/-- What some acts come to, each with the act. -/
def told (store : String) (r : Registry) : List Act → List (Act × Except Failure Outcome)
  | [] => []
  | a :: acts =>
    let reply := (step (a.step store)).run r
    (a, reply.result) :: told store reply.state acts

/-- What a listing shows whenever it is asked for its next entry. -/
def pulled (reading : String) (told : List (Act × Except Failure Outcome)) :
    List (Except Failure Outcome) :=
  (told.filter (·.1.pulls reading)).map (·.2)

section Pulled

variable {reading : String} {a : Act} {x : Except Failure Outcome}

theorem pulled_cons_of_pulls (asked : a.pulls reading = true)
    (rest : List (Act × Except Failure Outcome)) :
    pulled reading ((a, x) :: rest) = x :: pulled reading rest := by
  rw [pulled, List.filter_cons, if_pos asked]
  rfl

theorem pulled_cons_of_not_pulls (asked : a.pulls reading = false)
    (rest : List (Act × Except Failure Outcome)) :
    pulled reading ((a, x) :: rest) = pulled reading rest := by
  rw [pulled, List.filter_cons, if_neg (Bool.eq_false_iff.1 asked)]
  rfl

end Pulled

/-- What was asked of the store in some acts, with the times. -/
def requests (now : Int) : List Act → List Request
  | [] => []
  | .wait millis :: acts => requests (now + millis) acts
  | .ask op :: acts => ⟨now, op⟩ :: requests now acts
  | .start _ _ :: acts | .pull _ :: acts | .leave _ :: acts => requests now acts

/-! ## Desks -/

/-- A store in memory, the time, and the listings that are being read. -/
structure Desk where
  now : Int
  store : Memory
  cursor? : String → Option Memory.Cursor

namespace Desk

/-- The desk with another listing under a name. -/
def put (d : Desk) (reading : String) (cursor : Memory.Cursor) : Desk :=
  { d with cursor? := fun other => if reading = other then some cursor else d.cursor? other }

/-- What an act comes to. -/
def outcome (d : Desk) : Act → Except Failure Outcome
  | .wait _ | .start _ _ | .leave _ => .ok .done
  | .ask op => ((Memory.perform d.now op).run d.store).result.map .ofAnswer
  | .pull reading =>
    match d.cursor? reading with
    | some cursor => (Memory.takeItem (d.store.showing d.now cursor)).outcome.map .pulled
    | none => .error (.ofRaised (.ofStandard .keyError reading))

/-- The desk after an act. -/
def next (d : Desk) : Act → Desk
  | .wait millis => { d with now := d.now + millis }
  | .ask op => { d with store := ((Memory.perform d.now op).run d.store).state }
  | .start reading what => d.put reading (.unopened what)
  | .pull reading =>
    match d.cursor? reading with
    | some cursor =>
      { d with store := d.store.touched d.now cursor }.put reading
        (.opened (d.store.showing d.now cursor).tail)
    | none => d
  | .leave reading => d.put reading (.opened [])

variable {d : Desk} {reading : String} {cursor : Memory.Cursor}

theorem outcome_pull_of_none (h : d.cursor? reading = none) :
    d.outcome (.pull reading) = .error (.ofRaised (.ofStandard .keyError reading)) := by
  rw [outcome, h]

theorem outcome_pull_of_some (h : d.cursor? reading = some cursor) :
    d.outcome (.pull reading) =
      (Memory.takeItem (d.store.showing d.now cursor)).outcome.map .pulled := by
  rw [outcome, h]

theorem next_pull_of_none (h : d.cursor? reading = none) : d.next (.pull reading) = d := by
  rw [next, h]

theorem next_pull_of_some (h : d.cursor? reading = some cursor) :
    d.next (.pull reading) =
      { d with store := d.store.touched d.now cursor }.put reading
        (.opened (d.store.showing d.now cursor).tail) := by
  rw [next, h]

/-- The desk after some acts. -/
def after (d : Desk) (acts : List Act) : Desk :=
  acts.foldl next d

/-- What some acts come to, each with the act. -/
def told (d : Desk) : List Act → List (Act × Except Failure Outcome)
  | [] => []
  | a :: acts => (a, d.outcome a) :: (d.next a).told acts

end Desk

/-- A registry has a store in memory with these listings. -/
def Seats (store : String) (r : Registry) (d : Desk) : Prop :=
  r.now = d.now ∧ ∃ readings : Ledger String Reading,
    r.members.get? store = some ⟨none, .memory d.store, readings⟩ ∧
      ∀ reading, readings.get? reading = (d.cursor? reading).map .memory

namespace Seats

variable {store : String} {r : Registry} {d : Desk}

theorem withMemory (start : Int) (store : String) :
    Seats store (Registry.withMemory start store) ⟨start, .empty, fun _ => none⟩ := by
  refine ⟨rfl, [], ?_, fun _ => rfl⟩
  show Ledger.get? [(store, _)] store = _
  rw [Ledger.get?, if_pos rfl]

/-- The registry with the store and its listings in another state. -/
def seated (store : String) (r : Registry) (m : Memory) (readings : Ledger String Reading) :
    Registry :=
  { r with members := r.members.put store ⟨none, .memory m, readings⟩ }

theorem get?_seated (store : String) (r : Registry) (m : Memory)
    (readings : Ledger String Reading) :
    (seated store r m readings).members.get? store = some ⟨none, .memory m, readings⟩ := by
  rw [seated, Ledger.get?_put, if_pos rfl]

/-- What is known of the listings after one of them was put under a name. -/
theorem get?_put {readings : Ledger String Reading} {cursor? : String → Option Memory.Cursor}
    (same : ∀ reading, readings.get? reading = (cursor? reading).map .memory)
    (reading : String) (cursor : Memory.Cursor) (other : String) :
    (readings.put reading (.memory cursor)).get? other =
      (if reading = other then some cursor else cursor? other).map .memory := by
  rw [Ledger.get?_put, same]
  split <;> rfl

/-- A listing that is asked gives its next entry, and is put back as what it leaves. -/
theorem comes_pull {m : Memory} {readings : Ledger String Reading} {reading : String}
    {c : Memory.Cursor} (found : r.members.get? store = some ⟨none, .memory m, readings⟩)
    (sought : readings.get? reading = some (.memory c)) :
    (Registry.pull store reading).Comes r (Memory.takeItem (m.showing r.now c)).outcome
      (seated store (seated store r (m.touched r.now c) readings) (m.touched r.now c)
        (readings.put reading (.memory (.opened (m.showing r.now c).tail)))) := by
  have holds : (member store).Answers r ⟨none, .memory m, readings⟩ r :=
    ⟨[], run_member_of_get? found⟩
  have asks : (onMemory store ⟨none, .memory m, readings⟩ m (Memory.pull r.now c)).Answers r
      (Memory.takeItem (m.showing r.now c)) (seated store r (m.touched r.now c) readings) :=
    Answers.within _ ⟨[], Memory.run_pull m r.now c⟩
  have keeps : (keepReading store reading
      (.memory (Memory.takeItem (m.showing r.now c)).rest)).Answers
      (seated store r (m.touched r.now c) readings) ()
      (seated store (seated store r (m.touched r.now c) readings) (m.touched r.now c)
        (readings.put reading (.memory (.opened (m.showing r.now c).tail)))) := by
    rw [Memory.rest_takeItem]
    have stands : (member store).Answers (seated store r (m.touched r.now c) readings)
        ⟨none, .memory (m.touched r.now c), readings⟩ (seated store r (m.touched r.now c) readings) :=
      ⟨[], run_member_of_get? (get?_seated _ _ _ _)⟩
    exact stands.bind (answers_change _ _)
  refine holds.bind_comes ((answers_state r).bind_comes ?_)
  rw [sought]
  exact asks.bind_comes (keeps.bind_comes (comes_lift _ _))

/-- **The desk follows the registry**, act by act. -/
theorem step (h : Seats store r d) (a : Act) :
    ∃ t, (Registry.step (a.step store)).Comes r (d.outcome a) t ∧ Seats store t (d.next a) := by
  obtain ⟨now, m, cursor?⟩ := d
  obtain ⟨rfl, readings, found, same⟩ := h
  have holds : (member store).Answers r ⟨none, .memory m, readings⟩ r :=
    ⟨[], run_member_of_get? found⟩
  cases a with
  | wait millis =>
    exact ⟨{ r with now := r.now + millis }, ⟨[], rfl⟩, rfl, readings, found, same⟩
  | ask op =>
    have performs : (Registry.perform store op).Comes r ((Memory.perform r.now op).run m).result
        (seated store r ((Memory.perform r.now op).run m).state readings) :=
      holds.bind_comes ((answers_state r).bind_comes ⟨_, rfl⟩)
    exact ⟨_, performs.map _, rfl, readings, get?_seated _ _ _ _, same⟩
  | start reading what =>
    have opens : (openListing store reading what).Answers r ()
        (seated store r m (readings.put reading (.memory (.unopened what)))) :=
      holds.bind (answers_change _ r)
    exact ⟨_, opens.bind (answers_pure _ _), rfl, _, get?_seated _ _ _ _, get?_put same _ _⟩
  | leave reading =>
    have drops : (dropListing store reading).Answers r ()
        (seated store r m (readings.put reading (.memory (.opened [])))) :=
      holds.bind (answers_change _ r)
    exact ⟨_, drops.bind (answers_pure _ _), rfl, _, get?_seated _ _ _ _, get?_put same _ _⟩
  | pull reading =>
    have sought : readings.get? reading = (cursor? reading).map .memory := same reading
    cases cursor : cursor? reading with
    | none =>
      rw [cursor] at sought
      have fails : (Registry.pull store reading).Comes r
          (.error (.ofRaised (.ofStandard .keyError reading))) r := by
        refine holds.bind_comes ((answers_state r).bind_comes ?_)
        rw [sought]
        exact comes_fail _ r
      rw [Desk.outcome_pull_of_none cursor, Desk.next_pull_of_none cursor]
      exact ⟨r, fails.map _, rfl, readings, found, same⟩
    | some c =>
      rw [cursor] at sought
      have pulls := comes_pull found sought
      rw [Desk.outcome_pull_of_some cursor, Desk.next_pull_of_some cursor]
      exact ⟨_, pulls.map _, rfl, _, get?_seated _ _ _ _, get?_put same _ _⟩

/-- What acts come to in the registry is what they come to on the desk. -/
theorem told_eq (h : Seats store r d) (acts : List Act) : told store r acts = d.told acts := by
  induction acts generalizing r d with
  | nil => rfl
  | cons a acts ih =>
    obtain ⟨t, comes, seats⟩ := h.step a
    rw [told, Desk.told, comes.result_eq, comes.state_eq, ih seats]

theorem afterActs (h : Seats store r d) (acts : List Act) :
    Seats store (Registry.afterActs store r acts) (d.after acts) := by
  induction acts generalizing r d with
  | nil => exact h
  | cons a acts ih =>
    obtain ⟨t, comes, seats⟩ := h.step a
    have rest := ih seats
    rw [← comes.state_eq] at rest
    exact rest

end Seats

/-! ## One listing -/

namespace Act

theorem pulls_iff {reading : String} {a : Act} : a.pulls reading = true ↔ a = .pull reading := by
  cases a <;> simp [pulls]

/-- An act that is about other listings, or about none, neither asks a listing nor ends it. -/
theorem spares_of_reading? {reading : String} {a : Act} (h : a.reading? ≠ some reading) :
    a.pulls reading = false ∧ a.ends reading = false := by
  cases a <;> simp_all [reading?, pulls, ends]

end Act

namespace Desk

variable {d : Desk} {reading : String}

/-- A listing stays as it is until it is asked or ends. -/
theorem cursor?_next {a : Act} (notPulled : a.pulls reading = false)
    (held : a.ends reading = false) : (d.next a).cursor? reading = d.cursor? reading := by
  cases a with
  | wait millis => rfl
  | ask op => rfl
  | start other what => exact if_neg (of_decide_eq_false held)
  | leave other => exact if_neg (of_decide_eq_false held)
  | pull other =>
    cases cursor : d.cursor? other with
    | none => rw [next_pull_of_none cursor]
    | some c =>
      rw [next_pull_of_some cursor]
      exact if_neg (of_decide_eq_false notPulled)

theorem cursor?_after {acts : List Act} (spared : ∀ a ∈ acts, a.reading? ≠ some reading) :
    (d.after acts).cursor? reading = d.cursor? reading := by
  induction acts generalizing d with
  | nil => rfl
  | cons a acts ih =>
    obtain ⟨notPulled, held⟩ := Act.spares_of_reading? (spared a List.mem_cons_self)
    exact (ih fun b hb => spared b (List.mem_cons_of_mem _ hb)).trans
      (cursor?_next notPulled held)

/-- A listing that was started is unopened until it is asked or ends. -/
theorem cursor?_started (before : List Act) {middle : List Act} (what : Selection)
    (spared : ∀ a ∈ middle, a.reading? ≠ some reading) :
    (d.after (before ++ .start reading what :: middle)).cursor? reading = some (.unopened what) := by
  rw [after, List.foldl_append]
  exact (cursor?_after spared).trans (if_pos rfl)

/-- What a listing shows on being asked, and whenever it is asked after that. -/
theorem pulled_cons_pull {cursor : Memory.Cursor} (h : d.cursor? reading = some cursor)
    (acts : List Act) :
    pulled reading (d.told (.pull reading :: acts)) =
      (Memory.takeItem (d.store.showing d.now cursor)).outcome.map .pulled ::
        pulled reading ((d.next (.pull reading)).told acts) := by
  rw [told, pulled_cons_of_pulls (Act.pulls_iff.2 rfl), outcome_pull_of_some h]

/-- **From its first entry on a listing shows what is left of it**, one entry each time it is asked,
and then nothing, whatever else is done. -/
theorem pulled_eq {left : List Item} {acts : List Act}
    (h : d.cursor? reading = some (.opened left)) (held : ∀ a ∈ acts, a.ends reading = false) :
    pulled reading (d.told acts) =
      ((Listing.mk left none).steps (acts.countP (·.pulls reading))).map
        (Except.map Outcome.pulled) := by
  induction acts generalizing d left with
  | nil => rfl
  | cons a acts ih =>
    have heldOn : ∀ b ∈ acts, b.ends reading = false :=
      fun b hb => held b (List.mem_cons_of_mem _ hb)
    cases asked : a.pulls reading with
    | true =>
      obtain rfl := Act.pulls_iff.1 asked
      have leaves : (d.next (.pull reading)).cursor? reading = some (.opened left.tail) := by
        rw [next_pull_of_some h]
        exact if_pos rfl
      rw [pulled_cons_pull h, ih leaves heldOn, List.countP_cons_of_pos asked,
        Memory.steps_takeItem]
      rfl
    | false =>
      have stays := (cursor?_next asked (held a List.mem_cons_self)).trans h
      rw [List.countP_cons_of_neg (Bool.eq_false_iff.1 asked), ← ih stays heldOn, told,
        pulled_cons_of_not_pulls asked]

/-- **A listing shows what can be seen when it is first asked.** -/
theorem pulled_unopened {what : Selection} {acts : List Act}
    (h : d.cursor? reading = some (.unopened what)) (held : ∀ a ∈ acts, a.ends reading = false) :
    pulled reading (d.told (.pull reading :: acts)) =
      ((Listing.mk (d.store.items d.now what) none).steps (acts.countP (·.pulls reading) + 1)).map
        (Except.map Outcome.pulled) := by
  have leaves : (d.next (.pull reading)).cursor? reading =
      some (.opened (d.store.items d.now what).tail) := by
    rw [next_pull_of_some h]
    exact if_pos rfl
  rw [pulled_cons_pull h, pulled_eq leaves held, Memory.steps_takeItem]
  rfl

/-- The store shows what was asked of it, whoever has been reading. -/
theorem alike_after (d : Desk) {history : List Request}
    (h : Memory.Alike d.now d.store (Memory.after history)) (past : Chronological history d.now)
    (acts : List Act) :
    Memory.Alike (d.after acts).now (d.after acts).store
        (Memory.after (history ++ requests d.now acts)) ∧
      Chronological (history ++ requests d.now acts) (d.after acts).now := by
  induction acts generalizing d history with
  | nil =>
    rw [requests, List.append_nil]
    exact ⟨h, past⟩
  | cons a acts ih =>
    cases a with
    | wait millis =>
      have le : d.now ≤ d.now + (millis : Int) := Int.le_add_of_nonneg_right (Int.natCast_nonneg _)
      exact ih (d.next (.wait millis)) (h.mono le) (past.mono le)
    | ask op =>
      have same := (Memory.respects_perform d.now op h).2
      rw [← Memory.after_concat history ⟨d.now, op⟩] at same
      have rest := ih (d.next (.ask op)) same (past.concat op)
      rw [List.append_assoc] at rest
      exact rest
    | start reading what => exact ih (d.next (.start reading what)) h past
    | leave reading => exact ih (d.next (.leave reading)) h past
    | pull reading =>
      have same : Memory.Alike (d.next (.pull reading)).now (d.next (.pull reading)).store
          (Memory.after history) ∧ (d.next (.pull reading)).now = d.now := by
        cases cursor : d.cursor? reading with
        | none =>
          rw [next_pull_of_none cursor]
          exact ⟨h, rfl⟩
        | some c =>
          rw [next_pull_of_some cursor]
          exact ⟨(Memory.alike_touched d.store d.now c).trans h, rfl⟩
      have rest := ih _ same.1 (same.2 ▸ past)
      rw [same.2] at rest
      exact rest

end Desk

/-! ## All the other listings -/

/-- Two desks are alike but for some listings. -/
structure Beside (gone : String → Bool) (d d' : Desk) : Prop where
  now : d.now = d'.now
  store : Memory.Alike d.now d.store d'.store
  cursor? : ∀ reading, gone reading = false → d.cursor? reading = d'.cursor? reading

namespace Beside

variable {gone : String → Bool} {d d' : Desk}

theorem refl (gone : String → Bool) (d : Desk) : Beside gone d d :=
  ⟨rfl, rfl, fun _ _ => rfl⟩

theorem put (h : Beside gone d d') (reading : String) (cursor : Memory.Cursor) :
    Beside gone (d.put reading cursor) (d'.put reading cursor) := by
  refine ⟨h.now, h.store, fun other kept => ?_⟩
  show (if reading = other then _ else _) = if reading = other then _ else _
  rw [h.cursor? other kept]

theorem put_left (h : Beside gone d d') {reading : String} (left : gone reading = true)
    (cursor : Memory.Cursor) : Beside gone (d.put reading cursor) d' := by
  refine ⟨h.now, h.store, fun other kept => ?_⟩
  have different : reading ≠ other := by
    rintro rfl
    rw [left] at kept
    cases kept
  exact (if_neg different).trans (h.cursor? other kept)

/-- An act that is about a listing which does not count does not count. -/
theorem next_left (h : Beside gone d d') {a : Act} (about : a.isAbout gone = true) :
    Beside gone (d.next a) d' := by
  cases a with
  | wait millis => cases about
  | ask op => cases about
  | start reading what => exact h.put_left about _
  | leave reading => exact h.put_left about _
  | pull reading =>
    cases cursor : d.cursor? reading with
    | none =>
      rw [Desk.next_pull_of_none cursor]
      exact h
    | some c =>
      have touched : Beside gone { d with store := d.store.touched d.now c } d' :=
        ⟨h.now, (Memory.alike_touched d.store d.now c).trans h.store, h.cursor?⟩
      rw [Desk.next_pull_of_some cursor]
      exact touched.put_left about _

/-- Any other act comes to the same. -/
theorem next (h : Beside gone d d') {a : Act} (about : a.isAbout gone = false) :
    d.outcome a = d'.outcome a ∧ Beside gone (d.next a) (d'.next a) := by
  obtain ⟨now, m', cursor'?⟩ := d'
  obtain ⟨rfl, store, cursors⟩ := h
  have before : Beside gone d ⟨d.now, m', cursor'?⟩ := ⟨rfl, store, cursors⟩
  cases a with
  | wait millis =>
    exact ⟨rfl, rfl, store.mono (Int.le_add_of_nonneg_right (Int.natCast_nonneg _)), cursors⟩
  | ask op =>
    obtain ⟨result, after⟩ := Memory.respects_perform d.now op store
    exact ⟨congrArg (Except.map Outcome.ofAnswer) result, rfl, after, cursors⟩
  | start reading what => exact ⟨rfl, before.put reading _⟩
  | leave reading => exact ⟨rfl, before.put reading _⟩
  | pull reading =>
    have same : d.cursor? reading = cursor'? reading := cursors reading about
    cases cursor : d.cursor? reading with
    | none =>
      have cursor' := same.symm.trans cursor
      rw [Desk.outcome_pull_of_none cursor, Desk.next_pull_of_none cursor,
        Desk.outcome_pull_of_none cursor', Desk.next_pull_of_none cursor']
      exact ⟨rfl, before⟩
    | some c =>
      have cursor' := same.symm.trans cursor
      have touched : Beside gone { d with store := d.store.touched d.now c }
          ⟨d.now, m'.touched d.now c, cursor'?⟩ := ⟨rfl, store.touched c, cursors⟩
      rw [Desk.outcome_pull_of_some cursor, Desk.next_pull_of_some cursor,
        Desk.outcome_pull_of_some cursor', Desk.next_pull_of_some cursor', store.showing_eq c]
      exact ⟨rfl, touched.put reading _⟩

/-- **Leaving out some readers changes nothing for the others**, nor for those who write. -/
theorem told_eq (h : Beside gone d d') (acts : List Act) :
    (d.told acts).filter (fun x => !x.1.isAbout gone) =
      d'.told (acts.filter fun a => !a.isAbout gone) := by
  induction acts generalizing d d' with
  | nil => rfl
  | cons a acts ih =>
    rw [Desk.told, List.filter_cons, List.filter_cons]
    cases about : a.isAbout gone with
    | true => exact ih (h.next_left about)
    | false =>
      obtain ⟨outcome, after⟩ := h.next about
      show (a, d.outcome a) :: _ = (a, d'.outcome a) :: _
      rw [outcome, ih after]

end Beside

/-! ## All acts -/

/-- **A listing shows one instant.**  Take any acts with a store in memory, in which listings of it are
read at any pace, and any listing that is started in them and asked for its first entry later.  There
are subscriptions, in the strict order of their names, that are just those which are recorded at the
moment of this first request; and whenever the listing is asked from then on, until it is left or
another is started under its name, it shows the next of them, and nothing when there are no more.

Moreover, if everything about some listings is left out, all else comes to the same. -/
theorem reads_one_instant (start : Int) (store : String) :
    (∀ (before middle later : List Act) (reading : String) (what : Selection),
      (∀ a ∈ middle, a.reading? ≠ some reading) → (∀ a ∈ later, a.ends reading = false) →
        let past := before ++ .start reading what :: middle
        let r := afterActs store (withMemory start store) past
        ∃ subscriptions : List Subscription,
          (subscriptions.map (·.name)).Pairwise (· < ·) ∧
            (∀ s, s ∈ subscriptions ↔ recorded (requests start past) s.name r.now = some s) ∧
            pulled reading (told store r (.pull reading :: later)) =
              ((Listing.mk (subscriptions.map what.show) none).steps
                (later.countP (·.pulls reading) + 1)).map (Except.map Outcome.pulled)) ∧
      ∀ (gone : String → Bool) (acts : List Act),
        (told store (withMemory start store) acts).filter (fun x => !x.1.isAbout gone) =
          told store (withMemory start store) (acts.filter fun a => !a.isAbout gone) := by
  have seats := Seats.withMemory start store
  constructor
  · intro before middle later reading what spared held past r
    have seated := seats.afterActs past
    obtain ⟨alike, chronological⟩ := Desk.alike_after ⟨start, .empty, fun _ => none⟩
      (show Memory.Alike start .empty (Memory.after []) from rfl) (chronological_nil start) past
    rw [List.nil_append, ← seated.1] at alike chronological
    refine ⟨(Memory.after (requests start past)).snapshot r.now,
      Memory.pairwise_snapshot_after chronological,
      fun s => Memory.mem_snapshot_after_iff chronological, ?_⟩
    rw [seated.told_eq, Desk.pulled_unopened (Desk.cursor?_started before what spared) held,
      ← seated.1, alike.items_eq]
    rfl
  · intro gone acts
    rw [seats.told_eq, seats.told_eq, (Beside.refl gone _).told_eq]

/-- What is done before a listing of names is asked for its first entry: it was started before the
second subscription was there. -/
def untilAsked : List Act :=
  [.ask (.insert (Memory.brief "b")), .wait 500, .start "other" .names, .pull "other"]

/-- What is done after that: one subscription is deleted, another ends and a third is registered,
while other listings are read and left. -/
def fromThenOn : List Act :=
  [.ask (.delete "b"), .ask (.insert (Memory.brief "c")), .wait 600, .start "third" .subscriptions,
    .pull "third", .pull "one", .leave "other", .pull "one"]

theorem reads_one_instant_crowded :
    (∀ a ∈ untilAsked, a.reading? ≠ some "one") ∧ (∀ a ∈ fromThenOn, a.ends "one" = false) ∧
      let past := [.ask (.insert (Memory.brief "a"))] ++ .start "one" .names :: untilAsked
      let shown := pulled "one"
        (told "m" (afterActs "m" (withMemory 0 "m") past) (.pull "one" :: fromThenOn))
      shown = [some (Item.name "a"), some (Item.name "b"), none].map (.ok <| .pulled ·) ∧
        ∃ subscriptions : List Subscription,
          (∀ s, s ∈ subscriptions ↔ recorded (requests 0 past) s.name 500 = some s) ∧
            shown = ((Listing.mk (subscriptions.map Selection.names.show) none).steps 3).map
              (Except.map Outcome.pulled) := by
  have spared : ∀ a ∈ untilAsked, a.reading? ≠ some "one" := by decide
  have held : ∀ a ∈ fromThenOn, a.ends "one" = false := by decide
  obtain ⟨subscriptions, -, recorded, shown⟩ := (reads_one_instant 0 "m").1
    [.ask (.insert (Memory.brief "a"))] untilAsked fromThenOn "one" .names spared held
  exact ⟨spared, held, rfl, subscriptions, recorded, shown⟩

end Registry

end EventRoster
