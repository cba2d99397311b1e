import EventRoster.Action.Basic

/-!
# Chronicles

What a sequence of actions comes to is told by the state that it leaves, and by all events on the way.
A chronicle holds both.  It is extended by an action whether the action answers or fails: what was
done until then stays done.

The events of interest are the shuttings of sessions and of clusters; `Event.shutSessions` and
`Event.shutClusters` pick them out.
-/

namespace EventRoster

namespace Event

/-- The sessions that are shut in some events, in that order. -/
def shutSessions (events : List Event) : List Nat :=
  events.filterMap fun
    | sessionShut id => some id
    | _ => none

/-- The clusters that are shut in some events, in that order. -/
def shutClusters (events : List Event) : List Nat :=
  events.filterMap fun
    | clusterShut id => some id
    | _ => none

@[simp] theorem shutSessions_append (a b : List Event) :
    shutSessions (a ++ b) = shutSessions a ++ shutSessions b :=
  List.filterMap_append

@[simp] theorem shutClusters_append (a b : List Event) :
    shutClusters (a ++ b) = shutClusters a ++ shutClusters b :=
  List.filterMap_append

@[simp] theorem shutSessions_map_sessionShut (ids : List Nat) :
    shutSessions (ids.map sessionShut) = ids := by
  rw [shutSessions, List.filterMap_map]
  exact List.filterMap_some

@[simp] theorem shutSessions_map_clusterShut (ids : List Nat) :
    shutSessions (ids.map clusterShut) = [] := by
  rw [shutSessions, List.filterMap_map]
  exact List.filterMap_eq_nil_iff.2 fun _ _ => rfl

@[simp] theorem shutClusters_map_clusterShut (ids : List Nat) :
    shutClusters (ids.map clusterShut) = ids := by
  rw [shutClusters, List.filterMap_map]
  exact List.filterMap_some

@[simp] theorem shutClusters_map_sessionShut (ids : List Nat) :
    shutClusters (ids.map sessionShut) = [] := by
  rw [shutClusters, List.filterMap_map]
  exact List.filterMap_eq_nil_iff.2 fun _ _ => rfl

theorem mem_shutClusters_iff {events : List Event} {id : Nat} :
    id ∈ shutClusters events ↔ clusterShut id ∈ events := by
  rw [shutClusters, List.mem_filterMap]
  constructor
  · rintro ⟨e, member, shut⟩
    cases e with
    | clusterShut => exact Option.some.inj shut ▸ member
    | _ => cases shut
  · intro member
    exact ⟨_, member, rfl⟩

end Event

/-- A state with the events that led to it. -/
structure Chronicle (σ : Type) where
  state : σ
  events : List Event

namespace Chronicle

variable {σ α : Type}

/-- The events of an action on the state. -/
def eventsOf (c : Chronicle σ) (a : Action σ α) : List Event :=
  Signal.events (a.run c.state).signals

/-- The chronicle after one more action. -/
def extend (c : Chronicle σ) (a : Action σ α) : Chronicle σ :=
  ⟨(a.run c.state).state, c.events ++ c.eventsOf a⟩

/-- The chronicle of some actions, one after the other. -/
def extendAll (c : Chronicle σ) (actions : List (Action σ α)) : Chronicle σ :=
  actions.foldl extend c

theorem extendAll_append (c : Chronicle σ) (a b : List (Action σ α)) :
    c.extendAll (a ++ b) = (c.extendAll a).extendAll b :=
  List.foldl_append

theorem extendAll_concat (c : Chronicle σ) (actions : List (Action σ α)) (a : Action σ α) :
    c.extendAll (actions ++ [a]) = (c.extendAll actions).extend a :=
  c.extendAll_append actions [a]

end Chronicle

end EventRoster
