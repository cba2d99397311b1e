import EventRoster.Proofs.Pool.Setbacks
import EventRoster.Proofs.Store.Conduct
import EventRoster.Registry.Step

/-!
# Everything stays accounted for

Whatever is asked of the registry, what was made of clusters and sessions is in use or was shut.  Stores
at work leave it at that: they change what a session holds, and what is known about a cluster, but not
what they go by.  All that opens and closes does so by calls on the pool, and each of these keeps a site
tidy, whether it goes well or not.

* `Store.Wide.shared_keeps`: stores at work keep the tags of their sessions.
* `accounted_withScene`: a store that has been at work is put back.
* `upholds_step`: any step.
* `accounted_upTo`: any steps, one after the other.
-/

namespace EventRoster

open EventRoster.Action

/-! ## Sessions at work -/

theorem Session.keeps_execute (now : Int) (place : Cql.Location) (columns : Cql.Columns)
    (command : Cql.Command) : (execute now place columns command).Keeps Session.tag := by
  refine keeps_state.bind fun s => (keeps_report _).bind fun _ => ?_
  cases s.failing with
  | some failure => exact keeps_fail _
  | none => exact Keeps.bind (keeps_change fun _ => rfl) fun _ => keeps_pure _

/-! ## Stores at work -/

namespace Store.Wide

/-- What the session of a store goes by. -/
def Scene.tag (s : Scene) : Nat × Nat × Option String :=
  s.session.tag

theorem keeps_columns : columns.Keeps Scene.tag := by
  intro s
  rw [columns, columnsBy, run_within]
  rfl

theorem keeps_send (now : Int) (cols : Cql.Columns) (command : Cql.Command) :
    (send now cols command).Keeps Scene.tag := by
  refine keeps_state.bind fun s t => ?_
  rw [run_within]
  exact Session.keeps_execute now s.store.place cols command t.session

/-- **Whatever a store does** leaves alone what its session goes by. -/
theorem shared_keeps : Shared fun _ a => a.Keeps Scene.tag where
  columns := keeps_columns
  send := keeps_send
  lift := keeps_lift
  note := keeps_note
  bind := Keeps.bind
  attempt := Keeps.attempt
  look := fun _ next => keeps_state.bind next

end Store.Wide

/-- What happens to the database leaves alone what sessions go by. -/
theorem Upheaval.keeps_apply (now : Int) (u : Upheaval) :
    (Action.change (u.apply now)).Keeps Store.Wide.Scene.tag :=
  keeps_change fun _ => by cases u <;> rfl

/-! ## Putting back what was at work -/

theorem Grid.map_id_withCluster (g : Grid) (c : Cluster) :
    (g.withCluster c).clusters.map Cluster.id = g.clusters.map Cluster.id := by
  rw [withCluster, List.map_map]
  refine List.map_congr_left fun d _ => ?_
  rw [Function.comp_apply]
  split
  · next same => exact same.symm
  · rfl

/-- Putting back a session that goes by what it went by before changes no tag. -/
theorem Grid.map_tag_withSession {g : Grid} {x : Session}
    (same : ∀ y ∈ g.sessions, y.id = x.id → y.tag = x.tag) :
    (g.withSession x).sessions.map Session.tag = g.sessions.map Session.tag := by
  rw [withSession, List.map_map]
  refine List.map_congr_left fun y there => ?_
  rw [Function.comp_apply]
  split
  · next number => exact (same y there number).symm
  · rfl

namespace Registry

open EventRoster.Store

variable {r : Registry} {name : String} {m : Member} {α : Type}

/-- What was made is in use or was shut. -/
def Accounted (r : Registry) : Prop :=
  ∃ past, Pool.Tidy r.site past

/-- A store that has been at work is put back. -/
theorem accounted_withScene {id : Nat} {store : Wide} {s : Wide.Scene} (h : r.Accounted)
    (kept : s.tag = (scene id store r).tag) : (withScene name m r s).Accounted := by
  obtain ⟨past, tidy⟩ := h
  have kept : s.session.tag = ((r.site.grid.session? id).getD (.opened id 0 none)).tag := kept
  refine ⟨past, tidy.congr rfl rfl ?_ (r.site.grid.map_id_withCluster s.cluster)⟩
  refine Grid.map_tag_withSession fun y there number => ?_
  have there : y ∈ r.site.grid.sessions := there
  rw [kept]
  have number : y.id = ((r.site.grid.session? id).getD (.opened id 0 none)).id :=
    number.trans (Session.tag_eq_iff.1 kept).1
  cases found : r.site.grid.session? id with
  | none =>
    -- A session that was never made is not put back anywhere.
    rw [found] at number
    have other : ¬y.id = id := by simpa using List.find?_eq_none.1 found y there
    exact absurd number other
  | some x =>
    rw [found] at number
    have made : x ∈ r.site.grid.sessions := List.mem_of_find?_eq_some found
    rw [List.inj_on_of_nodup_map tidy.sessions.distinct there made number]
    rfl

/-! ## Actions on the registry -/

/-- What leaves the pool and the grid alone. -/
theorem upholds_of_keeps {a : Action Registry α} (h : a.Keeps Registry.site) : a.Upholds Accounted :=
  h.upholds fun site => ∃ past, Pool.Tidy site past

theorem upholds_pure (x : α) : (pure x : Action Registry α).Upholds Accounted :=
  upholds_of_keeps (keeps_pure x)

theorem upholds_onWide {id : Nat} {store : Wide} {a : Action Wide.Scene α}
    (h : a.Keeps Wide.Scene.tag) : (onWide name m id store a).Upholds Accounted := by
  intro r accounted
  rw [onWide, run_within]
  exact accounted_withScene accounted (h _)

theorem upholds_acquire (settings : Settings) :
    (onSite (Pool.acquire settings)).Upholds Accounted := by
  rintro r ⟨past, tidy⟩
  rw [onSite, run_within]
  exact ⟨_, tidy.acquire (Pool.attempted_acquire r.site settings)⟩

theorem upholds_release (settings : Settings) :
    (onSite (Pool.release settings)).Upholds Accounted := by
  rintro r ⟨past, tidy⟩
  rw [onSite, run_within]
  exact ⟨_, tidy.release settings⟩

theorem upholds_closeAll : (onSite Pool.closeAll).Upholds Accounted := by
  rintro r ⟨past, tidy⟩
  rw [onSite, run_within, Pool.run_closeAll]
  exact ⟨_, tidy.closeAll⟩

theorem keeps_member (name : String) : (member name).Keeps Registry.site := by
  refine keeps_state.bind fun r => ?_
  split
  · exact keeps_pure _
  · exact keeps_fail _

theorem keeps_keep (name : String) (m : Member) : (keep name m).Keeps Registry.site :=
  keeps_change fun _ => rfl

theorem keeps_onMemory {store : Memory} (a : Action Memory α) :
    (onMemory name m store a).Keeps Registry.site :=
  fun _ => rfl

theorem keeps_defaultSettings : defaultSettings.Keeps Registry.site := by
  refine keeps_state.bind fun r => ?_
  split
  · exact keeps_pure _
  · refine (keeps_lift _).bind fun made => Keeps.bind (keeps_change ?_) fun _ => keeps_pure _
    exact fun _ => rfl

/-- Choosing settings leaves the pool alone. -/
theorem keeps_choose (url : Option String) (settings : Option Settings) :
    (choose url settings).Keeps Registry.site := by
  cases url with
  | some url =>
    refine (keeps_lift _).bind fun backend => ?_
    cases backend with
    | memory => exact keeps_pure _
    | cassandra => exact (keeps_lift _).bind fun _ => keeps_pure _
  | none =>
    cases settings with
    | some settings => exact keeps_pure _
    | none => exact keeps_defaultSettings.bind fun _ => keeps_pure _

/-- A store in memory asks nothing of the pool. -/
theorem keeps_openMemory (p : Passed) : (openMemory p).Keeps Registry.site := by
  rw [openMemory]
  split
  · exact keeps_fail _
  · cases p.others with
    | nil => exact keeps_pure _
    | cons name others => exact keeps_fail _

/-! ## Opening and closing -/

theorem upholds_openWide (settings : Settings) (reader : Option ConditionReader) :
    (openWide settings reader).Upholds Accounted := by
  refine (upholds_acquire settings).bind fun id => upholds_of_keeps ?_
  exact keeps_state.bind fun _ => (keeps_lift _).bind fun _ => keeps_pure _

theorem upholds_openWideWith (settings : Settings) (p : Passed) :
    (openWideWith settings p).Upholds Accounted := by
  rw [openWideWith]
  split
  · exact upholds_of_keeps (keeps_fail _)
  · cases p.others with
    | nil => exact upholds_openWide settings p.reader
    | cons name others =>
      exact (upholds_acquire settings).bind fun _ => upholds_of_keeps (keeps_fail _)

theorem upholds_openStoreWith (url : Option String) (settings : Option Settings) (p : Passed) :
    (openStoreWith url settings p).Upholds Accounted := by
  refine (upholds_of_keeps (keeps_choose url settings)).bind fun chosen => ?_
  cases chosen with
  | none => exact upholds_of_keeps (keeps_openMemory p)
  | some settings => exact upholds_openWideWith settings p

theorem upholds_close (name : String) : (close name).Upholds Accounted := by
  refine (upholds_of_keeps (keeps_member name)).bind fun m => ?_
  split
  · exact upholds_pure _
  · split
    · exact upholds_pure _
    · exact (upholds_release _).bind fun _ => upholds_of_keeps (keeps_keep _ _)

/-! ## Steps -/

theorem upholds_perform (name : String) (op : Operation) : (perform name op).Upholds Accounted := by
  refine (upholds_of_keeps (keeps_member name)).bind fun m => ?_
  refine (upholds_of_keeps keeps_state).bind fun r => ?_
  split
  · exact upholds_of_keeps (keeps_onMemory _)
  · exact upholds_onWide (Wide.shared_keeps.perform _ _ op)

theorem keeps_keepReading (name reading : String) (cursor : Reading) :
    (keepReading name reading cursor).Keeps Registry.site :=
  (keeps_member name).bind fun _ => keeps_keep _ _

theorem upholds_pull (name reading : String) : (pull name reading).Upholds Accounted := by
  have after (cursor : Reading) (outcome : Except Failure (Option Item)) :
      (keepReading name reading cursor >>= fun _ => Action.lift outcome).Upholds Accounted :=
    upholds_of_keeps ((keeps_keepReading name reading cursor).bind fun _ => keeps_lift _)
  refine (upholds_of_keeps (keeps_member name)).bind fun m => ?_
  refine (upholds_of_keeps keeps_state).bind fun r => ?_
  split
  · exact (upholds_of_keeps (keeps_onMemory _)).bind fun p => after _ _
  · exact (upholds_onWide (Wide.shared_keeps.pull _ _)).bind fun p => after _ _
  · exact upholds_of_keeps (keeps_fail _)

theorem upholds_onlyWide {a : Action Wide.Scene α} (h : a.Keeps Wide.Scene.tag) :
    (onlyWide name a).Upholds Accounted := by
  refine (upholds_of_keeps (keeps_member name)).bind fun m => ?_
  split
  · exact upholds_onWide h
  · exact upholds_of_keeps (keeps_fail _)

theorem upholds_storeStep (name : String) (s : StoreStep) : (storeStep name s).Upholds Accounted := by
  cases s with
  | perform op => exact (upholds_perform name op).bind fun _ => upholds_pure _
  | openListing reading what =>
    refine upholds_of_keeps (Keeps.bind ?_ fun _ => keeps_pure _)
    exact (keeps_member name).bind fun _ => keeps_keep _ _
  | pull reading => exact (upholds_pull name reading).bind fun _ => upholds_pure _
  | dropListing reading =>
    refine upholds_of_keeps (Keeps.bind ?_ fun _ => keeps_pure _)
    exact (keeps_member name).bind fun _ => keeps_keep _ _
  | resolve => exact (upholds_onlyWide Wide.keeps_columns).bind fun _ => upholds_pure _
  | columns => exact (upholds_onlyWide Wide.keeps_columns).bind fun _ => upholds_pure _
  | resolved => exact (upholds_onlyWide keeps_state).bind fun _ => upholds_pure _
  | close => exact (upholds_close name).bind fun _ => upholds_pure _
  | enter => exact (upholds_close name).bind fun _ => upholds_pure _
  | upheaval u =>
    refine (upholds_of_keeps keeps_state).bind fun r => ?_
    exact (upholds_onlyWide (u.keeps_apply r.now)).bind fun _ => upholds_pure _

theorem upholds_keepOpened (name : String) (clock : Option Int) {opening : Action Registry Holding}
    (h : opening.Upholds Accounted) : (keepOpened name clock opening).Upholds Accounted :=
  h.bind fun _ => upholds_of_keeps ((keeps_keep _ _).bind fun _ => keeps_pure _)

/-- The outcome of the next attempts to connect is no part of what was made. -/
theorem upholds_refuse (count : Nat) :
    (changeGrid fun g => { g with connecting := List.replicate count (some Grid.noHost) }).Upholds
      Accounted := by
  rintro r ⟨past, tidy⟩
  exact ⟨past, tidy.congr rfl rfl rfl rfl⟩

/-- **Every step leaves everything accounted for**, whether it fails or not. -/
theorem upholds_step (s : Step) : (step s).Upholds Accounted := by
  cases s with
  | on store s => exact upholds_storeStep store s
  | advance | setEnvironment | forgetDefaults =>
    exact upholds_of_keeps (Keeps.bind (keeps_change fun _ => rfl) fun _ => keeps_pure _)
  | defaultSettings => exact upholds_of_keeps (keeps_defaultSettings.bind fun _ => keeps_pure _)
  | acquire settings => exact (upholds_acquire settings).bind fun _ => upholds_pure _
  | release settings => exact (upholds_release settings).bind fun _ => upholds_pure _
  | closeAll => exact upholds_closeAll.bind fun _ => upholds_pure _
  | resetPool => exact upholds_closeAll.bind fun _ => upholds_pure _
  | refuse count => exact (upholds_refuse count).bind fun _ => upholds_pure _
  | create name url settings reader clock =>
    exact upholds_keepOpened name clock (upholds_openStoreWith url settings ⟨reader, []⟩)
  | fromSettings name settings reader clock =>
    exact upholds_keepOpened name clock (upholds_openWide settings reader)

/-! ## Steps one after the other -/

/-- The registry before anything is opened, with whatever comes of the next attempts to make a cluster
and to connect to one. -/
def bound (now : Int) (environment : Environment) (tables : Catalog) (making connecting : Prospects) :
    Registry :=
  { start now environment tables with site := ⟨.empty, .bound tables making connecting⟩ }

/-- The registry that some steps lead to.  A step that fails does not keep the next from being taken. -/
def upTo (r : Registry) (steps : List Step) : Registry :=
  steps.foldl (fun r s => ((step s).run r).state) r

/-- **After any steps, everything is accounted for**, whatever was refused on the way. -/
theorem accounted_upTo (now : Int) (environment : Environment) (tables : Catalog)
    (making connecting : Prospects) (steps : List Step) :
    ((bound now environment tables making connecting).upTo steps).Accounted := by
  induction steps using List.reverseRecOn with
  | nil => exact ⟨[], (Pool.Tidy.start tables).congr rfl rfl rfl rfl⟩
  | append_singleton steps s ih =>
    rw [upTo, List.foldl_concat]
    exact upholds_step s ih

end Registry

end EventRoster
