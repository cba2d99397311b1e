import EventRoster.Database.Schema

/-!
# What one call for the columns comes to

A resolver that is asked for the columns answers at once if it has found them.  Otherwise it looks
for the table, a second time if it is not in the catalog; that second look may do anything to the
cluster, and may fail.  What the table is made of then decides between an answer and a fault.

`Looked` lists the ways in which looking for the table can go, and `Called` those of a whole call:
its result, what it leaves behind, and the events on its way.  Everything else about calls is read off
these lists.

* `columnsOf_eq_ok_iff`: the columns of a table are found by their positions.
* `exists_columnsOf_iff`: which tables have them.
* `looked_lookBy`, `called_resolveBy`: there are no other ways.
* `View.Reads`: the table that a call reads.
* `Called.resolver_eq`: a resolver remembers the answer of a call, and nothing of a failure.
-/

namespace EventRoster

/-! ## Tables -/

/-- The columns of a table in their roles: the first two of its primary key, and the third of all. -/
structure Table.Binds (t : Table) (columns : Cql.Columns) : Prop where
  partitionKey : t.primaryKey[0]? = some columns.partitionKey
  subscriptionKey : t.primaryKey[1]? = some columns.subscriptionKey
  payload : t.columns[2]? = some columns.payload

namespace Schema

open EventRoster.Action

/-- The columns are found by their positions. -/
theorem columnsOf_eq_ok_iff {t : Table} {columns : Cql.Columns} :
    columnsOf t = .ok columns ↔ t.Binds columns := by
  constructor
  · intro h
    unfold columnsOf at h
    split at h
    · next key =>
      split at h
      · next all =>
        cases h
        exact ⟨by rw [key]; rfl, by rw [key]; rfl, by rw [all]; rfl⟩
      · cases h
    · cases h
  · rintro ⟨partitionKey, subscriptionKey, payload⟩
    obtain ⟨place, key, all⟩ := t
    match key, all, partitionKey, subscriptionKey, payload with
    | _ :: _ :: _, _ :: _ :: _ :: _, rfl, rfl, rfl => rfl

/-- A table with two columns in its primary key and three in all has the columns that are needed, and
no other table has. -/
theorem exists_columnsOf_iff {t : Table} :
    (∃ columns, columnsOf t = .ok columns) ↔ 2 ≤ t.primaryKey.length ∧ 3 ≤ t.columns.length := by
  constructor
  · rintro ⟨columns, h⟩
    obtain ⟨-, second, third⟩ := columnsOf_eq_ok_iff.1 h
    obtain ⟨two, -⟩ := List.getElem?_eq_some_iff.1 second
    obtain ⟨three, -⟩ := List.getElem?_eq_some_iff.1 third
    exact ⟨two, three⟩
  · obtain ⟨place, key, all⟩ := t
    rintro ⟨two, three⟩
    match key, all, two, three with
    | partitionKey :: subscriptionKey :: _, _ :: _ :: payload :: _, _, _ =>
      exact ⟨⟨partitionKey, subscriptionKey, payload⟩, rfl⟩

/-! ## Looking for the table -/

variable {looking : Looking} {v w : View} {failure : Failure} {signals : List Signal}

/-- The table that the resolver is about, as far as the catalog knows. -/
def View.table? (v : View) : Option Table :=
  v.cluster.catalog.find? v.resolver.place

/-- The catalog knows the columns exactly if it knows the table and that has them. -/
theorem View.columnsIn_eq_ok_iff {columns : Cql.Columns} :
    columnsIn v.cluster.catalog v.resolver.place = .ok columns ↔
      ∃ t, v.table? = some t ∧ columnsOf t = .ok columns := by
  rw [columnsIn, View.table?]
  cases v.cluster.catalog.find? v.resolver.place with
  | none => simp
  | some t => simp

/-- What a second look at the cluster comes to. -/
def View.sight (v : View) (looking : Looking) : Sight :=
  looking v.resolver.place v.cluster

/-- The view after a second look at the cluster. -/
def View.again (v : View) (looking : Looking) : View :=
  { v with cluster := (v.sight looking).cluster }

/-- The view with the columns found. -/
def View.bind (v : View) (columns : Cql.Columns) : View :=
  { v with resolver := { v.resolver with columns := some columns } }

/-- The ways in which looking for the table goes: it is there, it has to be looked for once more, or
that look fails. -/
inductive Looked (looking : Looking) (v : View) : Reply View (Except Fault Cql.Columns) → Prop
  | present {table : Table} (found : v.table? = some table) :
      Looked looking v ⟨.ok (columnsOf table), v, []⟩
  | again (missing : v.table? = none) (well : (v.sight looking).result = .ok ()) :
      Looked looking v
        ⟨.ok (columnsIn (v.again looking).cluster.catalog v.resolver.place), v.again looking,
          [.event (.refreshed v.resolver.place)]⟩
  | failed {failure : Failure} (missing : v.table? = none)
      (fails : (v.sight looking).result = .error failure) :
      Looked looking v
        ⟨.error failure, v.again looking, [.event (.refreshed v.resolver.place)]⟩

/-- A table that is in the catalog is not looked for any further. -/
theorem run_lookBy_of_some (looking : Looking) {table : Table} (found : v.table? = some table) :
    (lookBy looking).run v = ⟨.ok (columnsOf table), v, []⟩ := by
  have there : v.cluster.catalog.find? v.resolver.place = some table := found
  rw [lookBy, run_bind_of_ok (run_state v)]
  simp only [there]
  rfl

/-- **Looking for the table** goes in one of these ways. -/
theorem looked_lookBy (looking : Looking) (v : View) :
    Looked looking v ((lookBy looking).run v) := by
  cases there : v.table? with
  | some table =>
    rw [run_lookBy_of_some looking there]
    exact .present there
  | none =>
    rw [lookBy, run_bind_of_ok (run_state v)]
    have missing : v.cluster.catalog.find? v.resolver.place = none := there
    simp only [missing]
    cases outcome : (v.sight looking).result with
    | ok =>
      have well : (looking v.resolver.place v.cluster).result = .ok () := outcome
      rw [well]
      exact .again there outcome
    | error failure =>
      have fails : (looking v.resolver.place v.cluster).result = .error failure := outcome
      rw [fails]
      exact .failed there outcome

/-- The table that a call reads: the one in the catalog, or if there is none, the one in the catalog
after a second look that went well. -/
def View.Reads (v : View) (looking : Looking) (t : Table) : Prop :=
  v.table? = some t ∨
    v.table? = none ∧ (v.sight looking).result = .ok () ∧ (v.again looking).table? = some t

theorem Looked.resolver_eq {looked : Reply View (Except Fault Cql.Columns)}
    (h : Looked looking v looked) : looked.state.resolver = v.resolver := by
  cases h <;> rfl

/-- Looking for the table is not noted. -/
theorem Looked.notices_eq {looked : Reply View (Except Fault Cql.Columns)}
    (h : Looked looking v looked) : Signal.notices looked.signals = [] := by
  cases h <;> rfl

/-- What the look comes to is what the table that is read comes to. -/
theorem Looked.result_eq {looked : Reply View (Except Fault Cql.Columns)}
    (h : Looked looking v looked) {t : Table} (reads : v.Reads looking t) :
    looked.result = .ok (columnsOf t) := by
  cases h with
  | present found =>
    rcases reads with there | ⟨missing, -⟩
    · rw [found] at there
      cases there
      rfl
    · rw [found] at missing
      cases missing
  | again missing well =>
    rcases reads with there | ⟨-, -, brought⟩
    · rw [missing] at there
      cases there
    · have found : (v.again looking).cluster.catalog.find? v.resolver.place = some t := brought
      simp only [columnsIn, found]
  | failed missing fails =>
    rcases reads with there | ⟨-, well, -⟩
    · rw [missing] at there
      cases there
    · rw [fails] at well
      cases well

/-- A look that brings columns has read a table. -/
theorem Looked.exists_reads {looked : Reply View (Except Fault Cql.Columns)}
    {columns : Cql.Columns} (h : Looked looking v looked)
    (brings : looked.result = .ok (.ok columns)) :
    ∃ t, v.Reads looking t ∧ columnsOf t = .ok columns := by
  cases h with
  | @present t found => exact ⟨t, .inl found, Except.ok.inj brings⟩
  | again missing well =>
    obtain ⟨t, there, shape⟩ :=
      (View.columnsIn_eq_ok_iff (v := v.again looking)).1 (Except.ok.inj brings)
    exact ⟨t, .inr ⟨missing, well, there⟩, shape⟩
  | failed => cases brings

/-! ## Calls -/

variable {columns : Cql.Columns} {fault : Fault}

theorem run_resolveBy_of_ok (unbound : v.resolver.columns = none)
    (looks : (lookBy looking).run v = ⟨.ok (.ok columns), w, signals⟩) :
    (resolveBy looking).run v =
      ⟨.ok columns, w.bind columns,
        signals ++ [.notice (.schemaResolved v.resolver.place columns)]⟩ := by
  rw [resolveBy, run_bind_of_ok (run_state v), unbound]
  dsimp only
  rw [run_bind_of_ok looks]
  rfl

theorem run_resolveBy_of_fault (unbound : v.resolver.columns = none)
    (looks : (lookBy looking).run v = ⟨.ok (.error fault), w, signals⟩) :
    (resolveBy looking).run v =
      ⟨.error (fault.failure v.resolver.place), w,
        signals ++ [.notice (.schemaUnresolved v.resolver.place
          (fault.message v.resolver.place))]⟩ := by
  rw [resolveBy, run_bind_of_ok (run_state v), unbound]
  dsimp only
  rw [run_bind_of_ok looks]
  rfl

theorem run_resolveBy_of_error (unbound : v.resolver.columns = none)
    (looks : (lookBy looking).run v = ⟨.error failure, w, signals⟩) :
    (resolveBy looking).run v = ⟨.error failure, w, signals⟩ := by
  rw [resolveBy, run_bind_of_ok (run_state v), unbound]
  dsimp only
  rw [run_bind_of_error looks]
  rfl

/-- The ways in which a call for the columns goes: they were found before, they are found, the table
is at fault, or looking for it fails. -/
inductive Called (looking : Looking) (v : View) : Reply View Cql.Columns → Prop
  | known {columns : Cql.Columns} (bound : v.resolver.columns = some columns) :
      Called looking v ⟨.ok columns, v, []⟩
  | found {columns : Cql.Columns} {w : View} {signals : List Signal}
      (unbound : v.resolver.columns = none)
      (looked : Looked looking v ⟨.ok (.ok columns), w, signals⟩) :
      Called looking v
        ⟨.ok columns, w.bind columns,
          signals ++ [.notice (.schemaResolved v.resolver.place columns)]⟩
  | faulty {fault : Fault} {w : View} {signals : List Signal} (unbound : v.resolver.columns = none)
      (looked : Looked looking v ⟨.ok (.error fault), w, signals⟩) :
      Called looking v
        ⟨.error (fault.failure v.resolver.place), w,
          signals ++ [.notice (.schemaUnresolved v.resolver.place
            (fault.message v.resolver.place))]⟩
  | failed {failure : Failure} {w : View} {signals : List Signal}
      (unbound : v.resolver.columns = none)
      (looked : Looked looking v ⟨.error failure, w, signals⟩) :
      Called looking v ⟨.error failure, w, signals⟩

/-- **A call for the columns** goes in one of these ways. -/
theorem called_resolveBy (looking : Looking) (v : View) :
    Called looking v ((resolveBy looking).run v) := by
  cases unbound : v.resolver.columns with
  | some columns =>
    rw [resolveBy_of_resolved looking unbound]
    exact .known unbound
  | none =>
    have looked := looked_lookBy looking v
    rcases looks : (lookBy looking).run v with ⟨failure | fault | columns, w, signals⟩
    · rw [looks] at looked
      rw [run_resolveBy_of_error unbound looks]
      exact .failed unbound looked
    · rw [looks] at looked
      rw [run_resolveBy_of_fault unbound looks]
      exact .faulty unbound looked
    · rw [looks] at looked
      rw [run_resolveBy_of_ok unbound looks]
      exact .found unbound looked

/-- **A resolver remembers what it answers.**  A failure leaves it as it was. -/
theorem Called.resolver_eq {reply : Reply View Cql.Columns} (h : Called looking v reply) :
    reply.state.resolver = { v.resolver with columns := reply.result.toOption } := by
  cases h with
  | @known columns bound =>
    show v.resolver = ⟨v.resolver.place, some columns⟩
    rw [← bound]
  | @found columns w signals unbound looked =>
    have kept : w.resolver = v.resolver := looked.resolver_eq
    show Resolver.mk w.resolver.place (some columns) = ⟨v.resolver.place, some columns⟩
    rw [kept]
  | faulty unbound looked | failed unbound looked =>
    refine looked.resolver_eq.trans ?_
    show v.resolver = ⟨v.resolver.place, none⟩
    rw [← unbound]

/-- The notices of a call are about the table. -/
theorem Called.event_of_mem_notices {reply : Reply View Cql.Columns} (h : Called looking v reply)
    {n : Notice} (mem : n ∈ Signal.notices reply.signals) :
    n.event = "schema_resolved" ∨ n.event = "schema_resolution_failed" := by
  cases h with
  | known bound => cases mem
  | found unbound looked =>
    rw [Signal.notices_append, looked.notices_eq, List.nil_append] at mem
    obtain rfl := List.mem_singleton.1 mem
    exact .inl rfl
  | faulty unbound looked =>
    rw [Signal.notices_append, looked.notices_eq, List.nil_append] at mem
    obtain rfl := List.mem_singleton.1 mem
    exact .inr rfl
  | failed unbound looked =>
    rw [looked.notices_eq] at mem
    cases mem

/-- A call fails because a second look does, or because the table is at fault. -/
theorem Called.failure_cases {reply : Reply View Cql.Columns} (h : Called looking v reply)
    (fails : reply.result = .error failure) :
    v.table? = none ∧ (v.sight looking).result = .error failure ∨
      ∃ fault : Fault, failure = fault.failure v.resolver.place := by
  cases h with
  | known | found => cases fails
  | @faulty fault =>
    cases fails
    exact .inr ⟨fault, rfl⟩
  | failed unbound looked =>
    cases fails
    cases looked with
    | failed missing fails => exact .inl ⟨missing, fails⟩

end Schema

end EventRoster
