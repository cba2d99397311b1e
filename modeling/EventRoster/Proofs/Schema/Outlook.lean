import EventRoster.Proofs.Schema.Calls

/-!
# What asking for the columns comes to

The cluster of a store knows of a table, or will know of it after a second look.  Whether the columns
have been asked for before, and with what success, makes no difference to what asking for them comes
to: either they are remembered, or the table is read, and reading it again shows the same.

* `Cluster.seen`: the table at a place, as the cluster comes to see it.
* `View.outlook`: what asking for the columns comes to.
* `Called.result_eq_outlook`: this is what it comes to.
* `Called.outlook_eq`: asking does not change it, even if the second look fails, as long as the look
  does not change what is seen of the table.
-/

namespace EventRoster

/-- The table at a place, as a cluster knows it, or comes to know it with a second look. -/
def Cluster.seen (c : Cluster) (place : Cql.Location) : Option Table :=
  (c.catalog.find? place).or ((c.refreshed place).catalog.find? place)

/-- A second look shows no more than is seen anyway. -/
theorem Cluster.seen_refreshed {c : Cluster} {place : Cql.Location}
    (missing : c.catalog.find? place = none) : (c.refreshed place).seen place = c.seen place := by
  cases brought : (c.refreshed place).catalog.find? place with
  | some t => rw [seen, seen, missing, brought, Option.some_or, Option.none_or]
  | none =>
    have same : c.refreshed place = c := by
      unfold refreshed at brought ⊢
      split
      · next t pending =>
        rw [pending] at brought
        dsimp only at brought
        split
        · next here =>
          rw [if_pos here, ← here, Catalog.find?_put_self] at brought
          cases brought
        · rfl
      · rfl
    rw [same]

namespace Schema

variable {looking : Looking} {v : View} {reply : Reply View Cql.Columns}

/-- A second look leaves what is seen of the table as it is. -/
def View.Steady (v : View) (looking : Looking) : Prop :=
  v.table? = none →
    (v.again looking).cluster.seen v.resolver.place = v.cluster.seen v.resolver.place

theorem View.steady_lookAgain (v : View) : v.Steady lookAgain :=
  Cluster.seen_refreshed

/-- What asking for the columns comes to. -/
def View.outlook (v : View) : Except Fault Cql.Columns :=
  match v.resolver.columns with
  | some columns => .ok columns
  | none =>
    match v.cluster.seen v.resolver.place with
    | some t => columnsOf t
    | none => .error .noTable

theorem View.outlook_of_unbound (unbound : v.resolver.columns = none) :
    v.outlook = match v.cluster.seen v.resolver.place with
      | some t => columnsOf t
      | none => .error .noTable := by
  rw [outlook, unbound]

/-- Looking for the table comes to what is seen of it. -/
theorem Looked.result_eq_outlook {looked : Reply View (Except Fault Cql.Columns)}
    (h : Looked lookAgain v looked) (unbound : v.resolver.columns = none) :
    looked.result = .ok v.outlook := by
  rw [View.outlook_of_unbound unbound, Cluster.seen]
  cases h with
  | present found =>
    have there : v.cluster.catalog.find? v.resolver.place = some _ := found
    rw [there, Option.some_or]
  | again missing =>
    have absent : v.cluster.catalog.find? v.resolver.place = none := missing
    rw [absent, Option.none_or]
    rfl
  | failed missing fails => cases fails

/-- **What asking for the columns comes to** is what is remembered, or else what is seen. -/
theorem Called.result_eq_outlook (h : Called lookAgain v reply) :
    reply.result = v.outlook.mapError (Fault.failure v.resolver.place) := by
  cases h with
  | known bound =>
    rw [View.outlook, bound]
    rfl
  | found unbound looked | faulty unbound looked =>
    rw [← Except.ok.inj (looked.result_eq_outlook unbound)]
    rfl
  | failed unbound looked => cases looked.result_eq_outlook unbound

/-- The table that a call reads is the one that is seen. -/
theorem View.seen_of_reads (steady : v.Steady looking) {t : Table} (reads : v.Reads looking t) :
    v.cluster.seen v.resolver.place = some t := by
  rcases reads with there | ⟨missing, -, brought⟩
  · have found : v.cluster.catalog.find? v.resolver.place = some t := there
    rw [Cluster.seen, found, Option.some_or]
  · have found : (v.again looking).cluster.catalog.find? v.resolver.place = some t := brought
    rw [← steady missing, Cluster.seen, found, Option.some_or]

/-- Looking for the table leaves what is seen of it as it is. -/
theorem Looked.seen_eq {looked : Reply View (Except Fault Cql.Columns)}
    (h : Looked looking v looked) (steady : v.Steady looking) :
    looked.state.cluster.seen v.resolver.place = v.cluster.seen v.resolver.place := by
  cases h with
  | present found => rfl
  | again missing | failed missing => exact steady missing

/-- **Asking does not change what asking comes to.** -/
theorem Called.outlook_eq (h : Called looking v reply) (steady : v.Steady looking) :
    reply.state.outlook = v.outlook := by
  have unbinds : ∀ {looked : Reply View (Except Fault Cql.Columns)}, Looked looking v looked →
      v.resolver.columns = none → looked.state.outlook = v.outlook := by
    intro looked h unbound
    have kept := h.resolver_eq
    rw [View.outlook_of_unbound unbound, View.outlook_of_unbound (by rw [kept, unbound]), kept,
      h.seen_eq steady]
  cases h with
  | known bound => rfl
  | faulty unbound looked | failed unbound looked => exact unbinds looked unbound
  | @found columns w signals unbound looked =>
    -- The columns that are remembered from now on are those of the table that is seen.
    obtain ⟨t, reads, shape⟩ := looked.exists_reads rfl
    show Except.ok columns = v.outlook
    rw [View.outlook_of_unbound unbound, View.seen_of_reads steady reads]
    exact shape.symm

end Schema

end EventRoster
