import EventRoster.Proofs.Registry.Custody

/-!
# Stores that cannot be opened

A store is opened in three stages: settings are chosen, the session for them is taken hold of, and the
store is made.  Each of them can fail.  If the first or the second fails, the sessions and their
holders are as before.  If the third fails, the session stays held, and there is no store that could
give it back.

The third stage fails if there is no keyspace or no table, which the settings are not asked about when
they are passed on as they are, or if something is passed on that no store has a place for.

* `exists_attach_iff`: when a store can be made on a session.
* `Stranded`: a session is taken hold of for a store that cannot be made.
* `unchanged_iff_not_stranded`: this is the only way in which a failure leaves the sessions and their
  holders otherwise than they were, and then there is one holder more.
-/

namespace EventRoster

open EventRoster.Action

/-! ## Making a store -/

/-- A store can be made on a session for a keyspace if there is a keyspace, and a table. -/
theorem Store.Wide.exists_attach_iff {session : Session} {keyspace table : Option String}
    (same : session.keyspace = keyspace) (reader : ConditionReader) (lease : Option Settings) :
    (∃ store, attach session keyspace table reader lease = .ok store) ↔
      Settings.isBlank keyspace = false ∧ table ≠ none := by
  have own : ((keyspace.filter (· ≠ "")).or session.keyspace).filter (· ≠ "") =
      keyspace.filter (· ≠ "") := by
    rw [same]
    cases keyspace with
    | none => rfl
    | some k => by_cases empty : k = "" <;> simp [Option.filter, empty]
  rw [attach, own]
  cases keyspace with
  | none => simp [Settings.isBlank]
  | some k =>
    by_cases empty : k = ""
    · simp [Option.filter, empty, Settings.isBlank]
    · cases table with
      | none => simp [Option.filter, empty]
      | some t => simp [Option.filter, empty, Settings.isBlank]

/-- Settings without a fault name a keyspace and a table. -/
theorem Settings.isBlank_of_fault?_eq_none {s : Settings} (h : s.fault? = none) :
    isBlank s.keyspace = false ∧ isBlank s.table = false := by
  unfold fault? at h
  split at h
  · cases h
  · split at h
    · cases h
    · split at h
      · cases h
      · next keyspace =>
        split at h
        · cases h
        · next table => exact ⟨Bool.eq_false_iff.2 keyspace, Bool.eq_false_iff.2 table⟩

namespace Registry

variable {r : Registry} {settings : Settings} {p : Passed}

/-! ## Opening a store for chosen settings -/

/-- Nothing is asked of the pool if the kind of the store is passed on. -/
theorem run_openWideWith_of_kind (kind : kindName ∈ p.others) :
    (openWideWith settings p).run r = ⟨.error (misplaced kindName), r, []⟩ := by
  rw [openWideWith, if_pos (List.contains_iff_mem.2 kind)]
  rfl

/-- No store is opened on a session that cannot be had. -/
theorem run_openWideWith_of_error {failure : Failure} {s : Pool.Site} {signals : List Signal}
    (kind : kindName ∉ p.others)
    (fails : (Pool.acquire settings).run r.site = ⟨.error failure, s, signals⟩) :
    (openWideWith settings p).run r = ⟨.error failure, { r with site := s }, signals⟩ := by
  have asks : (onSite (Pool.acquire settings)).run r =
      ⟨.error failure, { r with site := s }, signals⟩ := by
    rw [onSite, run_within, fails]
  rw [openWideWith, if_neg (by simpa using kind)]
  cases p.others with
  | nil => exact run_bind_of_error asks
  | cons name others => exact run_bind_of_error asks

/-- What becomes of a session that was taken hold of. -/
theorem openWideWith_of_ok {id : Nat} {s : Pool.Site} {signals : List Signal}
    (kind : kindName ∉ p.others)
    (acquires : (Pool.acquire settings).run r.site = ⟨.ok id, s, signals⟩) :
    ((openWideWith settings p).run r).state = { r with site := s } ∧
      ((∃ holding, ((openWideWith settings p).run r).result = .ok holding) ↔
        p.others = [] ∧ ∃ store, Store.Wide.attach
          ((s.grid.session? id).getD (.opened id 0 settings.keyspace)) settings.keyspace
          settings.table (p.reader.getD Condition.reader) (some settings) = .ok store) := by
  have asks : (onSite (Pool.acquire settings)).run r = ⟨.ok id, { r with site := s }, signals⟩ := by
    rw [onSite, run_within, acquires]
  rw [openWideWith, if_neg (by simpa using kind)]
  cases p.others with
  | nil =>
    dsimp only
    rw [openWide, run_bind_of_ok asks, run_bind_of_ok (run_state _)]
    dsimp only
    cases Store.Wide.attach ((s.grid.session? id).getD (.opened id 0 settings.keyspace))
      settings.keyspace settings.table (p.reader.getD Condition.reader) (some settings) with
    | error failure =>
      rw [run_bind_of_error (run_lift _ _)]
      simp
    | ok store =>
      rw [run_bind_of_ok (run_lift _ _)]
      simp
  | cons name others =>
    dsimp only
    rw [run_bind_of_ok asks]
    simp

/-! ## Opening a store -/

/-- A session can be taken hold of for the settings that are chosen, and no store can be made on it. -/
structure Stranded (r : Registry) (url : Option String) (given : Option Settings) (p : Passed)
    (settings : Settings) : Prop where
  chosen : ((choose url given).run r).result = .ok (some settings)
  had : ∃ id, ((Pool.acquire settings).run r.site).result = .ok id
  kind : kindName ∉ p.others
  /-- There is no keyspace, or no table, or no place for something that is passed on. -/
  unfit : Settings.isBlank settings.keyspace = true ∨ settings.table = none ∨ p.others ≠ []

/-- Settings without a fault are stranded only by what else is passed on. -/
theorem Stranded.others_ne_nil {url : Option String} {given : Option Settings}
    (h : Stranded r url given p settings) (sound : settings.fault? = none) : p.others ≠ [] := by
  obtain ⟨keyspace, table⟩ := Settings.isBlank_of_fault?_eq_none sound
  rcases h.unfit with blank | none | others
  · rw [keyspace] at blank
    cases blank
  · rw [none] at table
    cases table
  · exact others

/-- The sessions that are in use and their holders are as before. -/
def Unchanged (r t : Registry) : Prop :=
  t.site.pool.sessions = r.site.pool.sessions ∧ t.site.pool.holders = r.site.pool.holders

theorem unchanged_of_site_eq {t : Registry} (h : t.site = r.site) : Unchanged r t := by
  rw [Unchanged, h]
  exact ⟨rfl, rfl⟩

/-- One more holder is a change. -/
theorem not_unchanged_of_acquired {t : Registry} {key : SessionKey} {id : Nat}
    (h : Pool.Acquired r.site key id t.site) : ¬Unchanged r t := by
  rintro ⟨-, same⟩
  have held := h.held_eq key
  rw [if_pos rfl, Pool.held, Pool.held, same] at held
  omega

variable {t : Registry} {past : List Event} {url : Option String} {given : Option Settings}
  {failure : Failure} {signals : List Signal}

/-- What a failure to open a store for chosen settings comes to, on a tidy site. -/
theorem acquired_of_openWideWith_error (tidy : Pool.Tidy r.site past)
    (fails : (openWideWith settings p).run r = ⟨.error failure, t, signals⟩) :
    (Unchanged r t ∧
        (kindName ∈ p.others ∨ ∃ f, ((Pool.acquire settings).run r.site).result = .error f)) ∨
      kindName ∉ p.others ∧ (∃ id, ((Pool.acquire settings).run r.site).result = .ok id ∧
          Pool.Acquired r.site settings.sessionKey id t.site) ∧
        (Settings.isBlank settings.keyspace = true ∨ settings.table = none ∨ p.others ≠ []) := by
  by_cases kind : kindName ∈ p.others
  · rw [run_openWideWith_of_kind kind] at fails
    cases fails
    exact .inl ⟨⟨rfl, rfl⟩, .inl kind⟩
  · have attempted := Pool.attempted_acquire r.site settings
    rcases acquires : (Pool.acquire settings).run r.site with ⟨f | id, s, given⟩
    · rw [acquires] at attempted
      rw [run_openWideWith_of_error kind acquires] at fails
      cases fails
      exact .inl ⟨attempted.eq_of_error, .inr ⟨_, rfl⟩⟩
    · rw [acquires] at attempted
      have acquired := attempted.acquired tidy
      obtain ⟨left, opens⟩ := openWideWith_of_ok kind acquires
      rw [fails] at left opens
      cases left
      refine .inr ⟨kind, ⟨id, rfl, acquired⟩, ?_⟩
      -- The session that is found under the key is one for the keyspace of the settings.
      have found : s.pool.sessions.get? settings.sessionKey = some id := by
        rw [acquired.get?_eq, if_pos rfl]
      obtain ⟨x, there, keyspace⟩ := (tidy.acquire attempted).exists_session? found
      have keyspace : x.keyspace = settings.keyspace := keyspace
      rw [there, Option.getD_some, Store.Wide.exists_attach_iff keyspace] at opens
      by_contra fit
      push Not at fit
      obtain ⟨named, table, others⟩ := fit
      obtain ⟨holding, opened⟩ := opens.2 ⟨others, by simpa using named, table⟩
      cases opened

/-- What a failure to open a store comes to, on a tidy site: nothing is changed, or a session is
stranded. -/
theorem unchanged_or_stranded (tidy : Pool.Tidy r.site past)
    (fails : (openStoreWith url given p).run r = ⟨.error failure, t, signals⟩) :
    (Unchanged r t ∧ ∀ settings, ¬Stranded r url given p settings) ∨
      ∃ settings id, Stranded r url given p settings ∧
        Pool.Acquired r.site settings.sessionKey id t.site := by
  have untouched := keeps_choose url given r
  rcases chooses : (choose url given).run r with ⟨_ | _ | settings, u, before⟩
  · rw [chooses] at untouched
    rw [openStoreWith, run_bind_of_error chooses] at fails
    cases fails
    refine .inl ⟨unchanged_of_site_eq untouched, fun settings stranded => ?_⟩
    have chosen := stranded.chosen
    rw [chooses] at chosen
    cases chosen
  · have kept := keeps_openMemory p u
    rw [chooses] at untouched
    rw [openStoreWith, run_bind_of_ok chooses] at fails
    obtain ⟨-, left, -⟩ := Reply.mk.inj fails
    rw [left, untouched] at kept
    refine .inl ⟨unchanged_of_site_eq kept, fun settings stranded => ?_⟩
    have chosen := stranded.chosen
    rw [chooses] at chosen
    cases chosen
  · rw [chooses] at untouched
    have untouched : u.site = r.site := untouched
    have only : ∀ {other}, Stranded r url given p other → other = settings := by
      intro other stranded
      have chosen := stranded.chosen
      rw [chooses] at chosen
      cases chosen
      rfl
    rw [openStoreWith, run_bind_of_ok chooses] at fails
    obtain ⟨result, left, -⟩ := Reply.mk.inj fails
    have opens : (openWideWith settings p).run u =
        ⟨.error failure, t, ((openWideWith settings p).run u).signals⟩ := by
      rw [← result, ← left]
    have outcome := acquired_of_openWideWith_error (untouched ▸ tidy) opens
    rw [Unchanged, untouched, ← Unchanged] at outcome
    rcases outcome with ⟨unchanged, kind | ⟨f, refused⟩⟩ | ⟨kind, ⟨id, had, acquired⟩, unfit⟩
    · refine .inl ⟨unchanged, fun other stranded => ?_⟩
      exact stranded.kind kind
    · refine .inl ⟨unchanged, fun other stranded => ?_⟩
      obtain ⟨id, had⟩ := stranded.had
      rw [only stranded, refused] at had
      cases had
    · refine .inr ⟨settings, id, ⟨?_, ⟨id, had⟩, kind, unfit⟩, acquired⟩
      rw [chooses]

/-- **A failure to open a store holds nothing, unless a session is stranded.**  Whatever was done
before, with any setbacks on the way, and whatever is asked for: the sessions and their holders are as
before exactly if it was not the case that a session was taken hold of for settings without a keyspace
or without a table, or with something passed on that no store has a place for.  If it was, the session
has one holder more.  Settings without a fault come to this only by what is passed on besides. -/
theorem unchanged_iff_not_stranded {now : Int} {environment : Environment} {tables : Catalog}
    {making connecting : Prospects} {steps : List Step}
    (reached : r.site = ((bound now environment tables making connecting).upTo steps).site)
    (fails : (openStoreWith url given p).run r = ⟨.error failure, t, signals⟩) :
    (Unchanged r t ↔ ∀ settings, ¬Stranded r url given p settings) ∧
      ∀ settings, Stranded r url given p settings →
        (∃ id, Pool.Acquired r.site settings.sessionKey id t.site) ∧
          (settings.fault? = none → p.others ≠ []) := by
  obtain ⟨past, tidy⟩ := accounted_upTo now environment tables making connecting steps
  rw [← reached] at tidy
  rcases unchanged_or_stranded tidy fails with ⟨unchanged, none⟩ | ⟨settings, id, stranded, acquired⟩
  · exact ⟨⟨fun _ => none, fun _ => unchanged⟩, fun other stranded => absurd stranded (none other)⟩
  · refine ⟨⟨fun unchanged => absurd unchanged (not_unchanged_of_acquired acquired),
      fun none => absurd stranded (none settings)⟩, fun other also => ?_⟩
    have same : other = settings := by
      have chosen := also.chosen
      rw [stranded.chosen] at chosen
      cases chosen
      rfl
    rw [same]
    exact ⟨⟨id, acquired⟩, stranded.others_ne_nil⟩

/-- Settings without a keyspace, for a session that is in use already. -/
def keyspaceless : Settings :=
  { keyspace := some "" }

/-- A registry in which the first attempt to connect was refused, and the second was not. -/
def recovered : Registry :=
  (bound 0 [] .empty [] [some Grid.noHost]).upTo [.acquire keyspaceless, .acquire keyspaceless]

theorem unchanged_iff_not_stranded_recovered :
    ∃ failure t signals,
      (openStoreWith none (some keyspaceless) ⟨none, []⟩).run recovered =
          ⟨.error failure, t, signals⟩ ∧
        (Unchanged recovered t ↔
          ∀ settings, ¬Stranded recovered none (some keyspaceless) ⟨none, []⟩ settings) ∧
        ∀ settings, Stranded recovered none (some keyspaceless) ⟨none, []⟩ settings →
          (∃ id, Pool.Acquired recovered.site settings.sessionKey id t.site) ∧
            (settings.fault? = none → ([] : List String) ≠ []) :=
  ⟨_, _, _, rfl, unchanged_iff_not_stranded rfl rfl⟩

/-- **A failure to open a store can hold a session.**  Settings without a keyspace are passed on, and
the session that is opened for them stays held. -/
theorem not_unchanged_of_keyspaceless :
    ∃ failure t signals,
      (openStore none (some keyspaceless) none).run (start 0 [] .empty) =
          ⟨.error failure, t, signals⟩ ∧
        ¬Unchanged (start 0 [] .empty) t :=
  ⟨_, _, _, rfl, by unfold Unchanged; decide⟩

end Registry

end EventRoster
