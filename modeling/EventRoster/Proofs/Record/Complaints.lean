import EventRoster.Proofs.Record.Fields

/-!
# What is wrong with a record

The steps in which a record is read are judged one by one: a step ends well with certain values, and has
one complaint otherwise (`Decides`).  The complaints of one step come before those of the next
(`Decides.bind`), so that reading the members of an object tells the first complaint about its fields
(`decides_ofMembers`).
-/

namespace EventRoster.Record

open EventRoster.Failure EventRoster.Number

/-- The first of some rows that holds of anything holds of `a`. -/
def FirstOf {α : Type} : List (α → Prop) → α → Prop
  | [], _ => False
  | row :: rows, a => row a ∨ (∀ b, ¬row b) ∧ FirstOf rows a

section Complaints

variable (reader : ConditionReader) (name : String) (fields : Fields)

/-- A required field is missing. -/
def missing (field : Field) (f : Failure) : Prop :=
  fields.Lacks field ∧ f = .ofRaised (.missingField field.name name)

/-- A field holds a value of another type. -/
def mistyped (field : Field) (f : Failure) : Prop :=
  ¬fields.Lacks field ∧ ¬fields.Typed field ∧ f = .ofRaised (.corrupt field.typeMessage name none)

/-- The retention is no duration. -/
def outOfRange (f : Failure) : Prop :=
  ∃ r, fields.HasNumber .eventTtl r ∧ ¬FitsDuration (towardZero r) ∧
    let cause := Raised.ofStandard .overflowError (Duration.rangeMessage (towardZero r))
    f = ⟨.corrupt "eventTtl is out of range" name (some cause.mention), [cause]⟩

/-- The condition is refused by its reader. -/
def refused (f : Failure) : Prop :=
  ∃ t, fields.HasText .condition t ∧ reader t = .error f

/-- What may be wrong with the fields of a record, in the order in which it is told. -/
def complaints : List (Failure → Prop) :=
  [missing name fields .condition, missing name fields .expiresAt, missing name fields .eventTtl,
    mistyped name fields .condition, mistyped name fields .expiresAt, mistyped name fields .eventTtl,
    mistyped name fields .owner, outOfRange name fields, refused reader fields]

end Complaints

/-! ## Steps and their complaints -/

/-- A step ends well exactly with what is `good`, and badly exactly with the first complaint. -/
structure Decides (name : String) {α : Type} (step : Except Fault α) (rows : List (Failure → Prop))
    (good : α → Prop) : Prop where
  ok (a : α) : step = .ok a ↔ good a
  error (f : Failure) : step.mapError (Fault.failure name) = .error f ↔ FirstOf rows f

section Steps

variable {name : String} {α β : Type} {row : Failure → Prop} {rows : List (Failure → Prop)}

theorem firstOf_singleton {f : Failure} : FirstOf [row] f ↔ row f :=
  ⟨fun h => h.resolve_right And.right, .inl⟩

/-- A step that ends well has no complaint. -/
theorem decides_ok {a : α} {good : α → Prop} (is : ∀ b, good b ↔ a = b) (none : ∀ f, ¬row f) :
    Decides name (.ok a) [row] good where
  ok b := by rw [is, Except.ok.injEq]
  error f := by
    rw [firstOf_singleton]
    exact ⟨nofun, fun complaint => (none f complaint).elim⟩

/-- A step that ends badly has one complaint. -/
theorem decides_error {fault : Fault} {good : α → Prop} (none : ∀ a, ¬good a)
    (is : ∀ f, row f ↔ f = fault.failure name) : Decides name (.error fault) [row] good where
  ok a := ⟨nofun, fun h => (none a h).elim⟩
  error f := by
    rw [firstOf_singleton, is]
    exact ⟨fun h => (Except.error.inj h).symm, fun h => congrArg Except.error h.symm⟩

/-- The complaints of a step come before those of what it goes on with. -/
theorem Decides.bind {step : Except Fault α} {next : α → Except Fault β} {has : α → Prop}
    {good : α → β → Prop} (h : Decides name step [row] has)
    (h' : ∀ a, has a → Decides name (next a) rows (good a)) :
    Decides name (step >>= next) (row :: rows) fun b => ∃ a, has a ∧ good a b := by
  cases step with
  | error fault =>
    have complaint : row (fault.failure name) := firstOf_singleton.1 ((h.error _).1 rfl)
    have nothing : ∀ a, ¬has a := fun a is => nomatch (h.ok a).2 is
    refine ⟨fun _ => ⟨nofun, fun ⟨a, is, _⟩ => (nothing a is).elim⟩, fun f => ?_⟩
    have same : fault.failure name = f ↔ row f :=
      (Except.error.injEq ..).to_iff.symm.trans ((h.error f).trans firstOf_singleton)
    refine (Except.error.injEq ..).to_iff.trans (same.trans ⟨.inl, ?_⟩)
    rintro (first | ⟨silent, -⟩)
    · exact first
    · exact (silent _ complaint).elim
  | ok a =>
    have has := (h.ok a).1 rfl
    have silent : ∀ f, ¬row f := fun f complaint =>
      nomatch (h.error f).2 (firstOf_singleton.2 complaint)
    refine ⟨fun _ => ((h' a has).ok _).trans ⟨fun is => ⟨a, has, is⟩, ?_⟩, fun f => ?_⟩
    · rintro ⟨a', has', is⟩
      cases (h.ok a').2 has'
      exact is
    · exact ((h' a has).error f).trans
        ⟨fun first => .inr ⟨silent, first⟩, fun first => (first.resolve_left (silent f)).2⟩

theorem decides_pure (a : α) : Decides name (pure a) [] fun b => b = a where
  ok _ := ⟨fun h => (Except.ok.inj h).symm, fun h => congrArg Except.ok h.symm⟩
  error _ := ⟨nofun, False.elim⟩

theorem Decides.congr {step : Except Fault α} {good good' : α → Prop} (h : Decides name step rows good)
    (same : ∀ a, good a ↔ good' a) : Decides name step rows good' :=
  ⟨fun a => (h.ok a).trans (same a), h.error⟩

/-- Steps with the same complaints and the same good ends have the same end. -/
theorem Decides.mapError_eq {step step' : Except Fault α} {good : α → Prop}
    (h : Decides name step rows good) (h' : Decides name step' rows good) :
    step.mapError (Fault.failure name) = step'.mapError (Fault.failure name) := by
  cases step with
  | ok a =>
    have same := (h'.ok a).2 ((h.ok a).1 rfl)
    rw [same]
  | error fault => exact ((h'.error _).2 ((h.error _).1 rfl)).symm

end Steps

/-! ## The steps of a record -/

section Record

variable {reader : ConditionReader} {name : String} {fields : Fields} {bound : Json.Members}
  {field : Field} {v : Json}

theorem value?_cases (bound : Json.Members) (field : Field) :
    value? bound field = none ∧ (fieldsOf bound).Lacks field ∨
      ∃ v, value? bound field = some v ∧ fieldsOf bound field = some v ∧ v ≠ .null := by
  rw [value?, Fields.Lacks, fieldsOf]
  split
  · next none => exact .inl ⟨rfl, .inl none⟩
  · next null => exact .inl ⟨rfl, .inr null⟩
  · next v other held =>
    refine .inr ⟨v, rfl, held, ?_⟩
    rintro rfl
    exact other rfl

theorem decides_required (name : String) (bound : Json.Members) (field : Field) :
    Decides name (required bound field) [missing name (fieldsOf bound) field]
      fun v => fieldsOf bound field = some v ∧ v ≠ .null := by
  rw [required]
  rcases value?_cases bound field with ⟨none, lacks⟩ | ⟨v, some, held, other⟩
  · rw [none]
    refine decides_error (fun v ⟨held, other⟩ => Fields.not_lacks held other lacks) fun f => ?_
    exact ⟨And.right, fun is => ⟨lacks, is⟩⟩
  · rw [some]
    refine decides_ok (fun w => ?_) fun f complaint => Fields.not_lacks held other complaint.1
    rw [held, Option.some.injEq]
    exact ⟨And.left, fun same => ⟨same, same ▸ other⟩⟩

theorem decides_asText (name : String) (held : fields field = some v) (other : v ≠ .null)
    (typed : fields.Typed field ↔ ∃ t, fields.HasText field t) :
    Decides name (asText field v) [mistyped name fields field] (fields.HasText field) := by
  unfold asText
  split
  · next t =>
    refine decides_ok (fun u => ?_) fun f complaint => complaint.2.1 (typed.2 ⟨t, held⟩)
    rw [Fields.HasText, held, Option.some.injEq, Json.text.injEq]
  · next noText =>
    have none : ∀ t, ¬fields.HasText field t := by
      intro t text
      rw [Fields.HasText, held, Option.some.injEq] at text
      exact noText t text
    refine decides_error none fun f => ⟨fun complaint => complaint.2.2, fun is => ?_⟩
    exact ⟨Fields.not_lacks held other, fun h => (typed.1 h).elim none, is⟩

theorem decides_asNumber (name : String) (held : fields field = some v) (other : v ≠ .null)
    (typed : fields.Typed field ↔ ∃ r, fields.HasNumber field r) :
    Decides name (asNumber field v) [mistyped name fields field]
      fun n => ∃ r, fields.HasNumber field r ∧ n = towardZero r := by
  rw [asNumber, wholeNumber?_eq]
  cases number : v.number? with
  | some r =>
    have has : fields.HasNumber field r := ⟨v, held, number⟩
    refine decides_ok (fun n => ?_) fun f complaint => complaint.2.1 (typed.2 ⟨r, has⟩)
    constructor
    · rintro ⟨r', has', rfl⟩
      rw [has.unique has']
    · exact fun same => ⟨r, has, same.symm⟩
  | none =>
    have none : ∀ r, ¬fields.HasNumber field r := by
      rintro r ⟨w, held', number'⟩
      rw [held] at held'
      cases held'
      rw [number] at number'
      cases number'
    refine decides_error (fun n ⟨r, has, _⟩ => none r has) fun f =>
      ⟨fun complaint => complaint.2.2, fun is => ?_⟩
    exact ⟨Fields.not_lacks held other, fun h => (typed.1 h).elim none, is⟩

theorem decides_readOwner (name : String) (bound : Json.Members) :
    Decides name (readOwner bound) [mistyped name (fieldsOf bound) .owner] fun o =>
      (fieldsOf bound).Lacks .owner ∧ o = none ∨ ∃ t, (fieldsOf bound).HasText .owner t ∧ o = some t := by
  rw [readOwner]
  rcases value?_cases bound .owner with ⟨none, lacks⟩ | ⟨v, some, held, other⟩
  · rw [none]
    refine decides_ok (fun o => ?_) fun f complaint => complaint.1 lacks
    constructor
    · rintro (⟨-, rfl⟩ | ⟨t, text, rfl⟩)
      · rfl
      · exact (Fields.not_lacks text nofun lacks).elim
    · exact fun same => .inl ⟨lacks, same.symm⟩
  · rw [some]
    have lifted : (asText .owner v).map Option.some = asText .owner v >>= fun t => pure (Option.some t) := by
      cases asText .owner v <;> rfl
    show Decides name ((asText .owner v).map Option.some) _ _
    rw [lifted]
    refine ((decides_asText name held other Iff.rfl).bind fun t _ => decides_pure _).congr fun o => ?_
    exact ⟨.inr, fun is => is.resolve_left fun lacks => Fields.not_lacks held other lacks.1⟩

theorem decides_readRetention (name : String) {seconds : Int}
    (are : ∃ r, fields.HasNumber .eventTtl r ∧ seconds = towardZero r) :
    Decides name (readRetention seconds) [outOfRange name fields]
      fun d => d.micros = seconds * Time.microsPerSecond := by
  obtain ⟨r, has, rfl⟩ := are
  rw [readRetention, Duration.ofSeconds]
  cases fits : Duration.ofMicros? (towardZero r * Time.microsPerSecond) with
  | some d =>
    rw [Duration.ofMicros?_eq_some_iff] at fits
    refine decides_ok (fun e => ?_) ?_
    · rw [← fits, ← Duration.ofMicros?_eq_some_iff, Duration.ofMicros?_micros, Option.some.injEq]
    · rintro f ⟨r', has', unfit, -⟩
      rw [← has.unique has', fitsDuration_iff, ← fits] at unfit
      exact unfit d.inRange
  | none =>
    have unfit : ¬FitsDuration (towardZero r) := by
      intro range
      rw [Duration.ofMicros?, dif_pos (fitsDuration_iff.1 range)] at fits
      cases fits
    refine decides_error (fun d is => ?_) fun f => ⟨?_, fun is => ⟨r, has, unfit, is⟩⟩
    · rw [← Duration.ofMicros?_eq_some_iff, fits] at is
      cases is
    · rintro ⟨r', has', -, is⟩
      rw [← has.unique has'] at is
      exact is

theorem decides_reader (name : String) {t : Text} (text : fields.HasText .condition t) :
    Decides name ((reader t).mapError .refused) [refused reader fields] fun c => reader t = .ok c := by
  have only : ∀ u, fields.HasText .condition u → u = t := by
    intro u text'
    rw [Fields.HasText, text] at text'
    cases text'
    rfl
  cases reads : reader t with
  | ok c =>
    refine decides_ok (fun d => by rw [Except.ok.injEq]) ?_
    rintro f ⟨u, text', fails⟩
    rw [only u text', reads] at fails
    cases fails
  | error f =>
    refine decides_error nofun fun g => ⟨?_, ?_⟩
    · rintro ⟨u, text', fails⟩
      rw [only u text', reads] at fails
      exact (Except.error.inj fails).symm
    · rintro rfl
      exact ⟨t, text, reads⟩

/-- **Reading the members of an object** tells the first complaint about its fields, or there is none and
the subscription is the one that they describe. -/
theorem decides_ofMembers (reader : ConditionReader) (name : String) (bound : Json.Members) :
    Decides name (ofMembers reader name bound) (complaints reader name (fieldsOf bound))
      (Describes reader name (fieldsOf bound)) := by
  have steps : Decides name (ofMembers reader name bound) (complaints reader name (fieldsOf bound)) _ :=
    (decides_required name bound .condition).bind fun _ condition =>
    (decides_required name bound .expiresAt).bind fun _ expiresAt =>
    (decides_required name bound .eventTtl).bind fun _ eventTtl =>
    (decides_asText name condition.1 condition.2 Iff.rfl).bind fun _ text =>
    (decides_asNumber name expiresAt.1 expiresAt.2 Iff.rfl).bind fun _ _ =>
    (decides_asNumber name eventTtl.1 eventTtl.2 Iff.rfl).bind fun _ seconds =>
    (decides_readOwner name bound).bind fun _ _ =>
    (decides_readRetention name seconds).bind fun _ _ =>
    (decides_reader name text).bind fun _ _ => decides_pure _
  refine steps.congr fun s => ⟨fun h => ?_, fun h => ?_⟩
  · obtain ⟨_, -, _, -, _, -, t, text, hint, isHint, seconds, areSeconds, owner, owned, retention, kept,
      c, reads, rfl⟩ := h
    obtain ⟨r, hasHint, rfl⟩ := isHint
    obtain ⟨q, hasSeconds, rfl⟩ := areSeconds
    exact ⟨rfl, ⟨t, text, reads⟩, ⟨r, hasHint, rfl⟩, ⟨q, hasSeconds, kept⟩, owned⟩
  · obtain ⟨rfl, ⟨t, text, reads⟩, ⟨r, hasHint, hint⟩, ⟨q, hasSeconds, kept⟩, owned⟩ := h
    obtain ⟨v, held, visible⟩ := hasHint.exists_ne_null
    obtain ⟨w, held', visible'⟩ := hasSeconds.exists_ne_null
    exact ⟨_, ⟨text, nofun⟩, v, ⟨held, visible⟩, w, ⟨held', visible'⟩, t, text, _, ⟨r, hasHint, hint⟩,
      _, ⟨q, hasSeconds, rfl⟩, _, owned, _, kept, _, reads, rfl⟩

/-- Of three faults, the missing expiry is told. -/
example (reader : ConditionReader) (name : String) :
    ofMembers reader name [("filter", .int 1), ("eventTtl", .null), ("ownerId", .bool true)] =
      .error (.missing .expiresAt) := rfl

end Record

end EventRoster.Record
