import EventRoster.Proofs.Settings.Validation
import EventRoster.Proofs.StoreUrl.Authority
import EventRoster.StoreUrl.Basic

/-!
# What addresses are refused with

Any text at all may be given for an address.  Over valid settings it should either make valid settings
or be refused as a misconfiguration: `Configures`.  A port that cannot be read is a value error at first
and is turned into an error of the configuration, and what results is validated.

The very first step takes the address apart, and has no such turn.  It refuses authorities that are not
sound with a value error, and this is what comes out.

* `failsOnly_ofParts`: all that fails behind the first step is a misconfiguration.
* `configures_iff_isSound`: the addresses that are dealt with as they should be.
-/

namespace EventRoster.StoreUrl

open EventRoster.Failure
open EventRoster.Settings (fault?_eq_none_iff failsOnly_checked checked_eq_ok_iff)

/-- The address makes valid settings of others, or is refused as a misconfiguration. -/
def Configures (url : String) (base : Settings) : Prop :=
  (∃ s, settings url base = .ok s ∧ s.validate = .ok ()) ∨
    ∃ f, settings url base = .error f ∧ f.IsMisconfiguration

/-- What stands between the two slashes of an address and its path. -/
def authorityOf (url : String) : List Char :=
  (splitAuthority (withoutScheme (cleaned url.toList))).1

variable {url : String} {base : Settings}

/-! ## Taking the address apart -/

/-- An address is taken apart exactly if its authority is sound, and is refused otherwise. -/
theorem parts_cases (url : String) :
    (IsSound (authorityOf url) ∧ ∃ p, parts url.toList = .ok p) ∨
      ¬IsSound (authorityOf url) ∧ ∃ fault, parts url.toList = .error fault := by
  rw [authorityOf, ← checkAuthority_eq_ok_iff, parts]
  rcases splitAuthority (withoutScheme (cleaned url.toList)) with ⟨authority, rest⟩
  dsimp only
  cases checkAuthority authority with
  | ok => exact .inl ⟨rfl, _, rfl⟩
  | error fault =>
    refine .inr ⟨?_, fault, rfl⟩
    rintro ⟨⟩

/-- The value error of an address that cannot be taken apart is what comes out. -/
theorem settings_of_not_isSound (unsound : ¬IsSound (authorityOf url)) (base : Settings) :
    ∃ fault : AuthorityFault,
      settings url base = .error (.ofRaised (.ofStandard .valueError fault.message)) := by
  rcases parts_cases url with ⟨sound, -⟩ | ⟨-, fault, refused⟩
  · exact absurd sound unsound
  · refine ⟨fault, ?_⟩
    rw [settings, refused]
    rfl

/-- An address that is taken apart goes on with what it says. -/
theorem exists_settings_eq (sound : IsSound (authorityOf url)) (base : Settings) :
    ∃ p, settings url base =
      (Changes.ofParts url p >>= fun changes => (changes.apply base).checked) := by
  rcases parts_cases url with ⟨-, p, taken⟩ | ⟨unsound, -⟩
  · refine ⟨p, ?_⟩
    rw [settings, taken]
    rfl
  · exact absurd sound unsound

/-! ## What it says -/

/-- A port that cannot be read is a misconfiguration, in whichever entry it stands. -/
theorem failsOnly_readEntries (url : String) (port : Option Int) (entries : List (List Char)) :
    FailsOnly IsMisconfiguration (readEntries url port entries) := by
  induction entries generalizing port with
  | nil => exact failsOnly_ok _
  | cons entry entries ih =>
    rw [readEntries]
    rcases splitEntry entry with ⟨host, _ | text⟩
    · exact (ih port).bind fun _ _ => failsOnly_ok _
    · have reads : FailsOnly IsMisconfiguration
          (((Settings.readInt (String.ofList text)).map some).mapError (portFault url)) :=
        failsOnly_mapError _ fun _ => rfl
      exact reads.bind fun last _ => (ih last).bind fun _ _ => failsOnly_ok _

/-- **All that fails behind the first step** is a misconfiguration. -/
theorem failsOnly_ofParts (url : String) (p : Parts) :
    FailsOnly IsMisconfiguration (Changes.ofParts url p) := by
  rw [Changes.ofParts]
  dsimp only
  split
  · exact failsOnly_ok _
  · exact (failsOnly_readEntries url none _).bind fun _ _ => failsOnly_ok _

/-! ## What it makes of settings -/

theorem validate_eq_ok_iff {s : Settings} : s.validate = .ok () ↔ s.fault? = none := by
  rw [Settings.validate]
  cases s.fault? <;> simp

/-- No address says anything about the timeout, so that it stays a number. -/
theorem failsOnly_checked_apply (valid : base.validate = .ok ()) (changes : Changes) :
    FailsOnly IsMisconfiguration (changes.apply base).checked := by
  obtain ⟨-, -, -, -, passed, -⟩ := fault?_eq_none_iff.1 (validate_eq_ok_iff.1 valid)
  refine failsOnly_checked ?_
  show Settings.nonpositive? base.connectTimeout ≠ none
  rw [passed]
  exact Option.some_ne_none false

/-- An address with a sound authority makes valid settings, or is refused as a misconfiguration. -/
theorem configures_of_isSound (valid : base.validate = .ok ())
    (sound : IsSound (authorityOf url)) : Configures url base := by
  obtain ⟨p, steps⟩ := exists_settings_eq sound base
  rw [Configures, steps]
  cases said : Changes.ofParts url p with
  | error f => exact .inr ⟨f, rfl, failsOnly_ofParts url p f said⟩
  | ok changes =>
    show (∃ s, (changes.apply base).checked = .ok s ∧ _) ∨
      ∃ f, (changes.apply base).checked = .error f ∧ _
    cases outcome : (changes.apply base).checked with
    | error f => exact .inr ⟨f, rfl, failsOnly_checked_apply valid changes f outcome⟩
    | ok s =>
      obtain ⟨faultless, rfl⟩ := checked_eq_ok_iff.1 outcome
      exact .inl ⟨_, rfl, validate_eq_ok_iff.2 faultless⟩

/-- A value error is neither a result nor a misconfiguration. -/
theorem not_configures_of_not_isSound (unsound : ¬IsSound (authorityOf url)) (base : Settings) :
    ¬Configures url base := by
  obtain ⟨fault, refused⟩ := settings_of_not_isSound unsound base
  rintro (⟨s, ok, -⟩ | ⟨f, error, kind⟩)
  · rw [refused] at ok
    cases ok
  · rw [refused] at error
    cases error
    cases kind

/-- **The addresses that are dealt with as they should be**, over valid settings, are those with a sound
authority.  All others come out with a value error. -/
theorem configures_iff_isSound (valid : base.validate = .ok ()) (url : String) :
    (Configures url base ↔ IsSound (authorityOf url)) ∧
      (¬IsSound (authorityOf url) → ∃ fault : AuthorityFault,
        settings url base = .error (.ofRaised (.ofStandard .valueError fault.message))) := by
  refine ⟨⟨fun configures => ?_, configures_of_isSound valid⟩,
    fun unsound => settings_of_not_isSound unsound base⟩
  exact Classical.byContradiction fun unsound =>
    not_configures_of_not_isSound unsound base configures

/-- Credentials with a percent sign, an address of the sixth version with a zone, and a port, over
settings with credentials of their own. -/
theorem configures_iff_isSound_zoned :
    let base : Settings := { username := some "app", password := some "secret" }
    let url := "cassandra://u%5:p@[fe80::1%eth0]:9142/databus?table=%zz"
    base.validate = .ok () ∧ IsSound (authorityOf url) ∧ Configures url base := by
  have valid : ({ username := some "app", password := some "secret" } : Settings).validate = .ok () :=
    validate_eq_ok_iff.2 (by decide)
  have authority : authorityOf "cassandra://u%5:p@[fe80::1%eth0]:9142/databus?table=%zz" =
      "u%5:p".toList ++ '@' :: ('[' :: ("fe80::1%eth0".toList ++ ']' :: ':' :: "9142".toList)) := by
    decide
  have sound :
      IsSound (authorityOf "cassandra://u%5:p@[fe80::1%eth0]:9142/databus?table=%zz") := by
    rw [authority]
    have shown : ("u%5:p".toList ++ '@' :: ('[' :: ("fe80::1%eth0".toList ++
        ']' :: ':' :: "9142".toList))).all (!hidesDelimiter ·) = true := by decide
    exact ⟨by decide, fun _ => ⟨_, _, .behind (by decide), .port (by decide), .inr (by decide)⟩,
      by simpa using shown⟩
  exact ⟨valid, sound, (configures_iff_isSound valid _).1.2 sound⟩

/-- A bracket that is not closed comes out with a value error. -/
theorem not_configures_of_bracket :
    ({} : Settings).validate = .ok () ∧ ¬Configures "cassandra://[::1/databus" {} := by
  have authority : authorityOf "cassandra://[::1/databus" = "[::1".toList := by decide
  have unsound : ¬IsSound (authorityOf "cassandra://[::1/databus") := by
    rw [authority]
    exact fun sound => absurd (sound.paired.1 (by decide)) (by decide)
  exact ⟨validate_eq_ok_iff.2 (by decide), not_configures_of_not_isSound unsound {}⟩

end EventRoster.StoreUrl
