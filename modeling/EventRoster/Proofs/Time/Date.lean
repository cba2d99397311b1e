import EventRoster.Time.Date
import Mathlib.Tactic.IntervalCases
import Mathlib.Tactic.Lift

/-!
# The calendar

The date of a day is found in three divisions: by the days in 400 years, by those in a year, and by those
in five months.  Years and months differ in length, and the last two divisions are corrected for that.

* `lastBegun_yearOfDay`: the corrected division finds the year.
* `exists_ofDays_eq`: the date of every day, in terms of years that begin in March.
* `toDays_ofDays`: it is the date of that day.
* `le_year_ofDays_iff`: a day is in a year or a later one if it is not before its first of January.
* `ofDays_eq_iff`: of the dates on the calendar, it is the only one of that day.
-/

namespace EventRoster.Date

/-! ## Years that begin in March -/

/-- Days from the first of March of the year 0 to that of a year. -/
def marchDays (year : Int) : Int :=
  365 * year + year / 4 - year / 100 + year / 400

section March

variable {a b day year : Int}

theorem marchDays_mono (h : a ≤ b) : marchDays a + 365 * (b - a) ≤ marchDays b := by
  have leap : a / 4 - a / 100 ≤ b / 4 - b / 100 := by omega
  have century : a / 400 ≤ b / 400 := by omega
  simp only [marchDays]
  omega

theorem marchDays_succ_le (year : Int) : marchDays (year + 1) ≤ marchDays year + 366 := by
  simp only [marchDays]
  omega

/-- The calendar repeats after 400 years. -/
theorem marchDays_add (year era : Int) :
    marchDays (year + era * 400) = marchDays year + era * daysPerEra := by
  simp only [marchDays, daysPerEra]
  omega

/-- The year of a day, both counted within 400 years. -/
def yearOfDay (day : Int) : Int :=
  (day - day / 1460 + day / 36524 - day / 146096) / 365

theorem yearOfDay_mono (h : a ≤ b) : yearOfDay a ≤ yearOfDay b := by
  have leap : a - a / 1460 ≤ b - b / 1460 := by omega
  have century : a / 36524 - a / 146096 ≤ b / 36524 - b / 146096 := by omega
  exact Int.ediv_le_ediv (by decide) (by omega)

/-- The first and the last day of a year are in it. -/
theorem yearOfDay_marchDays (nonneg : 0 ≤ year) (less : year < 400) :
    yearOfDay (marchDays year) = year ∧ yearOfDay (marchDays (year + 1) - 1) = year := by
  have every : ∀ n : Fin 400,
      yearOfDay (marchDays n) = n ∧ yearOfDay (marchDays (n + 1) - 1) = n := by
    decide +kernel
  lift year to ℕ using nonneg
  exact every ⟨year, by omega⟩

/-- **The year of a day has begun by then, and the next one has not.** -/
theorem lastBegun_yearOfDay (nonneg : 0 ≤ day) (less : day < daysPerEra) :
    (0 ≤ yearOfDay day ∧ yearOfDay day < 400) ∧
      marchDays (yearOfDay day) ≤ day ∧ day < marchDays (yearOfDay day + 1) := by
  have least : 0 ≤ yearOfDay day := yearOfDay_mono nonneg
  have most : yearOfDay day ≤ 399 := yearOfDay_mono (Int.le_sub_one_of_lt less)
  refine ⟨⟨least, by omega⟩, ?_, ?_⟩
  -- Before its year began, the day would be no later than the last day of the year before, and so would
  -- its year; after the year ended, no earlier than the first day of the next.
  · by_contra early
    rcases least.eq_or_lt with first | later
    · have start : marchDays 0 = 0 := by decide
      rw [← first, start] at early
      omega
    · obtain ⟨-, last⟩ := @yearOfDay_marchDays (yearOfDay day - 1) (by omega) (by omega)
      rw [Int.sub_add_cancel] at last
      have := yearOfDay_mono (show day ≤ marchDays (yearOfDay day) - 1 by omega)
      omega
  · by_contra late
    rcases most.eq_or_lt with last | earlier
    · have finish : marchDays (399 + 1) = daysPerEra := by decide
      rw [last, finish] at late
      omega
    · obtain ⟨first, -⟩ := @yearOfDay_marchDays (yearOfDay day + 1) (by omega) (by omega)
      have := yearOfDay_mono (not_lt.mp late)
      omega

end March

/-! ## The date of a day -/

/-- The date on a day of a year that begins in March, which ends in February of the next one. -/
def ofMarch (year day : Int) : Date :=
  let month := (5 * day + 2) / 153
  { year := year + if 10 ≤ month then 1 else 0
    month := if month < 10 then month + 3 else month - 9
    day := day - (153 * month + 2) / 5 + 1 }

/-- **Every day is a day of one year from March to February, and has its date.** -/
theorem exists_ofDays_eq (days : Int) :
    ∃ year day, ofDays days = ofMarch year day ∧ days + epochOffset = marchDays year + day ∧
      0 ≤ day ∧ marchDays year + day < marchDays (year + 1) := by
  obtain ⟨era, hera⟩ : ∃ era, era = (days + epochOffset) / daysPerEra := ⟨_, rfl⟩
  obtain ⟨dayOfEra, hday⟩ : ∃ day, day = days + epochOffset - era * daysPerEra := ⟨_, rfl⟩
  have inside : 0 ≤ dayOfEra ∧ dayOfEra < daysPerEra := by
    simp only [daysPerEra] at hera hday ⊢
    omega
  obtain ⟨⟨least, most⟩, begun, notNext⟩ := lastBegun_yearOfDay inside.1 inside.2
  have start : marchDays (yearOfDay dayOfEra) =
      365 * yearOfDay dayOfEra + yearOfDay dayOfEra / 4 - yearOfDay dayOfEra / 100 := by
    simp only [marchDays]
    omega
  refine ⟨yearOfDay dayOfEra + era * 400, dayOfEra - marchDays (yearOfDay dayOfEra), ?_, ?_, ?_, ?_⟩
  · simp (disch := decide) only [ofDays, Int.fdiv_eq_ediv_of_nonneg]
    rw [← hera, ← hday, ← yearOfDay, ← start, ofMarch]
    obtain ⟨month, hmonth⟩ : ∃ month,
      month = (5 * (dayOfEra - marchDays (yearOfDay dayOfEra)) + 2) / 153 := ⟨_, rfl⟩
    rw [← hmonth]
    have range : 0 ≤ month ∧ month < 12 := by
      have := marchDays_succ_le (yearOfDay dayOfEra)
      omega
    congr 2
    split <;> split <;> omega
  · rw [marchDays_add]
    omega
  · omega
  · rw [Int.add_right_comm, marchDays_add, marchDays_add]
    omega

/-- January and February count with the year before. -/
theorem toDays_ofMarch {year day : Int} (nonneg : 0 ≤ day) (less : day < 366) :
    (ofMarch year day).toDays = marchDays year + day - epochOffset := by
  obtain ⟨month, hmonth⟩ : ∃ month, month = (5 * day + 2) / 153 := ⟨_, rfl⟩
  simp (disch := decide) only [ofMarch, toDays, marchDays, Int.fdiv_eq_ediv_of_nonneg, ← hmonth,
    daysPerEra]
  have range : 0 ≤ month ∧ month < 12 := by omega
  rcases lt_or_ge month 10 with early | late
  · rw [if_pos early, if_neg (show ¬10 ≤ month by omega), if_neg (show ¬month + 3 ≤ 2 by omega),
      if_pos (show month + 3 > 2 by omega)]
    omega
  · rw [if_neg (show ¬month < 10 by omega), if_pos late, if_pos (show month - 9 ≤ 2 by omega),
      if_neg (show ¬month - 9 > 2 by omega)]
    omega

/-- **The date of a day is a date of that day.** -/
theorem toDays_ofDays (days : Int) : (ofDays days).toDays = days := by
  obtain ⟨year, day, date, split, nonneg, less⟩ := exists_ofDays_eq days
  have length := marchDays_succ_le year
  rw [date, toDays_ofMarch nonneg (by omega)]
  omega

/-- **A day is in a year or a later one if it is not before the first of January of that year.** -/
theorem le_year_ofDays_iff {year days : Int} :
    year ≤ (ofDays days).year ↔ toDays ⟨year, 1, 1⟩ ≤ days := by
  obtain ⟨marchYear, day, date, split, nonneg, less⟩ := exists_ofDays_eq days
  have first : toDays ⟨year, 1, 1⟩ = marchDays (year - 1) + 306 - epochOffset := by
    have january : ofMarch (year - 1) 306 = ⟨year, 1, 1⟩ := by simp [ofMarch]
    rw [← january, toDays_ofMarch (by decide) (by decide)]
  have later : 10 ≤ (5 * day + 2) / 153 ↔ 306 ≤ day := by omega
  rw [date, first, ofMarch]
  simp only [later]
  rcases lt_trichotomy (year - 1) marchYear with before | same | after
  · have := marchDays_mono before.le
    split <;> omega
  · rw [same]
    split <;> omega
  · have := marchDays_mono (show marchYear + 1 ≤ year - 1 by omega)
    split <;> omega

/-! ## Dates on the calendar -/

/-- The year has a leap day. -/
def IsLeap (year : Int) : Prop :=
  4 ∣ year ∧ (100 ∣ year → 400 ∣ year)

instance (year : Int) : Decidable (IsLeap year) :=
  inferInstanceAs (Decidable (_ ∧ _))

/-- The days of a month. -/
def monthDays (year month : Int) : Int :=
  if month = 2 then if IsLeap year then 29 else 28
  else if month ∈ [4, 6, 9, 11] then 30 else 31

/-- The date is on the calendar. -/
structure IsProper (d : Date) : Prop where
  month : 1 ≤ d.month ∧ d.month ≤ 12
  day : 1 ≤ d.day ∧ d.day ≤ monthDays d.year d.month

/-- A year from March to February has a leap day if the second of its calendar years has one. -/
theorem marchDays_succ (year : Int) :
    marchDays (year + 1) = marchDays year + if IsLeap (year + 1) then 366 else 365 := by
  by_cases leap : IsLeap (year + 1)
  · rw [if_pos leap]
    simp only [IsLeap, marchDays] at leap ⊢
    omega
  · rw [if_neg leap]
    simp only [IsLeap, marchDays] at leap ⊢
    omega

/-- A day of a year from March to February has its date on the calendar. -/
theorem isProper_ofMarch {year day : Int} (nonneg : 0 ≤ day)
    (less : marchDays year + day < marchDays (year + 1)) : (ofMarch year day).IsProper := by
  have short : day < if IsLeap (year + 1) then 366 else 365 := by
    rw [marchDays_succ] at less
    omega
  obtain ⟨month, hmonth⟩ : ∃ month, month = (5 * day + 2) / 153 := ⟨_, rfl⟩
  have range : 0 ≤ month ∧ month < 12 := by
    split at short <;> omega
  obtain ⟨least, most⟩ := range
  constructor
  · simp only [ofMarch, ← hmonth]
    split <;> omega
  · simp only [ofMarch, ← hmonth, monthDays]
    by_cases leap : IsLeap (year + 1)
    · rw [if_pos leap] at short
      interval_cases month <;> simp [leap] <;> omega
    · rw [if_neg leap] at short
      interval_cases month <;> simp [leap] <;> omega

/-- Every date on the calendar is a day of a year from March to February. -/
theorem IsProper.exists_eq_ofMarch {d : Date} (h : d.IsProper) :
    ∃ year day, d = ofMarch year day ∧ 0 ≤ day ∧ marchDays year + day < marchDays (year + 1) := by
  obtain ⟨year, month, day⟩ := d
  obtain ⟨⟨first, last⟩, least, most⟩ := h
  simp only [monthDays] at first last least most
  refine ⟨if month ≤ 2 then year - 1 else year,
    (153 * (if month ≤ 2 then month + 9 else month - 3) + 2) / 5 + day - 1, ?_⟩
  rw [marchDays_succ]
  simp only [ofMarch]
  by_cases leap : IsLeap year
  · interval_cases month <;> simp [leap] at most ⊢ <;> omega
  · interval_cases month <;> simp [leap] at most ⊢ <;> omega

/-- **The date of a day is the one date on the calendar that is a date of that day.** -/
theorem ofDays_eq_iff {days : Int} {d : Date} :
    ofDays days = d ↔ d.IsProper ∧ d.toDays = days := by
  constructor
  · rintro rfl
    obtain ⟨year, day, date, split, nonneg, less⟩ := exists_ofDays_eq days
    refine ⟨?_, toDays_ofDays days⟩
    rw [date]
    exact isProper_ofMarch nonneg less
  · rintro ⟨proper, rfl⟩
    obtain ⟨year, day, rfl, nonneg, less⟩ := proper.exists_eq_ofMarch
    obtain ⟨year', day', date, split, nonneg', less'⟩ := exists_ofDays_eq (ofMarch year day).toDays
    have length := marchDays_succ_le year
    rw [toDays_ofMarch nonneg (by omega)] at split
    have sameYear : year' = year := by
      rcases lt_trichotomy year' year with before | same | after
      · have := marchDays_mono (Int.add_one_le_iff.mpr before)
        omega
      · exact same
      · have := marchDays_mono (Int.add_one_le_iff.mpr after)
        omega
    have sameDay : day' = day := by
      rw [sameYear] at split
      omega
    rw [date, sameYear, sameDay]

/-- The leap day of the year 2000. -/
example : ofDays 11016 = ⟨2000, 2, 29⟩ := by decide

end EventRoster.Date
