import CommonChangelog.Timestamp
import Mathlib.Order.Monotone.Basic

/-!
# The calendar goes forward

A later day has a later date. The days are cut into eras of 400 years, an era into years that begin
in March, and such a year into months. On each level what is later lies in a later part, or later in
the same part.

Main result: `Timestamp.place_le_place_iff`.
-/

namespace CommonChangelog.Timestamp

/-! ## Years of an era -/

/-- The year of the era that a day of it is in. -/
def yearOfEra (day : Int) : Int := (day - day / 1460 + day / 36524 - day / 146096) / 365

/-- The days of the era before a year. -/
def daysBefore (year : Int) : Int := 365 * year + year / 4 - year / 100

theorem yearOfEra_mono {a b : Int} (h : a ≤ b) : yearOfEra a ≤ yearOfEra b := by
  refine monotone_int_of_le_succ (fun day => ?_) h
  have hstep : day - day / 1460 + day / 36524 - day / 146096 ≤
      day + 1 - (day + 1) / 1460 + (day + 1) / 36524 - (day + 1) / 146096 := by omega
  unfold yearOfEra
  omega

/-- The year of a day is one of 400, and the day one of at most 366 in it. -/
theorem yearOfEra_spec {day : Int} (hfirst : 0 ≤ day) (hlast : day ≤ 146096) :
    0 ≤ yearOfEra day ∧ yearOfEra day ≤ 399 ∧
      0 ≤ day - daysBefore (yearOfEra day) ∧ day - daysBefore (yearOfEra day) ≤ 365 := by
  obtain ⟨year, hyear⟩ : ∃ year, year = yearOfEra day := ⟨_, rfl⟩
  have heq : year = (day - day / 1460 + day / 36524 - day / 146096) / 365 := hyear
  have hcentury : year / 100 = 0 ∨ year / 100 = 1 ∨ year / 100 = 2 ∨ year / 100 = 3 := by omega
  -- There are four years to 1460 days, up to the leap days in front of them.
  have hfour : year / 4 + 1 = day / 1460 ∨ year / 4 = day / 1460 ∨
      year / 4 = day / 1460 + 1 := by
    rcases hcentury with h | h | h | h <;> omega
  rw [← hyear]
  unfold daysBefore
  rcases hfour with h | h | h <;> rcases hcentury with h' | h' | h' | h' <;> omega

/-! ## Months of a year -/

/-- The date of a day of a year that begins in March. -/
def dateOfYear (year day : Int) : Date :=
  let marchMonth := (5 * day + 2) / 153
  let month := if marchMonth < 10 then marchMonth + 3 else marchMonth - 9
  ⟨year + (if month ≤ 2 then 1 else 0), month, day - (153 * marchMonth + 2) / 5 + 1⟩

/-- A number that puts dates in their order: months follow each other at a distance of 32. -/
def Date.place (date : Date) : Int := 32 * (12 * date.year + date.month) + date.day

/-- The date has a month of a year and a day of a month. -/
structure Date.Regular (date : Date) : Prop where
  month_pos : 1 ≤ date.month
  month_le : date.month ≤ 12
  day_pos : 1 ≤ date.day
  day_le : date.day ≤ 31

variable {year day : Int}

theorem regular_dateOfYear (hfirst : 0 ≤ day) (hlast : day ≤ 365) :
    (dateOfYear year day).Regular := by
  constructor
  all_goals
    simp only [dateOfYear]
    omega

theorem place_dateOfYear (hfirst : 0 ≤ day) (hlast : day ≤ 365) :
    (dateOfYear year day).place =
      32 * (12 * year + (5 * day + 2) / 153 + 3) +
        (day - (153 * ((5 * day + 2) / 153) + 2) / 5 + 1) := by
  simp only [dateOfYear, Date.place]
  omega

theorem place_dateOfYear_lt {year' day' : Int} (hfirst : 0 ≤ day) (hlast : day ≤ 365)
    (hfirst' : 0 ≤ day') (hlast' : day' ≤ 365) (h : year < year' ∨ year = year' ∧ day < day') :
    (dateOfYear year day).place < (dateOfYear year' day').place := by
  rw [place_dateOfYear hfirst hlast, place_dateOfYear hfirst' hlast']
  have hmonth : day < day' → (5 * day + 2) / 153 < (5 * day' + 2) / 153 ∨
      (5 * day + 2) / 153 = (5 * day' + 2) / 153 := by omega
  rcases h with h | ⟨rfl, h⟩
  · omega
  · rcases hmonth h with hmonth | hmonth <;> omega

/-! ## Days -/

theorem dateOfDays_eq (days : Int) :
    dateOfDays days =
      dateOfYear (yearOfEra ((days + 719468) % 146097) + (days + 719468) / 146097 * 400)
        ((days + 719468) % 146097 - daysBefore (yearOfEra ((days + 719468) % 146097))) := by
  rw [dateOfDays, Int.fdiv_eq_ediv_of_nonneg _ (by decide),
    Int.fmod_eq_emod_of_nonneg _ (by decide)]
  rfl

theorem regular_dateOfDays (days : Int) : (dateOfDays days).Regular := by
  obtain ⟨-, -, hfirst, hlast⟩ := yearOfEra_spec
    (show 0 ≤ (days + 719468) % 146097 by omega) (by omega)
  rw [dateOfDays_eq]
  exact regular_dateOfYear hfirst hlast

theorem place_lt_place {a b : Int} (h : a < b) : (dateOfDays a).place < (dateOfDays b).place := by
  obtain ⟨day, hday⟩ : ∃ day, day = (a + 719468) % 146097 := ⟨_, rfl⟩
  obtain ⟨day', hday'⟩ : ∃ day, day = (b + 719468) % 146097 := ⟨_, rfl⟩
  obtain ⟨hyear, hyears, hfirst, hlast⟩ := yearOfEra_spec (show 0 ≤ day by omega) (by omega)
  obtain ⟨hyear', hyears', hfirst', hlast'⟩ := yearOfEra_spec (show 0 ≤ day' by omega) (by omega)
  rw [dateOfDays_eq, dateOfDays_eq, ← hday, ← hday']
  refine place_dateOfYear_lt hfirst hlast hfirst' hlast' ?_
  rcases Int.lt_or_eq_of_le (show (a + 719468) / 146097 ≤ (b + 719468) / 146097 by omega) with
    hera | hera
  · exact .inl (by omega)
  · have hle : yearOfEra day ≤ yearOfEra day' := yearOfEra_mono (by omega)
    rcases Int.lt_or_eq_of_le hle with hlt | heq
    · exact .inl (by omega)
    · refine .inr ⟨by omega, ?_⟩
      rw [heq]
      omega

/-- **Dates stand in the order of their days.** -/
theorem place_le_place_iff (a b : Int) : (dateOfDays a).place ≤ (dateOfDays b).place ↔ a ≤ b := by
  rcases Int.lt_trichotomy a b with h | rfl | h
  · exact iff_of_true (Int.le_of_lt (place_lt_place h)) (Int.le_of_lt h)
  · exact iff_of_true (Int.le_refl _) (Int.le_refl _)
  · exact iff_of_false (Int.not_le.2 (place_lt_place h)) (Int.not_le.2 h)

end CommonChangelog.Timestamp
