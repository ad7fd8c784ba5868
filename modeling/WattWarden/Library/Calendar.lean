import Mathlib.Algebra.Order.BigOperators.Group.List
import Mathlib.Data.Int.Interval
import Mathlib.Tactic.IntervalCases

/-!
# The proleptic Gregorian calendar

Civil dates and times over all years, and the count of days and seconds since the first of
January 1970.

* `IsLeap` / `monthLength` / `yearLength` — the rules of the calendar;
* `dayNumber` — days since 1970-01-01, as whole years, whole months and days;
* `daysBeforeYear_succ` / `daysBeforeMonth_succ` — **PROVED**: a year later are the days of the year
  more, a month later those of the month;
* `CivilTime` / `CivilTime.seconds` — a date with the time of day, and the seconds it stands for;
* `CivilTime.seconds_lt_iff` — **PROVED**: on valid civil times the order of the seconds is the
  lexicographic order of the fields.
-/

namespace Library.Calendar

/-! ### Years and months -/

/-- Every fourth year, of the centuries only every fourth. -/
def IsLeap (year : ℤ) : Prop := 4 ∣ year ∧ (100 ∣ year → 400 ∣ year)

instance (year : ℤ) : Decidable (IsLeap year) := inferInstanceAs (Decidable (_ ∧ _))

def yearLength (year : ℤ) : ℤ := if IsLeap year then 366 else 365

def monthLength (year month : ℤ) : ℤ :=
  if month = 2 then (if IsLeap year then 29 else 28)
  else if month = 4 ∨ month = 6 ∨ month = 9 ∨ month = 11 then 30
  else 31

theorem monthLength_pos (year month : ℤ) : 0 < monthLength year month := by
  simp only [monthLength]
  split_ifs <;> omega

/-- The days of the months of `year` before `month`. -/
def daysBeforeMonth (year month : ℤ) : ℤ :=
  ((List.range (month - 1).toNat).map fun k : ℕ => monthLength year (k + 1)).sum

/-- The days of the years from 1 to `year - 1`; for an earlier `year`, minus those from `year`
to 0. -/
def daysBeforeYear (year : ℤ) : ℤ :=
  365 * (year - 1) + (year - 1) / 4 - (year - 1) / 100 + (year - 1) / 400

theorem daysBeforeYear_succ (year : ℤ) :
    daysBeforeYear (year + 1) = daysBeforeYear year + yearLength year := by
  simp only [daysBeforeYear, yearLength, IsLeap]
  split_ifs with h
  · omega
  · by_cases h4 : 4 ∣ year
    · omega
    · omega

theorem daysBeforeYear_le {year year' : ℤ} (h : year ≤ year') :
    daysBeforeYear year ≤ daysBeforeYear year' := by
  simp only [daysBeforeYear]
  omega

@[simp] theorem daysBeforeMonth_one (year : ℤ) : daysBeforeMonth year 1 = 0 := rfl

theorem daysBeforeMonth_succ (year : ℤ) {month : ℤ} (h : 1 ≤ month) :
    daysBeforeMonth year (month + 1) = daysBeforeMonth year month + monthLength year month := by
  have hnat : (month + 1 - 1).toNat = (month - 1).toNat + 1 := by omega
  have hcast : (((month - 1).toNat : ℕ) : ℤ) + 1 = month := by omega
  rw [daysBeforeMonth, hnat, List.range_succ, List.map_append, List.sum_append, daysBeforeMonth,
    List.map_singleton, List.sum_singleton, hcast]

theorem daysBeforeMonth_le (year : ℤ) {month month' : ℤ} (h1 : 1 ≤ month) (h : month ≤ month') :
    daysBeforeMonth year month ≤ daysBeforeMonth year month' := by
  induction month', h using Int.leInduction with
  | base => rfl
  | succ k hk ih =>
    have hstep := daysBeforeMonth_succ year (show 1 ≤ k by omega)
    have hpos := monthLength_pos year k
    omega

/-- The twelve months make up the year. -/
theorem daysBeforeMonth_thirteen (year : ℤ) : daysBeforeMonth year 13 = yearLength year := by
  simp only [daysBeforeMonth, yearLength]
  by_cases h : IsLeap year
  · simp [List.range_succ, monthLength, h]
  · simp [List.range_succ, monthLength, h]

/-! ### Dates -/

/-- The fields name a day. -/
structure ValidDate (year month day : ℤ) : Prop where
  month_pos : 1 ≤ month
  month_le : month ≤ 12
  day_pos : 1 ≤ day
  day_le : day ≤ monthLength year month

/-- Days since 1970-01-01. -/
def dayNumber (year month day : ℤ) : ℤ :=
  daysBeforeYear year + daysBeforeMonth year month + (day - 1) - daysBeforeYear 1970

@[simp] theorem dayNumber_epoch : dayNumber 1970 1 1 = 0 := by
  simp [dayNumber]

/-- A day lies in its year: after the years before it, before the next one begins. -/
theorem ValidDate.dayOfYear_bounds {year month day : ℤ} (h : ValidDate year month day) :
    0 ≤ daysBeforeMonth year month + (day - 1) ∧
      daysBeforeMonth year month + (day - 1) < yearLength year := by
  have hfirst := daysBeforeMonth_le year (le_refl 1) h.month_pos
  have hnext := daysBeforeMonth_succ year h.month_pos
  have hpos := h.month_pos
  have hle := h.month_le
  have hlast := daysBeforeMonth_le year (show 1 ≤ month + 1 by omega) (show month + 1 ≤ 13 by omega)
  rw [daysBeforeMonth_thirteen] at hlast
  rw [daysBeforeMonth_one] at hfirst
  have := h.day_pos
  have := h.day_le
  omega

theorem dayNumber_lt_of_year {year month day year' month' day' : ℤ}
    (h : ValidDate year month day) (h' : ValidDate year' month' day') (hlt : year < year') :
    dayNumber year month day < dayNumber year' month' day' := by
  have hbelow := h.dayOfYear_bounds.2
  have habove := h'.dayOfYear_bounds.1
  have hyears := daysBeforeYear_le (show year + 1 ≤ year' by omega)
  rw [daysBeforeYear_succ] at hyears
  simp only [dayNumber]
  omega

theorem dayNumber_lt_of_month {year month day month' day' : ℤ}
    (h : ValidDate year month day) (h' : ValidDate year month' day') (hlt : month < month') :
    dayNumber year month day < dayNumber year month' day' := by
  have hpos := h.month_pos
  have hmonths := daysBeforeMonth_le year (show 1 ≤ month + 1 by omega)
    (show month + 1 ≤ month' by omega)
  rw [daysBeforeMonth_succ year h.month_pos] at hmonths
  have := h.day_le
  have := h'.day_pos
  simp only [dayNumber]
  omega

theorem dayNumber_lt_of_day (year month : ℤ) {day day' : ℤ} (hlt : day < day') :
    dayNumber year month day < dayNumber year month day' := by
  simp only [dayNumber]
  omega

/-! ### Civil times -/

/-- A date and a time of day. -/
structure CivilTime where
  year : ℤ
  month : ℤ
  day : ℤ
  hour : ℤ
  minute : ℤ
  second : ℤ
  deriving DecidableEq, Repr

namespace CivilTime

/-- A day of the calendar and a time of that day. -/
structure Valid (c : CivilTime) : Prop where
  date : ValidDate c.year c.month c.day
  hour : 0 ≤ c.hour ∧ c.hour < 24
  minute : 0 ≤ c.minute ∧ c.minute < 60
  second : 0 ≤ c.second ∧ c.second < 60

/-- Seconds since 1970-01-01T00:00:00. -/
def seconds (c : CivilTime) : ℤ :=
  86400 * dayNumber c.year c.month c.day + 3600 * c.hour + 60 * c.minute + c.second

/-- The fields from the largest to the smallest; lists are ordered lexicographically. -/
def fields (c : CivilTime) : List ℤ := [c.year, c.month, c.day, c.hour, c.minute, c.second]

theorem fields_injective : Function.Injective fields := by
  rintro ⟨year, month, day, hour, minute, second⟩ ⟨year', month', day', hour', minute', second'⟩ h
  simpa [fields] using h

/-- Of two valid times the one with the smaller fields is the earlier. -/
theorem seconds_lt_of_fields_lt {c c' : CivilTime} (h : c.Valid) (h' : c'.Valid)
    (hlt : c.fields < c'.fields) : c.seconds < c'.seconds := by
  have htime := h.hour
  have htime' := h'.hour
  have hminute := h.minute
  have hminute' := h'.minute
  have hsecond := h.second
  have hsecond' := h'.second
  simp only [fields, List.cons_lt_cons_iff, List.not_lt_nil, and_false, or_false] at hlt
  simp only [seconds]
  rcases hlt with hyear | ⟨hyear, hmonth | ⟨hmonth, hday | ⟨hday, hrest⟩⟩⟩
  · have := dayNumber_lt_of_year h.date h'.date hyear
    omega
  · have := dayNumber_lt_of_month h.date (hyear ▸ h'.date) hmonth
    rw [← hyear]
    omega
  · have := dayNumber_lt_of_day c.year c.month hday
    rw [← hyear, ← hmonth]
    omega
  · rw [← hyear, ← hmonth, ← hday]
    omega

/-- On valid times the order of the seconds is the lexicographic order of the fields. -/
theorem seconds_lt_iff {c c' : CivilTime} (h : c.Valid) (h' : c'.Valid) :
    c.seconds < c'.seconds ↔ c.fields < c'.fields := by
  refine ⟨fun hlt => ?_, seconds_lt_of_fields_lt h h'⟩
  rcases lt_trichotomy c.fields c'.fields with hless | heq | hgreater
  · exact hless
  · rw [fields_injective heq] at hlt
    exact absurd hlt (lt_irrefl _)
  · exact absurd hlt (lt_asymm (seconds_lt_of_fields_lt h' h hgreater))

end CivilTime

end Library.Calendar
