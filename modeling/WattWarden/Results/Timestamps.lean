import WattWarden.Daemon.HealthLog

/-!
# The timestamps of the health log are Gregorian UTC

`unix_to_iso_utc` counts its years from March, in cycles of 400.  Here that count is led back to
the calendar's own.

* `dayNumber_march` — **PROVED**: the day number of a date given as a month from March;
* `toCivil_valid` / `toCivil_seconds` — **PROVED**: the fields are a valid civil time and stand for
  the seconds they were computed from;
* `unixToIsoUtc_gregorian` — **PROVED**: on every 64-bit number of seconds nothing overflows, the
  fields are the Gregorian ones, and their order is the order of the seconds.
-/

namespace WattWarden

open Library.Calendar

/-- Days since 1970-01-01 of the first of March. -/
def marchFirst (march : ℤ) : ℤ := 365 * march + march / 4 - march / 100 + march / 400 - 719468

/-- March begins after the 59 or 60 days of January and February. -/
theorem daysBeforeYear_march (year : ℤ) :
    daysBeforeYear year + yearLength year - 306 - daysBeforeYear 1970 = marchFirst year := by
  have h := daysBeforeYear_succ year
  simp only [daysBeforeYear, marchFirst] at h ⊢
  omega

/-- The thirds of 153 days that `mp` counts are the lengths of the months from March to January. -/
theorem monthLength_march (year : ℤ) {mp : ℤ} (hlo : 0 ≤ mp) (hhi : mp ≤ 10) :
    monthLength year (civilMonth mp) = marchDaysBefore (mp + 1) - marchDaysBefore mp := by
  interval_cases mp <;> rfl

theorem daysBeforeMonth_march (year : ℤ) {mp : ℤ} (hlo : 0 ≤ mp) (hhi : mp ≤ 9) :
    daysBeforeMonth year (mp + 3) = yearLength year - 306 + marchDaysBefore mp := by
  induction mp, hlo using Int.leInduction with
  | base =>
    simp only [daysBeforeMonth, yearLength]
    by_cases h : IsLeap year
    · simp [List.range_succ, monthLength, h, marchDaysBefore]
    · simp [List.range_succ, monthLength, h, marchDaysBefore]
  | succ mp hmp ih =>
    have hlength := monthLength_march year hmp (by omega)
    have hmonth : civilMonth mp = mp + 3 := if_pos (by omega)
    have hstep := daysBeforeMonth_succ year (show 1 ≤ mp + 3 by omega)
    rw [hmonth] at hlength
    rw [show mp + 1 + 3 = mp + 3 + 1 by omega, hstep, ih (by omega), hlength]
    omega

/-- The day number of a date given by its year and month from March. -/
theorem dayNumber_march {march mp : ℤ} (hlo : 0 ≤ mp) (hhi : mp ≤ 11) (day : ℤ) :
    dayNumber (civilYear march mp) (civilMonth mp) day
      = marchFirst march + marchDaysBefore mp + (day - 1) := by
  have hmarch := daysBeforeYear_march march
  by_cases h : mp ≤ 9
  · have hmonth : civilMonth mp = mp + 3 := if_pos (by omega)
    have hyear : civilYear march mp = march := by rw [civilYear, hmonth, if_neg (by omega), add_zero]
    rw [dayNumber, hyear, hmonth, daysBeforeMonth_march march hlo h]
    omega
  · have hnext := daysBeforeYear_succ march
    have hjanuary := daysBeforeMonth_succ (march + 1) (le_refl 1)
    rw [daysBeforeMonth_one] at hjanuary
    obtain rfl | rfl : mp = 10 ∨ mp = 11 := by omega
    · show dayNumber (march + 1) 1 day = marchFirst march + 306 + (day - 1)
      rw [dayNumber, daysBeforeMonth_one]
      omega
    · show dayNumber (march + 1) (1 + 1) day = marchFirst march + 337 + (day - 1)
      rw [dayNumber, hjanuary, show monthLength (march + 1) 1 = 31 from rfl]
      omega

/-- A day of the year from March falls into its month; the leap day needs a leap February. -/
theorem marchMonth_spec {march doy : ℤ} (hlo : 0 ≤ doy) (hhi : doy ≤ 365)
    (hleap : doy = 365 → IsLeap (march + 1)) :
    ValidDate (civilYear march (marchMonth doy)) (civilMonth (marchMonth doy))
      (doy - marchDaysBefore (marchMonth doy) + 1) := by
  obtain ⟨mp, hmp⟩ : ∃ mp, mp = marchMonth doy := ⟨_, rfl⟩
  rw [← hmp]
  rw [marchMonth] at hmp
  have hrange : 0 ≤ mp ∧ mp ≤ 11 := by omega
  have hstarted : marchDaysBefore mp ≤ doy := by simp only [marchDaysBefore]; omega
  refine ⟨?_, ?_, by omega, ?_⟩
  · simp only [civilMonth]
    split_ifs <;> omega
  · simp only [civilMonth]
    split_ifs <;> omega
  · by_cases h : mp ≤ 10
    · rw [monthLength_march _ hrange.1 h]
      simp only [marchDaysBefore]
      omega
    · obtain rfl : mp = 11 := by omega
      show doy - 337 + 1 ≤ if IsLeap (march + 1) then 29 else 28
      split_ifs with hyear
      · omega
      · have : doy ≠ 365 := fun hd => hyear (hleap hd)
        omega

/-! ### The fields -/

theorem toCivil_valid (secs : ℤ) : (toCivil secs).Valid := by
  obtain ⟨z, hz⟩ : ∃ z, z = secs / 86400 + 719468 := ⟨_, rfl⟩
  obtain ⟨-, hdoy, hdoy', hleap⟩ := yearOfEra_spec (show 0 ≤ z % 146097 by omega) (by omega)
  refine ⟨?_, ?_, ?_, ?_⟩
  · simp only [toCivil, ← hz]
    refine marchMonth_spec hdoy hdoy' fun h365 => ?_
    have hyear := hleap h365
    rw [IsLeap] at hyear ⊢
    omega
  all_goals
    simp only [toCivil]
    omega

theorem toCivil_seconds (secs : ℤ) : (toCivil secs).seconds = secs := by
  obtain ⟨z, hz⟩ : ∃ z, z = secs / 86400 + 719468 := ⟨_, rfl⟩
  obtain ⟨⟨hyoe, hyoe'⟩, hdoy, hdoy', -⟩ :=
    yearOfEra_spec (show 0 ≤ z % 146097 by omega) (by omega)
  simp only [CivilTime.seconds, toCivil, ← hz]
  rw [dayNumber_march]
  · simp only [marchFirst, eraDaysBefore]
    omega
  · rw [marchMonth]
    omega
  · rw [marchMonth]
    omega

/-- No operation overflows. -/
theorem isoFields_eq {secs : ℤ} (h : IsI64 secs) : isoFields secs = some (toCivil secs) := by
  obtain ⟨hlo, hhi⟩ := h
  obtain ⟨hyoe, hdoy, hdoy', -⟩ :=
    yearOfEra_spec (show 0 ≤ (secs / 86400 + 719468) % 146097 by omega) (by omega)
  have hhour : (secs % 86400).tdiv 3600 = secs % 86400 / 3600 :=
    Int.tdiv_eq_ediv_of_nonneg (by omega)
  have hsecond : (secs % 86400).tmod 60 = secs % 86400 % 60 :=
    Int.tmod_eq_emod_of_nonneg (by omega)
  refine bind_of_eq_some (i64_eq (by omega) (by omega)) ?_
  refine bind_of_eq_some (i64_eq (by omega) (by omega)) ?_
  rw [hhour, hsecond]
  refine bind_of_eq_some (i64_eq (by omega) (by omega)) ?_
  refine bind_of_eq_some (minuteOf_eq (by omega)) ?_
  refine bind_of_eq_some (i64_eq (by omega) (by omega)) ?_
  refine bind_of_eq_some (i64_eq (by omega) (by omega)) ?_
  refine bind_of_eq_some (i64_eq (by omega) (by omega)) ?_
  refine bind_of_eq_some (i64_eq (by omega) (by omega)) ?_
  refine bind_of_eq_some (yoeOf_eq (by omega) (by omega)) ?_
  refine bind_of_eq_some (doyOf_eq (by omega) (by omega) hyoe.1 hyoe.2) ?_
  refine bind_of_eq_some (mpOf_eq hdoy hdoy') ?_
  obtain ⟨mp, hmp⟩ : ∃ mp, mp = marchMonth ((secs / 86400 + 719468) % 146097 -
    eraDaysBefore (yearOfEra ((secs / 86400 + 719468) % 146097))) := ⟨_, rfl⟩
  have hmp' : 0 ≤ mp ∧ mp ≤ 11 := by rw [hmp, marchMonth]; omega
  have hmonth : -2 ^ 63 ≤ civilMonth mp ∧ civilMonth mp < 2 ^ 63 := by
    simp only [civilMonth]
    split_ifs <;> omega
  rw [← hmp]
  refine bind_of_eq_some (dayOf_eq hdoy hdoy' hmp'.1 hmp'.2) ?_
  refine bind_of_eq_some (i64_eq hmonth.1 hmonth.2) ?_
  refine bind_of_eq_some (yearOf_eq hyoe.1 hyoe.2 (by omega)) ?_
  simp only [toCivil, ← hmp]
  rfl

/-- The health log's timestamp of a 64-bit number of seconds is their Gregorian UTC time, computed
without overflow; earlier seconds have smaller fields and different seconds different ones. -/
theorem unixToIsoUtc_gregorian {secs : ℤ} (h : IsI64 secs) :
    ∃ c, isoFields secs = some c ∧ unixToIsoUtc secs = some (isoText c) ∧ c.Valid ∧
      c.seconds = secs ∧
      ∀ secs' c', IsI64 secs' → isoFields secs' = some c' →
        (c.fields < c'.fields ↔ secs < secs') ∧ (c.fields = c'.fields ↔ secs = secs') := by
  have heq := isoFields_eq h
  refine ⟨toCivil secs, heq, congrArg (Option.map isoText) heq, toCivil_valid secs,
    toCivil_seconds secs, fun secs' c' h' hc' => ?_⟩
  obtain rfl : toCivil secs' = c' := Option.some_inj.mp ((isoFields_eq h').symm.trans hc')
  refine ⟨?_, fun hfields => ?_, fun hsecs => by rw [hsecs]⟩
  · rw [← CivilTime.seconds_lt_iff (toCivil_valid secs) (toCivil_valid secs'), toCivil_seconds,
      toCivil_seconds]
  · have hcivil := CivilTime.fields_injective hfields
    rw [← toCivil_seconds secs, hcivil, toCivil_seconds]

/-- The last second of the year before the era of the Unix clock. -/
theorem unixToIsoUtc_gregorian_new_year :
    ∃ c, isoFields (-1) = some c ∧ unixToIsoUtc (-1) = some (isoText c) ∧ c.Valid ∧
      c.seconds = -1 ∧
      ∀ secs' c', IsI64 secs' → isoFields secs' = some c' →
        (c.fields < c'.fields ↔ -1 < secs') ∧ (c.fields = c'.fields ↔ -1 = secs') :=
  unixToIsoUtc_gregorian (by decide)

example : unixToIsoUtc 1709164800 = some "2024-02-29T00:00:00" := by decide

end WattWarden
