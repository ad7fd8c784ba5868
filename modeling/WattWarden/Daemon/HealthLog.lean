import WattWarden.Library.Calendar
import WattWarden.Library.Numerals

/-!
# The timestamps of the health log

`unix_to_iso_utc` of the daemon, operation by operation: each intermediate value goes through
`i64`, which is `none` where the operation would overflow.  The fields first, the text from them.

* `isoFields` / `isoText` / `unixToIsoUtc` — the source's function;
* `toCivil` — the same arithmetic without the overflow checks;
* `yearOfEra_spec` — **PROVED**: the corrected quotient is the year of the era a day lies in.
-/

namespace WattWarden

open Library.Calendar Library.Numerals

/-- A 64-bit signed integer. -/
def IsI64 (x : ℤ) : Prop := -2 ^ 63 ≤ x ∧ x < 2 ^ 63

instance (x : ℤ) : Decidable (IsI64 x) := inferInstanceAs (Decidable (_ ∧ _))

/-- The result of an operation on `i64`, when it fits. -/
def i64 (x : ℤ) : Option ℤ := if IsI64 x then some x else none

theorem i64_eq {x : ℤ} (hlo : -2 ^ 63 ≤ x) (hhi : x < 2 ^ 63) : i64 x = some x :=
  if_pos ⟨hlo, hhi⟩

/-- `yoe`: the year of the era, from the day of the era. -/
def yoeOf (doe : ℤ) : Option ℤ := do
  let less ← i64 (doe - (← i64 (doe.tdiv 1460)))
  let more ← i64 (less + (← i64 (doe.tdiv 36524)))
  let days ← i64 (more - (← i64 (doe.tdiv 146096)))
  i64 (days.tdiv 365)

/-- `doy`: the day of the year from March. -/
def doyOf (doe yoe : ℤ) : Option ℤ := do
  let years ← i64 (365 * yoe)
  let more ← i64 (years + (← i64 (yoe.tdiv 4)))
  let started ← i64 (more - (← i64 (yoe.tdiv 100)))
  i64 (doe - started)

/-- `mp`: the month from March. -/
def mpOf (doy : ℤ) : Option ℤ := do
  let scaled ← i64 (5 * doy)
  i64 ((← i64 (scaled + 2)).tdiv 153)

/-- `d`: the day of the month. -/
def dayOf (doy mp : ℤ) : Option ℤ := do
  let scaled ← i64 (153 * mp)
  let before ← i64 ((← i64 (scaled + 2)).tdiv 5)
  i64 ((← i64 (doy - before)) + 1)

/-- `m`: the minute of the hour, from the second of the day. -/
def minuteOf (rem : ℤ) : Option ℤ := do
  i64 ((← i64 (rem.tmod 3600)).tdiv 60)

def yearOf (yoe era month : ℤ) : Option ℤ := do
  let march ← i64 (yoe + (← i64 (era * 400)))
  i64 (march + (if month ≤ 2 then 1 else 0))

/-- A step of a checked computation whose result is known. -/
theorem bind_of_eq_some {α β : Type} {x : Option α} {a : α} {f : α → Option β} {r : Option β}
    (hx : x = some a) (hf : f a = r) : (x >>= f) = r := by
  rw [hx]
  exact hf

/-- The fields `unix_to_iso_utc` computes; `none` when an operation overflows. -/
def isoFields (secs : ℤ) : Option CivilTime := do
  let days ← i64 (secs / 86400)
  let rem ← i64 (secs % 86400)
  let h ← i64 (rem.tdiv 3600)
  let m ← minuteOf rem
  let s ← i64 (rem.tmod 60)
  let z ← i64 (days + 719468)
  let era ← i64 (z / 146097)
  let doe ← i64 (z % 146097)
  let yoe ← yoeOf doe
  let doy ← doyOf doe yoe
  let mp ← mpOf doy
  let d ← dayOf doy mp
  let month ← i64 (if mp < 10 then mp + 3 else mp - 9)
  let year ← yearOf yoe era month
  return ⟨year, month, d, h, m, s⟩

/-- `{n:0width}`: zeros between the sign and the digits, up to `width` characters in all. -/
def zeroPadded (width : ℕ) (n : ℤ) : String :=
  let sign := if n < 0 then "-" else ""
  let digits := decimal n.natAbs
  sign ++ String.ofList (List.replicate (width - sign.length - digits.length) '0') ++ digits

def isoText (c : CivilTime) : String :=
  zeroPadded 4 c.year ++ "-" ++ zeroPadded 2 c.month ++ "-" ++ zeroPadded 2 c.day ++ "T" ++
    zeroPadded 2 c.hour ++ ":" ++ zeroPadded 2 c.minute ++ ":" ++ zeroPadded 2 c.second

def unixToIsoUtc (secs : ℤ) : Option String := (isoFields secs).map isoText

/-! ### The arithmetic without the checks -/

def yearOfEra (doe : ℤ) : ℤ := (doe - doe / 1460 + doe / 36524 - doe / 146096) / 365

/-- The days of an era before its `yoe`-th year from March. -/
def eraDaysBefore (yoe : ℤ) : ℤ := 365 * yoe + yoe / 4 - yoe / 100

def marchMonth (doy : ℤ) : ℤ := (5 * doy + 2) / 153

/-- The days from the first of March to the `mp`-th month after it. -/
def marchDaysBefore (mp : ℤ) : ℤ := (153 * mp + 2) / 5

/-- January is the eleventh month from March. -/
def civilMonth (mp : ℤ) : ℤ := if mp < 10 then mp + 3 else mp - 9

def civilYear (march mp : ℤ) : ℤ := march + (if civilMonth mp ≤ 2 then 1 else 0)

def toCivil (secs : ℤ) : CivilTime :=
  let z := secs / 86400 + 719468
  let rem := secs % 86400
  let yoe := yearOfEra (z % 146097)
  let doy := z % 146097 - eraDaysBefore yoe
  let mp := marchMonth doy
  { year := civilYear (yoe + z / 146097 * 400) mp
    month := civilMonth mp
    day := doy - marchDaysBefore mp + 1
    hour := rem / 3600
    minute := rem % 3600 / 60
    second := rem % 60 }

/-- The operations on values known not to be negative, as they are written there. -/
theorem yoeOf_eq {doe : ℤ} (hlo : 0 ≤ doe) (hhi : doe < 146097) :
    yoeOf doe = some (yearOfEra doe) := by
  simp (disch := omega) only [yoeOf, yearOfEra, i64_eq, Int.tdiv_eq_ediv_of_nonneg,
    Option.bind_eq_bind, Option.bind_some]

theorem doyOf_eq {doe yoe : ℤ} (hlo : 0 ≤ doe) (hhi : doe < 146097) (hyoe : 0 ≤ yoe)
    (hyoe' : yoe < 400) : doyOf doe yoe = some (doe - eraDaysBefore yoe) := by
  simp (disch := omega) only [doyOf, eraDaysBefore, i64_eq, Int.tdiv_eq_ediv_of_nonneg,
    Option.bind_eq_bind, Option.bind_some]

theorem mpOf_eq {doy : ℤ} (hlo : 0 ≤ doy) (hhi : doy ≤ 365) :
    mpOf doy = some (marchMonth doy) := by
  simp (disch := omega) only [mpOf, marchMonth, i64_eq, Int.tdiv_eq_ediv_of_nonneg,
    Option.bind_eq_bind, Option.bind_some]

theorem dayOf_eq {doy mp : ℤ} (hlo : 0 ≤ doy) (hhi : doy ≤ 365) (hmp : 0 ≤ mp) (hmp' : mp ≤ 11) :
    dayOf doy mp = some (doy - marchDaysBefore mp + 1) := by
  simp (disch := omega) only [dayOf, marchDaysBefore, i64_eq, Int.tdiv_eq_ediv_of_nonneg,
    Option.bind_eq_bind, Option.bind_some]

theorem minuteOf_eq {rem : ℤ} (hlo : 0 ≤ rem) :
    minuteOf rem = some (rem % 3600 / 60) := by
  simp (disch := omega) only [minuteOf, i64_eq, Int.tdiv_eq_ediv_of_nonneg,
    Int.tmod_eq_emod_of_nonneg, Option.bind_eq_bind, Option.bind_some]

theorem yearOf_eq {yoe era mp : ℤ} (hyoe : 0 ≤ yoe) (hyoe' : yoe < 400)
    (hera : -2 ^ 48 ≤ era ∧ era ≤ 2 ^ 48) :
    yearOf yoe era (civilMonth mp) = some (civilYear (yoe + era * 400) mp) := by
  have hleap : 0 ≤ (if civilMonth mp ≤ 2 then 1 else 0 : ℤ) ∧
      (if civilMonth mp ≤ 2 then 1 else 0 : ℤ) ≤ 1 := by
    split_ifs <;> omega
  simp (disch := omega) only [yearOf, civilYear, i64_eq, Option.bind_eq_bind, Option.bind_some]

/-! ### The year of the era -/

/-- A day of the era before its last one, in centuries, cycles of four years and years: only the
fourth year of a cycle has a last day, and the last cycle of a century none. -/
theorem exists_cycles {doe : ℤ} (hlo : 0 ≤ doe) (hhi : doe < 146096) :
    ∃ century cycle year day, (0 ≤ century ∧ century ≤ 3) ∧ (0 ≤ cycle ∧ cycle ≤ 24) ∧
      (0 ≤ year ∧ year ≤ 3) ∧ (0 ≤ day ∧ day ≤ 365) ∧ (day = 365 → year = 3 ∧ cycle < 24) ∧
      doe = 36524 * century + 1461 * cycle + 365 * year + day := by
  refine ⟨doe / 36524, doe % 36524 / 1461, min 3 (doe % 36524 % 1461 / 365),
    doe % 36524 % 1461 - 365 * min 3 (doe % 36524 % 1461 / 365), ?_⟩
  omega

/-- The three corrections leave 365 days for each year that is over. -/
theorem yearOfEra_cycles {century cycle year day : ℤ} (hcentury : 0 ≤ century ∧ century ≤ 3)
    (hcycle : 0 ≤ cycle ∧ cycle ≤ 24) (hyear : 0 ≤ year ∧ year ≤ 3) (hday : 0 ≤ day ∧ day ≤ 365)
    (hleap : day = 365 → year = 3 ∧ cycle < 24) :
    yearOfEra (36524 * century + 1461 * cycle + 365 * year + day)
      = 100 * century + 4 * cycle + year := by
  obtain ⟨doe, hdoe⟩ : ∃ doe, doe = 36524 * century + 1461 * cycle + 365 * year + day := ⟨_, rfl⟩
  rw [← hdoe, yearOfEra]
  have hcenturies : doe / 36524 = century := by omega
  have hera : doe / 146096 = 0 := by omega
  have hlow : cycle ≤ doe / 1460 - 25 * century := by omega
  have hhigh : doe / 1460 - 25 * century ≤ cycle + 1 := by omega
  -- the quotient runs ahead of the cycles only in the last year of one
  have hexact : year ≤ 2 → doe / 1460 - 25 * century = cycle := by omega
  omega

theorem eraDaysBefore_cycles {century cycle year : ℤ} (hcycle : 0 ≤ cycle ∧ cycle ≤ 24)
    (hyear : 0 ≤ year ∧ year ≤ 3) :
    eraDaysBefore (100 * century + 4 * cycle + year)
      = 36524 * century + 1461 * cycle + 365 * year := by
  have hcenturies : (100 * century + 4 * cycle + year) / 100 = century := by omega
  have hcycles : (100 * century + 4 * cycle + year) / 4 = 25 * century + cycle := by omega
  rw [eraDaysBefore, hcenturies, hcycles]
  omega

/-- `yearOfEra` finds the year of the era that the day lies in: a leap day, where there is one, is
the last day of a year from March. -/
theorem yearOfEra_spec {doe : ℤ} (hlo : 0 ≤ doe) (hhi : doe < 146097) :
    (0 ≤ yearOfEra doe ∧ yearOfEra doe < 400) ∧
      0 ≤ doe - eraDaysBefore (yearOfEra doe) ∧ doe - eraDaysBefore (yearOfEra doe) ≤ 365 ∧
      (doe - eraDaysBefore (yearOfEra doe) = 365 → IsLeap (yearOfEra doe + 1)) := by
  by_cases hlast : doe = 146096
  · subst hlast
    decide
  · obtain ⟨century, cycle, year, day, hcentury, hcycle, hyear, hday, hleap, rfl⟩ :=
      exists_cycles hlo (by omega)
    rw [yearOfEra_cycles hcentury hcycle hyear hday hleap,
      eraDaysBefore_cycles hcycle hyear]
    refine ⟨by omega, by omega, by omega, fun h365 => ?_⟩
    have := hleap (by omega)
    rw [IsLeap]
    omega

end WattWarden
