import WattWarden.Platform.Estimate
import WattWarden.Results.HealthRows

/-!
# What the summary line says of the battery

The time and the power on the summary line come from two functions that try the same four readings,
in different orders, and compute in double precision.  Each takes all its numbers from one reading;
where both take the same one, and it holds whole numbers, the time multiplied by the power is what is
stored, but for the rounding.

* `Reading` / `Reading.texts` — files or lines of `uevent`, energies or charges;
* `timeRemaining_eq`, `consumptionWatts_eq` — **PROVED**: each function takes the first reading that
  serves, in its order;
* `readMinutes_formatHours`, `minutesOf_eq` — **PROVED**: what minutes are printed;
* `Reading.Whole` / `approx_hours`, `approx_watts` — **PROVED**: the two figures of whole numbers;
* `summary_consistent` — **PROVED**: what the two figures say.
-/

namespace WattWarden

open Library.Binary64 Library.DigitRuns Library.FileTree Library.Numerals Library.TextSearch
  Library.Truncation

/-! ### A printed time -/

section Printed

/-- The cast of a number in range. -/
theorem asI64_eq {x : Double} {q : ℚ} (hx : x.exact = some q) (hq : 0 ≤ q) (hlt : q < 2 ^ 63) :
    asI64 x = ⌊q⌋ := by
  have hfloor : 0 ≤ ⌊q⌋ := Int.floor_nonneg.mpr hq
  have hfloor' : ⌊q⌋ < 2 ^ 63 := Int.floor_lt.mpr (by exact_mod_cast hlt)
  rw [asI64, Double.toSigned_eq hx, truncated_of_nonneg hq]
  exact clamp_eq_self (by omega) (by push_cast; omega)

/-- Digits without a sign. -/
theorem parseSigned_of_digits {bound n : ℕ} {text : String} (hdigits : AllDigits text.toList)
    (hparse : parseDigits text.toList = some n) (hn : n < bound) :
    parseSigned bound text = some (n : ℤ) := by
  rw [parseSigned]
  split
  · rename_i cs heq
    have hminus := hdigits '-' (by simp [heq])
    simp at hminus
  · rename_i cs heq
    have hplus := hdigits '+' (by simp [heq])
    simp at hplus
  · simp [hparse, hn]

theorem toList_zeroPadded_neg {n : ℤ} (h : n < 0) (width : ℕ) :
    (zeroPadded width n).toList = '-' :: (zeroPadded (width - 1) (-n)).toList := by
  have hneg : ¬-n < 0 := by omega
  rw [zeroPadded, zeroPadded, if_pos h, if_neg hneg, Int.natAbs_neg]
  simp only [String.toList_append, String.toList_ofList]
  rfl

/-- **A padded number reads back.** -/
theorem parseSigned_zeroPadded {n : ℤ} (h : |n| < 2 ^ 63) (width : ℕ) :
    parseSigned (2 ^ 63) (zeroPadded width n) = some n := by
  rw [abs_lt] at h
  rcases lt_or_ge n 0 with hneg | hpos
  · obtain ⟨-, hparse⟩ := zeroPadded_digits (width - 1) (n := -n) (by omega)
    have hle : (-n).toNat ≤ 2 ^ 63 := by omega
    rw [parseSigned, toList_zeroPadded_neg hneg]
    simp only [hparse, Option.filter_some, hle, decide_true, if_true, Option.map_some]
    rw [Int.toNat_of_nonneg (by omega), neg_neg]
  · obtain ⟨hdigits, hparse⟩ := zeroPadded_digits width hpos
    rw [parseSigned_of_digits hdigits hparse (by omega), Int.toNat_of_nonneg hpos]

theorem mem_zeroPadded {width : ℕ} {n : ℤ} {c : Char} (h : c ∈ (zeroPadded width n).toList) :
    c = '-' ∨ c.isDigit = true := by
  rcases lt_or_ge n 0 with hneg | hpos
  · rw [toList_zeroPadded_neg hneg] at h
    rcases List.mem_cons.mp h with rfl | h
    · exact .inl rfl
    · exact .inr ((zeroPadded_digits (width - 1) (n := -n) (by omega)).1 c h)
  · exact .inr ((zeroPadded_digits width hpos).1 c h)

theorem toString_eq_zeroPadded (n : ℤ) : toString n = zeroPadded 0 n := by
  apply String.toList_inj.mp
  cases n with
  | ofNat n =>
    rw [zeroPadded, if_neg (by simp), Nat.zero_sub, Nat.zero_sub, List.replicate_zero]
    simp only [String.toList_append, String.toList_ofList]
    rfl
  | negSucc n =>
    rw [toList_negSucc, toList_zeroPadded_neg (Int.negSucc_lt_zero n), Int.neg_negSucc, zeroPadded,
      if_neg (by omega), Nat.zero_sub, Nat.zero_sub, List.replicate_zero]
    simp only [String.toList_append, String.toList_ofList]
    rfl

/-- Reads `{h}h {m:02}m`. -/
def readMinutes (text : String) : Option ℤ := do
  let (hours, rest) ← splitOnce 'h' text.toList
  let (minutes, _) ← splitOnce 'm' (rest.drop 1)
  return 60 * (← parseSigned (2 ^ 63) (String.ofList hours)) +
    (← parseSigned (2 ^ 63) (String.ofList minutes))

/-- A text of hours and minutes reads back. -/
theorem readMinutes_text {h m : ℤ} (hh : |h| < 2 ^ 63) (hm : |m| < 2 ^ 63) :
    readMinutes (toString h ++ "h " ++ zeroPadded 2 m ++ "m") = some (60 * h + m) := by
  have hfirst : ∀ c, c.isDigit = false → c ≠ '-' → ∀ width n, c ∉ (zeroPadded width n).toList := by
    intro c hdigit hminus width n hmem
    rcases mem_zeroPadded hmem with heq | hc
    · exact hminus heq
    · rw [hdigit] at hc
      cases hc
  have hsplit : splitOnce 'h' (toString h ++ "h " ++ zeroPadded 2 m ++ "m").toList
      = some ((zeroPadded 0 h).toList, ' ' :: ((zeroPadded 2 m).toList ++ ['m'])) := by
    rw [toString_eq_zeroPadded]
    refine splitOnce_eq_some_iff.mpr ⟨?_, hfirst 'h' rfl (by decide) _ _⟩
    simp [String.toList_append]
  have hsplit' : splitOnce 'm' ((zeroPadded 2 m).toList ++ ['m'])
      = some ((zeroPadded 2 m).toList, []) :=
    splitOnce_eq_some_iff.mpr ⟨rfl, hfirst 'm' rfl (by decide) _ _⟩
  rw [readMinutes, hsplit]
  simp only [Option.bind_eq_bind, Option.bind_some, List.drop_one, List.tail_cons, hsplit',
    String.ofList_toList, parseSigned_zeroPadded hh, parseSigned_zeroPadded hm]
  rfl

/-- The minutes of the part behind the point, before they are cut off. -/
def minutesBehind (h : ℚ) : ℚ := nearest (nearest (Int.fract h) * 60)

/-- The minutes that are printed. -/
def minutesOf (h : ℚ) : ℤ := 60 * ⌊h⌋ + ⌊minutesBehind h⌋

/-- The part behind the point, as a double. -/
theorem nearest_fract_mem (h : ℚ) : 0 ≤ nearest (Int.fract h) ∧ nearest (Int.fract h) ≤ 1 := by
  have hle := nearest_mono (Int.fract_lt_one h).le
  rw [show nearest 1 = 1 from binary64.one] at hle
  exact ⟨nearest_nonneg (Int.fract_nonneg h), hle⟩

theorem minutesBehind_mem (h : ℚ) : 0 ≤ minutesBehind h ∧ minutesBehind h ≤ 60 := by
  obtain ⟨hlow, hhigh⟩ := nearest_fract_mem h
  have hle := nearest_mono (show nearest (Int.fract h) * 60 ≤ ((60 : ℕ) : ℚ) by push_cast; linarith)
  rw [nearest_natCast (by norm_num)] at hle
  exact ⟨nearest_nonneg (by linarith), by exact_mod_cast hle⟩

/-- **A printed time reads back.** -/
theorem readMinutes_formatHours {hours : Double} {h : ℚ} (hexact : hours.exact = some h)
    (hpos : 0 ≤ h) (hlt : h < 2 ^ 50) : readMinutes (formatHours hours) = some (minutesOf h) := by
  have hfloor : 0 ≤ ⌊h⌋ := Int.floor_nonneg.mpr hpos
  have hfloor' : ⌊h⌋ < 2 ^ 50 := Int.floor_lt.mpr (by exact_mod_cast hlt)
  have hwhole : asI64 hours = ⌊h⌋ := asI64_eq hexact hpos (hlt.trans (by norm_num))
  have hunits : (Double.ofRat ⌊h⌋).exact = some (⌊h⌋ : ℚ) :=
    Double.exact_ofRat_intCast (by rw [abs_of_nonneg hfloor]; omega)
  have hrest : (hours.sub (.ofRat ⌊h⌋)).exact = some (nearest (Int.fract h)) := by
    rw [Double.sub_eq hexact hunits, Int.self_sub_floor]
    apply Double.exact_ofRat
    rw [abs_of_nonneg (Int.fract_nonneg h)]
    exact Double.lt_overflow_of_le (k := 0) (by norm_num) (by simpa using (Int.fract_lt_one h).le)
  have hsixty : (Double.ofRat 60).exact = some 60 :=
    Double.exact_ofRat_intCast (n := 60) (by norm_num)
  have hminutes : ((hours.sub (.ofRat ⌊h⌋)).mul (.ofRat 60)).exact = some (minutesBehind h) := by
    obtain ⟨hlow, hhigh⟩ := nearest_fract_mem h
    rw [Double.mul_eq hrest hsixty]
    apply Double.exact_ofRat
    rw [abs_of_nonneg (by linarith)]
    exact Double.lt_overflow_of_le (k := 6) (by norm_num) (by linarith)
  obtain ⟨hlow, hhigh⟩ := minutesBehind_mem h
  have hbehind : asI64 ((hours.sub (.ofRat ⌊h⌋)).mul (.ofRat 60)) = ⌊minutesBehind h⌋ :=
    asI64_eq hminutes hlow (hhigh.trans_lt (by norm_num))
  have hsmall : 0 ≤ ⌊minutesBehind h⌋ ∧ ⌊minutesBehind h⌋ < 61 :=
    ⟨Int.floor_nonneg.mpr hlow, Int.floor_lt.mpr (by push_cast; linarith)⟩
  rw [formatHours, hwhole]
  simp only [hbehind]
  rw [readMinutes_text (by rw [abs_of_nonneg hfloor]; omega)
    (by rw [abs_of_nonneg hsmall.1]; omega), minutesOf]

/-- The minutes are hardly changed. -/
theorem abs_sub_minutes_le (h : ℚ) : |60 * ⌊h⌋ + minutesBehind h - 60 * h| ≤ 1 / 2 ^ 47 := by
  obtain ⟨hlow, hhigh⟩ := nearest_fract_mem h
  have hfirst := abs_sub_nearest_le (k := -1) (by norm_num) (Int.fract_nonneg h)
    (by simpa using Int.fract_lt_one h)
  have hsecond : |nearest (Int.fract h) * 60 - minutesBehind h| ≤ 2 ^ ((5 : ℤ) - 53) :=
    abs_sub_nearest_le (by norm_num) (by linarith)
      (show nearest (Int.fract h) * 60 < 2 ^ (6 : ℤ) by norm_num; linarith)
  have hparts := Int.floor_add_fract h
  rw [show (2 : ℚ) ^ ((-1 : ℤ) - 53) = 1 / 2 ^ 54 by norm_num] at hfirst
  rw [show (2 : ℚ) ^ ((5 : ℤ) - 53) = 1 / 2 ^ 48 by norm_num] at hsecond
  rw [abs_le] at hfirst hsecond ⊢
  constructor <;> linarith [hfirst.1, hfirst.2, hsecond.1, hsecond.2]

/-- **The minutes of a quotient** of whole numbers, from a few roundings.  Where the quotient is a
whole number of minutes, the last one may be missing. -/
theorem minutesOf_eq {h : ℚ} {e p : ℕ} (he : e < 2 ^ 40) (hp : 0 < p) (hp' : p < 2 ^ 40)
    (hnear : Near 5 h (e / p)) :
    minutesOf h = 60 * e / p ∨ (p : ℤ) ∣ 60 * e ∧ minutesOf h = 60 * e / p - 1 := by
  have hppos : (0 : ℚ) < p := by exact_mod_cast hp
  have herror := hnear.abs_sub_le (by norm_num) (div_nonneg e.cast_nonneg hppos.le)
  have hbehind := abs_sub_minutes_le h
  have hshare : (e : ℚ) / p * ((5 : ℕ) / 2 ^ 52) ≤ 1 / p * (1 / 2 ^ 9) := by
    have hle : (e : ℚ) ≤ 2 ^ 40 := by exact_mod_cast he.le
    rw [div_mul_div_comm, div_mul_div_comm, div_le_div_iff₀ (by positivity) (by positivity)]
    push_cast
    nlinarith
  have hleast : (1 : ℚ) / 2 ^ 47 ≤ 1 / p * (1 / 2 ^ 7) := by
    have hle : (p : ℚ) ≤ 2 ^ 40 := by exact_mod_cast hp'.le
    rw [div_mul_div_comm, div_le_div_iff₀ (by positivity) (by positivity)]
    linarith
  have hunit : (0 : ℚ) < 1 / p := by positivity
  have hnear' : |60 * ⌊h⌋ + minutesBehind h - ((60 * e : ℤ) : ℚ) / (p : ℤ)| < 1 / (p : ℤ) := by
    have hquotient : ((60 * e : ℤ) : ℚ) / (p : ℤ) = 60 * (e / p) := by
      push_cast
      ring
    rw [hquotient, Int.cast_natCast]
    rw [abs_le] at herror hbehind
    rw [abs_lt]
    constructor <;> linarith [herror.1, herror.2, hbehind.1, hbehind.2]
  have hfloor : ⌊60 * (⌊h⌋ : ℚ) + minutesBehind h⌋ = minutesOf h := by
    rw [minutesOf, ← Int.floor_intCast_add]
    push_cast
    rfl
  rw [← hfloor]
  exact floor_of_near (by exact_mod_cast hp) hnear'

end Printed

/-! ### The four readings -/

/-- Where the numbers come from. -/
inductive Reading where
  | energyFiles
  | chargeFiles
  | energyEvent
  | chargeEvent
  deriving DecidableEq, Repr

namespace Reading

variable (battery : LinuxBattery) (t : Tree)

/-- What is stored, what is drawn, and with charges the voltage. -/
def texts : Reading → List String
  | energyFiles => ["energy_now", "power_now"].map fun leaf => SysfsRoot.read t (battery.bat leaf)
  | chargeFiles => ["charge_now", "current_now", "voltage_now"].map fun leaf =>
      SysfsRoot.read t (battery.bat leaf)
  | energyEvent => ["POWER_SUPPLY_ENERGY_NOW", "POWER_SUPPLY_POWER_NOW"].map
      (LinuxBattery.ueventGet (battery.parseUevent t))
  | chargeEvent => ["POWER_SUPPLY_CHARGE_NOW", "POWER_SUPPLY_CURRENT_NOW",
      "POWER_SUPPLY_VOLTAGE_NOW"].map (LinuxBattery.ueventGet (battery.parseUevent t))

def text (r : Reading) (i : ℕ) : String := (r.texts battery t).getD i ""

def number (r : Reading) (i : ℕ) : Double := floatOrZero (r.text battery t i)

def ofCharge : Reading → Bool
  | energyFiles | energyEvent => false
  | chargeFiles | chargeEvent => true

/-- What is stored, as the time is computed. -/
def energy (r : Reading) : Double :=
  if r.ofCharge then (r.number battery t 0).mul ((r.number battery t 2).div million)
  else r.number battery t 0

/-- What is drawn, as the time is computed. -/
def power (r : Reading) : Double :=
  if r.ofCharge then (r.number battery t 1).abs.mul ((r.number battery t 2).div million)
  else (r.number battery t 1).abs

/-- What is drawn, in watts. -/
def watts (r : Reading) : Double :=
  if r.ofCharge then ((r.number battery t 1).mul (r.number battery t 2)).abs.div trillion
  else (r.number battery t 1).abs.div million

/-- Power is drawn. -/
def Flows (r : Reading) : Prop := Double.lt 0 (r.power battery t) = true

instance (r : Reading) : Decidable (r.Flows battery t) := inferInstanceAs (Decidable (_ = _))

def hours (r : Reading) : Double := (r.energy battery t).div (r.power battery t)

/-- The time printed for a reading. -/
def time (r : Reading) : String := LinuxBattery.timeAt (r.energy battery t) (r.power battery t)

theorem time_of_energy {r : Reading} (h : r.ofCharge = false) :
    LinuxBattery.timeAt (r.number battery t 0) (r.number battery t 1).abs = r.time battery t := by
  rw [time, energy, power, h]
  rfl

theorem time_of_charge {r : Reading} (h : r.ofCharge = true) :
    LinuxBattery.timeAt ((r.number battery t 0).mul ((r.number battery t 2).div million))
      ((r.number battery t 1).abs.mul ((r.number battery t 2).div million)) = r.time battery t := by
  rw [time, energy, power, if_pos h, if_pos h]

/-- The text of each number is there. -/
def complete (r : Reading) : Bool := decide ("" ∉ r.texts battery t)

/-- The power can be told. -/
def metered (r : Reading) : Bool :=
  if r.ofCharge then decide (r.text battery t 1 ≠ "" ∧ r.text battery t 2 ≠ "")
  else (Double.parse (r.text battery t 1)).isSome

end Reading

namespace LinuxBattery

open Reading

variable (battery : LinuxBattery) (t : Tree)

/-- The reading the time is taken from. -/
def estimated : Option Reading :=
  [energyFiles, energyEvent, chargeEvent, chargeFiles].find? (Reading.complete battery t)

/-- The reading the power is taken from. -/
def measured : Option Reading :=
  [energyFiles, chargeFiles, energyEvent, chargeEvent].find? (Reading.metered battery t)

theorem timeOfCharge_eq {r : Reading} (h : r.ofCharge = true) :
    timeOfCharge (r.texts battery t)
      = if r.complete battery t then r.time battery t else calculating := by
  rw [timeOfCharge, ← time_of_charge battery t h, Reading.complete]
  by_cases hmem : "" ∈ r.texts battery t
  · simp [hmem]
  · rw [if_neg hmem, if_pos (decide_eq_true hmem)]
    rfl

theorem chargeTime_eq : battery.chargeTime t
    = ([chargeEvent, chargeFiles].find? (Reading.complete battery t)).elim calculating
      (Reading.time battery t) := by
  have hchoice : battery.chargeTime t = if "" ∈ chargeEvent.texts battery t then
      timeOfCharge (chargeFiles.texts battery t) else timeOfCharge (chargeEvent.texts battery t) :=
    rfl
  rw [hchoice, timeOfCharge_eq battery t rfl, timeOfCharge_eq battery t rfl]
  by_cases hevent : "" ∈ chargeEvent.texts battery t
  · have hcomplete : chargeEvent.complete battery t = false := by simp [complete, hevent]
    rw [if_pos hevent, List.find?_cons_of_neg (by simp [hcomplete])]
    cases hfiles : chargeFiles.complete battery t <;> simp [hfiles]
  · have hcomplete : chargeEvent.complete battery t = true := by simp [complete, hevent]
    rw [if_neg hevent, List.find?_cons_of_pos hcomplete, if_pos hcomplete, Option.elim_some]

theorem empty_not_mem_pair {a b : String} : "" ∉ [a, b] ↔ a ≠ "" ∧ b ≠ "" := by
  rw [List.mem_cons, List.mem_singleton, not_or]
  exact and_congr ne_comm ne_comm

theorem timeOfEnergyOr_eq {r : Reading} (h : r.ofCharge = false) (other : String) :
    timeOfEnergyOr (r.text battery t 0) (r.text battery t 1) other
      = if r.complete battery t then r.time battery t else other := by
  have hcomplete : r.complete battery t = true ↔
      r.text battery t 0 ≠ "" ∧ r.text battery t 1 ≠ "" := by
    cases r with
    | energyFiles => exact decide_eq_true_iff.trans empty_not_mem_pair
    | energyEvent => exact decide_eq_true_iff.trans empty_not_mem_pair
    | chargeFiles => cases h
    | chargeEvent => cases h
  rw [timeOfEnergyOr, ← time_of_energy battery t h]
  simp only [hcomplete]
  rfl

/-- **The time** is that of the first complete reading. -/
theorem timeRemaining_eq (h : battery.isCharging t = false) :
    battery.timeRemaining t = (battery.estimated t).elim calculating (Reading.time battery t) := by
  have hchoice : battery.timeRemaining t
      = timeOfEnergyOr (energyFiles.text battery t 0) (energyFiles.text battery t 1)
          (timeOfEnergyOr (energyEvent.text battery t 0) (energyEvent.text battery t 1)
            (battery.chargeTime t)) := by
    rw [timeRemaining, h]
    rfl
  rw [hchoice, timeOfEnergyOr_eq battery t rfl, timeOfEnergyOr_eq battery t rfl, chargeTime_eq,
    estimated]
  cases hfiles : energyFiles.complete battery t with
  | true => simp [hfiles]
  | false =>
    cases hevent : energyEvent.complete battery t with
    | true => simp [hfiles, hevent]
    | false => simp [List.find?_cons, hfiles, hevent]

theorem watts_of_parsed {r : Reading} (h : r.ofCharge = false) {p : Double}
    (hp : Double.parse (r.text battery t 1) = some p) : r.watts battery t = p.abs.div million := by
  have hnumber : r.number battery t 1 = p := by rw [number, floatOrZero, hp, Option.getD_some]
  rw [watts, h, hnumber]
  rfl

theorem watts_of_charge {r : Reading} (h : r.ofCharge = true) :
    r.watts battery t = productWatts (r.text battery t 1) (r.text battery t 2) := by
  rw [watts, if_pos h, productWatts, number, number]

/-- The first metered of two readings, or else `other`. -/
theorem metered_pair (energy charge : Reading) (henergy : energy.ofCharge = false)
    (hcharge : charge.ofCharge = true) (rest : List Reading) :
    wattsOr (energy.text battery t 1) (charge.text battery t 1) (charge.text battery t 2)
        ((rest.find? (Reading.metered battery t)).elim 0 (Reading.watts battery t))
      = ((energy :: charge :: rest).find? (Reading.metered battery t)).elim 0
          (Reading.watts battery t) := by
  rw [wattsOr]
  cases hp : Double.parse (energy.text battery t 1) with
  | some p =>
    have hmetered : energy.metered battery t = true := by simp [metered, henergy, hp]
    rw [List.find?_cons_of_pos hmetered, Option.elim_some, watts_of_parsed battery t henergy hp]
  | none =>
    have hmetered : ¬energy.metered battery t = true := by simp [metered, henergy, hp]
    rw [List.find?_cons_of_neg hmetered]
    have hiff : charge.metered battery t = true ↔
        charge.text battery t 1 ≠ "" ∧ charge.text battery t 2 ≠ "" := by
      simp [metered, hcharge]
    by_cases hthere : charge.text battery t 1 ≠ "" ∧ charge.text battery t 2 ≠ ""
    · rw [List.find?_cons_of_pos (hiff.mpr hthere), Option.elim_some,
        watts_of_charge battery t hcharge]
      exact if_pos hthere
    · rw [List.find?_cons_of_neg (mt hiff.mp hthere)]
      exact if_neg hthere

/-- **The power** is that of the first metered reading. -/
theorem consumptionWatts_eq : battery.consumptionWatts t
    = (battery.measured t).elim 0 (Reading.watts battery t) := by
  have hchoice : battery.consumptionWatts t
      = wattsOr (energyFiles.text battery t 1) (chargeFiles.text battery t 1)
          (chargeFiles.text battery t 2)
          (wattsOr (energyEvent.text battery t 1) (chargeEvent.text battery t 1)
            (chargeEvent.text battery t 2) 0) := rfl
  have hevent := metered_pair battery t energyEvent chargeEvent rfl rfl []
  have hfiles := metered_pair battery t energyFiles chargeFiles rfl rfl [energyEvent, chargeEvent]
  rw [List.find?_nil, Option.elim_none] at hevent
  rw [hchoice, hevent, hfiles, measured]

/-- With the energy in files, the power is there too. -/
theorem measured_energyFiles (h : energyFiles.Flows battery t) :
    battery.measured t = some energyFiles := by
  apply List.find?_cons_of_pos
  show (Double.parse (energyFiles.text battery t 1)).isSome = true
  cases hp : Double.parse (energyFiles.text battery t 1) with
  | some p => rfl
  | none =>
    have hpower : energyFiles.power battery t = Double.abs 0 := by
      show (floatOrZero (energyFiles.text battery t 1)).abs = _
      rw [floatOrZero, hp, Option.getD_none]
    rw [Flows, hpower] at h
    exact absurd h (by decide +kernel)

theorem exact_million : million.exact = some 1000000 :=
  Double.exact_ofRat_intCast (n := 1000000) (by norm_num)

theorem exact_trillion : trillion.exact = some 1000000000000 :=
  Double.exact_ofRat_intCast (n := 1000000000000) (by norm_num)

/-- The power is never below zero. -/
theorem watts_not_lt (r : Reading) : (r.watts battery t).lt 0 = false := by
  rw [watts]
  split
  · exact Double.abs_div_not_lt _ exact_trillion (by norm_num)
  · exact Double.abs_div_not_lt _ exact_million (by norm_num)

end LinuxBattery

/-! ### Whole numbers -/

/-- The reading holds whole numbers, as drivers print them: what is stored, what is drawn, with a
sign, and with charges the voltage. -/
structure Reading.Whole (battery : LinuxBattery) (t : Tree) (r : Reading) (e : ℕ) (c : ℤ) (v : ℕ) :
    Prop where
  texts : r.texts battery t = [toString e, toString c] ++ if r.ofCharge then [toString v] else []
  stored : e < 2 ^ 40
  drawn : 0 < c.natAbs ∧ c.natAbs < 2 ^ 40
  voltage : 0 < v ∧ v < 2 ^ 40

namespace Reading.Whole

open LinuxBattery Double

variable {battery : LinuxBattery} {t : Tree} {r : Reading} {e v : ℕ} {c : ℤ}

/-- Watt hours. -/
def wattHours (r : Reading) (e v : ℕ) : ℚ :=
  if r.ofCharge then (e * v : ℕ) / 1000000000000 else e / 1000000

/-- Watts. -/
def exactWatts (r : Reading) (c : ℤ) (v : ℕ) : ℚ :=
  if r.ofCharge then (c.natAbs * v : ℕ) / 1000000000000 else c.natAbs / 1000000

theorem number_zero (h : r.Whole battery t e c v) : r.number battery t 0 = ofRat e := by
  have hparse := parse_toString e
  rw [number, text, h.texts, floatOrZero]
  show (parse (toString (e : ℤ))).getD 0 = _
  rw [hparse, Option.getD_some, Int.cast_natCast]

theorem number_one (h : r.Whole battery t e c v) : r.number battery t 1 = ofRat c := by
  rw [number, text, h.texts, floatOrZero]
  show (parse (toString c)).getD 0 = _
  rw [parse_toString, Option.getD_some]

theorem number_two (h : r.Whole battery t e c v) (hcharge : r.ofCharge = true) :
    r.number battery t 2 = ofRat v := by
  rw [number, text, h.texts, if_pos hcharge, floatOrZero]
  show (parse (toString (v : ℤ))).getD 0 = _
  rw [parse_toString, Option.getD_some, Int.cast_natCast]

theorem approx_million : Approx 0 million 1000000 := approx_natCast (n := 1000000) (by norm_num)

theorem approx_trillion : Approx 0 trillion 1000000000000 :=
  approx_natCast (n := 1000000000000) (by norm_num)

/-- Products of the numbers are not too large. -/
theorem mul_lt {a b : ℕ} (ha : a < 2 ^ 40) (hb : b < 2 ^ 40) : a * b < 2 ^ 200 :=
  (Nat.mul_lt_mul'' ha hb).trans (by norm_num)

/-- A charge or a current, scaled by the voltage. -/
theorem approx_scaled {a : ℕ} {x : Double} (h : r.Whole battery t e c v)
    (hcharge : r.ofCharge = true) (ha : a < 2 ^ 40) (hx : Approx 0 x a) :
    Approx 2 (x.mul ((r.number battery t 2).div million)) (a * (v / 1000000)) := by
  have hv := h.voltage.2
  have hvolts : Approx 1 ((r.number battery t 2).div million) (v / 1000000) := by
    rw [h.number_two hcharge]
    exact (approx_natCast (by omega)).div approx_million v.cast_nonneg (by norm_num) (by norm_num)
      (by exact_mod_cast moderate_natCast_div (b := 1000000) (by omega) (by norm_num) (by norm_num))
  refine hx.mul hvolts a.cast_nonneg (by norm_num) ?_
  rw [← mul_div_assoc]
  exact_mod_cast moderate_natCast_div (b := 1000000) (mul_lt ha hv) (by norm_num) (by norm_num)

theorem abs_le (h : r.Whole battery t e c v) : |c| ≤ 2 ^ 53 := by
  have hc := h.drawn.2
  rw [← Int.natCast_natAbs]
  omega

theorem approx_stored (h : r.Whole battery t e c v) : Approx 0 (r.number battery t 0) e := by
  have he := h.stored
  rw [h.number_zero]
  exact approx_natCast (by omega)

theorem approx_drawn (h : r.Whole battery t e c v) : Approx 0 (r.number battery t 1).abs c.natAbs := by
  rw [h.number_one, Nat.cast_natAbs, Int.cast_abs]
  exact approx_abs_intCast h.abs_le

/-- **The hours** of whole numbers; the voltage cancels out. -/
theorem approx_hours (h : r.Whole battery t e c v) :
    Approx 5 (r.hours battery t) (e / c.natAbs) := by
  have he := h.stored
  obtain ⟨hc, hc'⟩ := h.drawn
  have hcpos : (0 : ℚ) < c.natAbs := by exact_mod_cast hc
  have hrange : Moderate ((e : ℚ) / c.natAbs) := moderate_natCast_div (by omega) hc (by omega)
  rw [hours, energy, power]
  split
  · rename_i hcharge
    have hvpos : (0 : ℚ) < v / 1000000 := div_pos (by exact_mod_cast h.voltage.1) (by norm_num)
    have hcancel : (e : ℚ) * (v / 1000000) / (c.natAbs * (v / 1000000)) = e / c.natAbs :=
      mul_div_mul_right _ _ hvpos.ne'
    rw [← hcancel]
    exact (h.approx_scaled hcharge he h.approx_stored).div (h.approx_scaled hcharge hc' h.approx_drawn)
      (by positivity) (by positivity) (by norm_num) (by rwa [hcancel])
  · exact (h.approx_stored.div h.approx_drawn e.cast_nonneg hcpos (by norm_num) hrange).weaken
      (by norm_num) hrange.nonneg

/-- **The watts** of whole numbers. -/
theorem approx_watts (h : r.Whole battery t e c v) :
    Approx 2 (r.watts battery t) (exactWatts r c v) := by
  obtain ⟨hc, hc'⟩ := h.drawn
  obtain ⟨hv, hv'⟩ := h.voltage
  rw [watts, exactWatts]
  split
  · rename_i hcharge
    have hsize : |(c : ℚ) * v| = ((c.natAbs * v : ℕ) : ℚ) := by
      rw [abs_mul, Nat.abs_cast, Nat.cast_mul, Nat.cast_natAbs, Int.cast_abs]
    have hmoderate : Moderate |(c : ℚ) * v| := by
      rw [hsize, ← div_one (((c.natAbs * v : ℕ) : ℚ))]
      exact_mod_cast moderate_natCast_div (b := 1) (mul_lt hc' hv') (by norm_num) (by norm_num)
    have hproduct : Approx 1 ((r.number battery t 1).mul (r.number battery t 2)).abs
        ((c.natAbs * v : ℕ) : ℚ) := by
      have hexact : (ofRat (c : ℚ)).exact = some (c : ℚ) := exact_ofRat_intCast h.abs_le
      have hexact' : (ofRat (v : ℚ)).exact = some (v : ℚ) := by
        have hint := exact_ofRat_intCast (n := v) (by rw [Nat.abs_cast]; omega)
        rwa [Int.cast_natCast] at hint
      rw [h.number_one, h.number_two hcharge, mul_eq hexact hexact', ← hsize]
      exact approx_abs_ofRat hmoderate
    have hrange : Moderate (((c.natAbs * v : ℕ) : ℚ) / 1000000000000) := by
      have hnat := moderate_natCast_div (b := 1000000000000) (mul_lt hc' hv') (by norm_num) (by norm_num)
      rwa [Nat.cast_ofNat] at hnat
    exact hproduct.div approx_trillion (Nat.cast_nonneg _) (by norm_num) (by norm_num) hrange
  · have hrange : Moderate ((c.natAbs : ℚ) / 1000000) := by
      exact_mod_cast moderate_natCast_div (b := 1000000) (by omega) (by norm_num) (by norm_num)
    exact (h.approx_drawn.div approx_million (Nat.cast_nonneg _) (by norm_num) (by norm_num)
      hrange).weaken (by norm_num) hrange.nonneg

/-- **Power is drawn** where whole numbers say so. -/
theorem flows (h : r.Whole battery t e c v) : r.Flows battery t := by
  obtain ⟨hc, hc'⟩ := h.drawn
  have hcpos : (0 : ℚ) < c.natAbs := by exact_mod_cast hc
  have hpositive : ∀ {n q} {x : Double}, Approx n x q → n ≤ 2 ^ 51 → 0 < q → Double.lt 0 x = true := by
    rintro n q x ⟨w, hw, -, hnear⟩ hn hq
    have hhalf := (half_le_of_near hnear hn hq.le).1
    rw [lt_eq exact_zero hw, decide_eq_true_iff]
    linarith
  rw [Flows, power]
  split
  · rename_i hcharge
    have hvpos : (0 : ℚ) < v / 1000000 := div_pos (by exact_mod_cast h.voltage.1) (by norm_num)
    exact hpositive (h.approx_scaled hcharge hc' h.approx_drawn) (by norm_num) (by positivity)
  · exact hpositive h.approx_drawn (by norm_num) hcpos

/-- **Time times power** is what is stored. -/
theorem hours_mul_watts (h : r.Whole battery t e c v) :
    e / c.natAbs * exactWatts r c v = wattHours r e v := by
  have hcne : (c.natAbs : ℚ) ≠ 0 := by exact_mod_cast h.drawn.1.ne'
  rw [exactWatts, wattHours]
  split
  · push_cast
    field_simp
  · field_simp

theorem exactWatts_nonneg (r : Reading) (c : ℤ) (v : ℕ) : 0 ≤ exactWatts r c v := by
  rw [exactWatts]
  split <;> positivity

/-- **The minutes** that whole numbers print. -/
theorem readMinutes_time (h : r.Whole battery t e c v) :
    ∃ minutes, readMinutes (formatHours (r.hours battery t)) = some minutes ∧
      (minutes = 60 * e / |c| ∨ |c| ∣ 60 * e ∧ minutes = 60 * e / |c| - 1) := by
  obtain ⟨hours, hexact, hnonneg, hnear⟩ := h.approx_hours
  have he := h.stored
  obtain ⟨hc, hc'⟩ := h.drawn
  have hone : (1 : ℚ) ≤ c.natAbs := by exact_mod_cast hc
  have hquotient : (e : ℚ) / c.natAbs ≤ 2 ^ 40 :=
    (div_le_self e.cast_nonneg hone).trans (by exact_mod_cast he.le)
  have hdouble := (half_le_of_near hnear (by norm_num) (by positivity)).2
  refine ⟨minutesOf hours, readMinutes_formatHours hexact hnonneg (by linarith), ?_⟩
  have hminutes := minutesOf_eq he hc hc' hnear
  rwa [Int.natCast_natAbs] at hminutes

end Reading.Whole

namespace LinuxBattery

open Reading

variable (battery : LinuxBattery) (t : Tree)

/-- **The summary line.**  Whatever the files of the battery hold, the power is not below zero.  The
estimate is `Charging` while a supply or the battery says so.  Else it is taken from the first
reading whose texts are all there, and from no other: a time if power flows, and `Calculating...` if
none flows.  Where that reading holds whole numbers below 2⁴⁰, the time reads back as the whole
minutes that what is stored lasts, or one less if these minutes are exact.  Where the power is taken
from the same reading, as it is whenever the energy is in files, it is the power drawn, and the time
multiplied by it is what is stored, to within one part in 2⁴⁹. -/
theorem summary_consistent :
    (battery.consumptionWatts t).lt 0 = false ∧
    (battery.isCharging t = true → battery.timeRemaining t = "Charging") ∧
    (battery.isCharging t = false → (∀ r, battery.estimated t = some r → ¬r.Flows battery t) →
      battery.timeRemaining t = "Calculating...") ∧
    (battery.isCharging t = false → ∀ r, battery.estimated t = some r →
      (r.Flows battery t → battery.timeRemaining t = formatHours (r.hours battery t)) ∧
      ∀ e c v, r.Whole battery t e c v →
        (∃ minutes, readMinutes (battery.timeRemaining t) = some minutes ∧
          (minutes = 60 * e / |c| ∨ |c| ∣ 60 * e ∧ minutes = 60 * e / |c| - 1)) ∧
        (battery.measured t = some r ∨ r = .energyFiles → ∃ hours watts,
          (r.hours battery t).exact = some hours ∧ (battery.consumptionWatts t).exact = some watts ∧
          |watts - Whole.exactWatts r c v| ≤ Whole.exactWatts r c v / 2 ^ 51 ∧
          |hours * watts - Whole.wattHours r e v| ≤ Whole.wattHours r e v / 2 ^ 49)) := by
  refine ⟨?_, ?_, ?_, ?_⟩
  · rw [consumptionWatts_eq]
    cases battery.measured t with
    | none => rfl
    | some r => exact watts_not_lt battery t r
  · intro hcharging
    rw [timeRemaining, if_pos hcharging]
  · intro hcharging hnone
    rw [timeRemaining_eq battery t hcharging]
    cases hestimated : battery.estimated t with
    | none => rfl
    | some r => exact if_neg (hnone r hestimated)
  · intro hcharging r hestimated
    have htime : r.Flows battery t →
        battery.timeRemaining t = formatHours (r.hours battery t) := by
      intro hflows
      rw [timeRemaining_eq battery t hcharging, hestimated]
      exact if_pos hflows
    refine ⟨htime, fun e c v h => ⟨?_, ?_⟩⟩
    · rw [htime h.flows]
      exact h.readMinutes_time
    · intro hsource
      have hmeasured : battery.measured t = some r := by
        rcases hsource with hmeasured | rfl
        · exact hmeasured
        · exact measured_energyFiles battery t h.flows
      obtain ⟨hours, hhours, hhours0, hnearHours⟩ := h.approx_hours
      obtain ⟨watts, hwatts, hwatts0, hnearWatts⟩ := h.approx_watts
      have hnonneg := Whole.exactWatts_nonneg r c v
      have hquotient : (0 : ℚ) ≤ e / c.natAbs := by positivity
      have hproduct := hnearHours.mul hnearWatts hwatts0 hquotient
      have hstored := mul_nonneg hquotient hnonneg
      rw [h.hours_mul_watts] at hproduct hstored
      refine ⟨hours, watts, hhours, ?_, ?_, ?_⟩
      · rw [consumptionWatts_eq, hmeasured, Option.elim_some, hwatts]
      · refine (hnearWatts.abs_sub_le (by norm_num) hnonneg).trans_eq ?_
        norm_num
        ring
      · refine (hproduct.abs_sub_le (by norm_num) hstored).trans ?_
        rw [div_eq_mul_one_div _ ((2 : ℚ) ^ 49)]
        exact mul_le_mul_of_nonneg_left (by norm_num) hstored

end LinuxBattery

end WattWarden
