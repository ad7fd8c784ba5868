import WattWarden.Daemon.Telemetry
import WattWarden.Library.Records
import WattWarden.Results.Timestamps

/-!
# The health log is read back

A reader of the health log, and what it finds in a log the daemon wrote: the lines are the rows, and
each row tells its time, the health, the capacities, the cycles, the charge level, whether the pack
was charging, and its temperature.

* `HealthSample` / `readHealthCsv` — what a row tells, and its reader;
* `formatHealthCsv_eq` — **PROVED**: a row is a timestamp and seven named fields;
* `readTimestamp_isoText` — **PROVED**: the timestamp is read back from year 0 on;
* `readHealthCsv_line` — **PROVED**: a row is read back;
* `healthLog_decodes` — **PROVED**: so is a log, appends that did not open the file left out.
-/

namespace WattWarden

open Library.Calendar Library.DigitRuns Library.FileTree Library.Floats Library.Numerals Library.Records Library.Runs
  Library.TextSearch Library.Tenths Library.Throttle

/-! ### The reader -/

/-- What a row tells; `none` where it says `na`. -/
structure HealthSample where
  time : ℤ
  healthPct : Option ℚ
  full : Option ℕ
  design : Option ℕ
  cycles : Option ℕ
  capacity : ℕ
  charging : Bool
  tempC : Option ℚ
  deriving DecidableEq, Repr

def readCount (text : String) : Option ℕ := parseDigits text.toList

/-- A value that may be `na`. -/
def readOrNa {α : Type*} (readValue : String → Option α) (text : String) : Option (Option α) :=
  if text = "na" then some none else (readValue text).map some

def readBool (text : String) : Option Bool :=
  if text = "true" then some true else if text = "false" then some false else none

/-- Numbers with a separator between them. -/
def readNumbers (separator : Char) (text : List Char) : Option (List ℕ) :=
  (text.splitOn separator).mapM parseDigits

/-- A civil time, as seconds of the epoch. -/
def readTimestamp (text : String) : Option ℤ := do
  let [date, time] := text.toList.splitOn 'T' | none
  let [year, month, day] ← readNumbers '-' date | none
  let [hour, minute, second] ← readNumbers ':' time | none
  return CivilTime.seconds ⟨year, month, day, hour, minute, second⟩

def readHealthCsv (text : String) : Option HealthSample := do
  let [ts, health, full, design, cycles, capacity, charging, temp] := columns text | none
  return {
    time := ← readTimestamp ts
    healthPct := ← (fieldOf "health" health).bind (readOrNa parseDecimal)
    full := ← (fieldOf "full" full).bind (readOrNa readCount)
    design := ← (fieldOf "design" design).bind (readOrNa readCount)
    cycles := ← (fieldOf "cycles" cycles).bind (readOrNa readCount)
    capacity := ← (fieldOf "capacity" capacity).bind readCount
    charging := ← (fieldOf "charging" charging).bind readBool
    tempC := ← (fieldOf "temp" temp).bind (readOrNa parseDecimal) }

/-- What the row of an occasion should tell. -/
def Occasion.sample (battery : LinuxBattery) (o : Occasion) : HealthSample :=
  let h := battery.health o.tree
  { time := o.clock.epochSecs
    healthPct := h.healthPct ℚ
    full := h.full
    design := h.design
    cycles := h.cycleCount
    capacity := battery.batteryPercentage o.tree
    charging := o.charging battery
    tempC := h.tempC }

/-! ### The fields of a row -/

/-- The named fields. -/
def healthFields (h : BatteryHealth ℚ) (capacity : ℕ) (charging : Bool) : List (String × String) :=
  [("health", orNa ((h.healthPct ℚ).map shortest)), ("full", orNa (h.full.map decimal)),
    ("design", orNa (h.design.map decimal)), ("cycles", orNa (h.cycleCount.map decimal)),
    ("capacity", decimal capacity), ("charging", toString charging),
    ("temp", orNa (h.tempC.map fixedOne))]

theorem formatHealthCsv_eq (ts : String) (h : BatteryHealth ℚ) (capacity : ℕ) (charging : Bool) :
    formatHealthCsv ts h capacity charging = row ts (healthFields h capacity charging) := by
  have hkey : ∀ text key value : String,
      text ++ "," ++ field (key, value) = text ++ ("," ++ key ++ "=") ++ value := by
    intro text key value
    simp [field, String.append_assoc]
  rw [row, healthFields]
  simp only [List.foldl_cons, List.foldl_nil, hkey]
  rfl

/-- A value that is there reads back, and so does its absence. -/
theorem readOrNa_orNa {α : Type*} {readValue : String → Option α} {print : α → String}
    {x : Option α} (h : ∀ a ∈ x, readValue (print a) = some a ∧ print a ≠ "na") :
    readOrNa readValue (orNa (x.map print)) = some x := by
  cases x with
  | none => exact if_pos rfl
  | some a =>
    obtain ⟨hread, hna⟩ := h a rfl
    show readOrNa readValue (print a) = _
    rw [readOrNa, if_neg hna, hread]
    rfl

theorem readCount_decimal (n : ℕ) : readCount (decimal n) = some n := parseDigits_decimal n

theorem readBool_toString (b : Bool) : readBool (toString b) = some b := by
  cases b <;> rfl

/-- A text without an `n` is not `na`. -/
theorem ne_na_of_chars {text : String} (h : ∀ c ∈ text.toList, IsDecimalChar c) : text ≠ "na" := by
  rintro rfl
  have hn : IsDecimalChar 'n' := h 'n' (by decide)
  rcases hn with hn | hn | hn <;> exact absurd hn (by decide)

theorem mem_decimal {n : ℕ} {c : Char} (h : c ∈ (decimal n).toList) : IsDecimalChar c :=
  .inl (isDigit_of_mem_decimal h)

/-! ### The timestamp -/

/-- What is padded with zeros consists of digits, and reads as the number. -/
theorem zeroPadded_digits (width : ℕ) {n : ℤ} (h : 0 ≤ n) :
    AllDigits (zeroPadded width n).toList ∧ parseDigits (zeroPadded width n).toList = some n.toNat := by
  obtain ⟨k, hk⟩ : ∃ k, (zeroPadded width n).toList
      = List.replicate k '0' ++ (decimal n.toNat).toList := by
    have habs : n.natAbs = n.toNat := by omega
    rw [zeroPadded, if_neg (not_lt.mpr h), habs]
    exact ⟨_, by rw [String.empty_append, String.toList_append, String.toList_ofList]⟩
  have hall : AllDigits (zeroPadded width n).toList := by
    intro c hc
    rw [hk, List.mem_append] at hc
    rcases hc with hc | hc
    · rw [List.eq_of_mem_replicate hc]
      rfl
    · exact isDigit_of_mem_decimal hc
  have hne : (zeroPadded width n).toList ≠ [] := by
    rw [hk]
    exact List.append_ne_nil_of_right_ne_nil _ (isDigits_decimal _).1
  refine ⟨hall, ?_⟩
  rw [parseDigits, if_pos ⟨hne, List.all_eq_true.mpr hall⟩, hk,
    Nat.ofDigitChars_append, Nat.ofDigitChars_replicate_zero, mul_zero, ofDigitChars_decimal]

theorem not_mem_zeroPadded {c : Char} (hc : c.isDigit = false) (width : ℕ) {n : ℤ} (h : 0 ≤ n) :
    c ∉ (zeroPadded width n).toList := by
  intro hmem
  have hdigit := (zeroPadded_digits width h).1 c hmem
  rw [hc] at hdigit
  cases hdigit

/-- Three padded numbers, the half of a timestamp. -/
def threeNumbers (separator : Char) (width : ℕ) (a b c : ℤ) : List Char :=
  (zeroPadded width a).toList ++
    [(zeroPadded 2 b).toList, (zeroPadded 2 c).toList].flatMap fun part => separator :: part

section ThreeNumbers

variable {separator : Char} {a b c : ℤ}

theorem readNumbers_threeNumbers (hsep : separator.isDigit = false) (width : ℕ) (ha : 0 ≤ a)
    (hb : 0 ≤ b) (hc : 0 ≤ c) :
    readNumbers separator (threeNumbers separator width a b c)
      = some [a.toNat, b.toNat, c.toNat] := by
  have hparts : ∀ part ∈ [(zeroPadded 2 b).toList, (zeroPadded 2 c).toList], separator ∉ part := by
    intro part hpart
    rcases List.mem_pair.mp hpart with rfl | rfl
    · exact not_mem_zeroPadded hsep 2 hb
    · exact not_mem_zeroPadded hsep 2 hc
  rw [readNumbers, threeNumbers, splitOn_flatMap (not_mem_zeroPadded hsep width ha) hparts]
  simp [(zeroPadded_digits width ha).2, (zeroPadded_digits 2 hb).2, (zeroPadded_digits 2 hc).2]

/-- Digits and the separator are all there is in them. -/
theorem mem_threeNumbers {width : ℕ} (ha : 0 ≤ a) (hb : 0 ≤ b) (hc : 0 ≤ c) {x : Char}
    (hx : x ∈ threeNumbers separator width a b c) : x.isDigit = true ∨ x = separator := by
  rw [threeNumbers, List.mem_append, List.mem_flatMap] at hx
  rcases hx with hx | ⟨part, hpart, hx⟩
  · exact .inl ((zeroPadded_digits width ha).1 x hx)
  · rcases List.mem_cons.mp hx with rfl | hx
    · exact .inr rfl
    · left
      rcases List.mem_pair.mp hpart with rfl | rfl
      · exact (zeroPadded_digits 2 hb).1 x hx
      · exact (zeroPadded_digits 2 hc).1 x hx

end ThreeNumbers

/-- A date, and a time of day. -/
theorem toList_isoText (c : CivilTime) : (isoText c).toList
    = threeNumbers '-' 4 c.year c.month c.day ++
      'T' :: threeNumbers ':' 2 c.hour c.minute c.second := by
  simp [isoText, threeNumbers]

/-- From the epoch on, the year is not before it. -/
theorem toCivil_year {secs : ℤ} (h : 0 ≤ secs) : 1970 ≤ (toCivil secs).year := by
  by_contra hbefore
  have hvalid := toCivil_valid secs
  have hepoch : ValidDate 1970 1 1 := ⟨by decide, by decide, by decide, by decide⟩
  have hday := dayNumber_lt_of_year hvalid.date hepoch (by omega)
  rw [dayNumber_epoch] at hday
  have hseconds := toCivil_seconds secs
  rw [CivilTime.seconds] at hseconds
  obtain ⟨-, ⟨-, hhour⟩, ⟨-, hminute⟩, -, hsecond⟩ := hvalid
  omega

/-- **The timestamp is read back.** -/
theorem readTimestamp_isoText {c : CivilTime} (h : c.Valid) (hyear : 0 ≤ c.year) :
    readTimestamp (isoText c) = some c.seconds := by
  have hmonth : 0 ≤ c.month := le_trans (by decide) h.date.month_pos
  have hday : 0 ≤ c.day := le_trans (by decide) h.date.day_pos
  have hdate : 'T' ∉ threeNumbers '-' 4 c.year c.month c.day := by
    intro hmem
    rcases mem_threeNumbers hyear hmonth hday hmem with hT | hT <;> exact absurd hT (by decide)
  have htime : 'T' ∉ threeNumbers ':' 2 c.hour c.minute c.second := by
    intro hmem
    rcases mem_threeNumbers h.hour.1 h.minute.1 h.second.1 hmem with hT | hT <;>
      exact absurd hT (by decide)
  have hsplit : (isoText c).toList.splitOn 'T' = [threeNumbers '-' 4 c.year c.month c.day,
      threeNumbers ':' 2 c.hour c.minute c.second] := by
    rw [toList_isoText, List.splitOn_append_cons_self_of_not_mem hdate,
      List.splitOn_eq_singleton htime]
  rw [readTimestamp, hsplit]
  simp [readNumbers_threeNumbers, hyear, hmonth, hday, h.hour.1, h.minute.1, h.second.1]

/-! ### A row -/

/-- The health is a whole number of tenths. -/
theorem healthPct_tenths {h : BatteryHealth ℚ} {pct : ℚ} (hpct : pct ∈ h.healthPct ℚ) :
    ∃ k : ℤ, pct = (k : ℚ) / 10 := by
  have hround : ∀ q : ℚ, ∃ k : ℤ, roundHalfAway q = k := by
    intro q
    rw [roundHalfAway]
    split
    · exact ⟨(q + 1 / 2).floor, rfl⟩
    · exact ⟨-(-q + 1 / 2).floor, (Int.cast_neg _).symm⟩
  rw [BatteryHealth.healthPct] at hpct
  split at hpct
  · rename_i f d hf hd
    split at hpct
    · obtain ⟨k, hk⟩ := hround ((f : ℚ) * 1000.0 / (d : ℚ))
      refine ⟨k, ?_⟩
      rw [Option.mem_def, Option.some_inj] at hpct
      rw [← hpct]
      show roundHalfAway _ / 10.0 = _
      rw [hk]
      norm_num
    · cases hpct
  · cases hpct

/-- So is the temperature. -/
theorem tempC_tenths {battery : LinuxBattery} {t : Tree} {temp : ℚ}
    (htemp : temp ∈ (battery.health t).tempC) : ∃ k : ℤ, temp = (k : ℚ) / 10 := by
  rw [LinuxBattery.health] at htemp
  split at htemp
  · cases htemp
  · cases hread : SysfsRoot.readI64 t (battery.bat "temp") with
    | none => simp [hread] at htemp
    | some k =>
      refine ⟨k, ?_⟩
      simpa [hread, eq_comm] using htemp

/-- No text of a row contains a separator. -/
theorem healthFields_chars {h : BatteryHealth ℚ} {capacity : ℕ} {charging : Bool} {c : Char}
    {f : String × String} (hf : f ∈ healthFields h capacity charging) (hc : c ∈ (field f).toList) :
    IsDecimalChar c ∨ c = '=' ∨ c.isLower = true := by
  have horNa : ∀ {α : Type} {x : Option α} {print : α → String},
      (∀ a, ∀ c ∈ (print a).toList, IsDecimalChar c) →
      ∀ c ∈ (orNa (x.map print)).toList, IsDecimalChar c ∨ c = '=' ∨ c.isLower = true := by
    intro α x print hprint c hc
    cases x with
    | none =>
      have hna : c ∈ "na".toList := hc
      rcases List.mem_pair.mp hna with rfl | rfl <;> exact .inr (.inr rfl)
    | some a => exact .inl (hprint a c hc)
  rw [toList_field, List.mem_append, List.mem_cons] at hc
  have hkeys : ∀ key ∈ ["health", "full", "design", "cycles", "capacity", "charging", "temp"],
      ∀ c ∈ key.toList, c.isLower = true := by
    have hall : (["health", "full", "design", "cycles", "capacity", "charging", "temp"].all
        fun key => key.toList.all Char.isLower) = true := by decide
    simpa only [List.all_eq_true] using hall
  have hkey : f.1 ∈ ["health", "full", "design", "cycles", "capacity", "charging", "temp"] := by
    simp only [healthFields, List.mem_cons, List.not_mem_nil, or_false] at hf
    rcases hf with rfl | rfl | rfl | rfl | rfl | rfl | rfl <;> simp
  rcases hc with hc | hc | hc
  · exact .inr (.inr (hkeys f.1 hkey c hc))
  · exact .inr (.inl hc)
  · simp only [healthFields, List.mem_cons, List.not_mem_nil, or_false] at hf
    rcases hf with rfl | rfl | rfl | rfl | rfl | rfl | rfl
    · exact horNa (fun _ _ => mem_shortest) c hc
    · exact horNa (fun _ _ => mem_decimal) c hc
    · exact horNa (fun _ _ => mem_decimal) c hc
    · exact horNa (fun _ _ => mem_decimal) c hc
    · exact .inl (mem_decimal hc)
    · right
      right
      have hall : (toString charging).toList.all Char.isLower = true := by
        cases charging <;> decide
      exact List.all_eq_true.mp hall c hc
    · exact horNa (fun _ _ => mem_fixedOne) c hc

/-- A row is a timestamp with digits and `T`, and fields without a separator. -/
theorem columns_line {ts : String} {h : BatteryHealth ℚ} {capacity : ℕ} {charging : Bool}
    (hts : ',' ∉ ts.toList) :
    columns (formatHealthCsv ts h capacity charging)
      = ts :: (healthFields h capacity charging).map field := by
  rw [formatHealthCsv_eq]
  apply columns_row hts
  intro f hf hmem
  rcases healthFields_chars hf hmem with hc | hc | hc
  · rcases hc with hc | hc | hc <;> exact absurd hc (by decide)
  · exact absurd hc (by decide)
  · exact absurd hc (by decide)

/-- The timestamp of a row is the civil time of its clock. -/
theorem timestamp_eq (clock : SystemTime) :
    (unixToIsoUtc clock.epochSecs).getD "" = isoText (toCivil clock.epochSecs) := by
  rw [unixToIsoUtc, isoFields_eq clock.epochSecs_isI64]
  rfl

/-- Its characters. -/
theorem mem_isoText {c : CivilTime} (h : c.Valid) (hyear : 0 ≤ c.year) {x : Char}
    (hx : x ∈ (isoText c).toList) : x.isDigit = true ∨ x = '-' ∨ x = 'T' ∨ x = ':' := by
  rw [toList_isoText, List.mem_append, List.mem_cons] at hx
  rcases hx with hx | hx | hx
  · have hmem := mem_threeNumbers hyear (le_trans (by decide) h.date.month_pos)
      (le_trans (by decide) h.date.day_pos) hx
    exact hmem.imp_right Or.inl
  · exact .inr (.inr (.inl hx))
  · have hmem := mem_threeNumbers h.hour.1 h.minute.1 h.second.1 hx
    exact hmem.imp_right fun heq => .inr (.inr heq)

/-- **A row is read back.** -/
theorem readHealthCsv_line (battery : LinuxBattery) (o : Occasion) :
    readHealthCsv (o.line battery) = some (o.sample battery) := by
  have hvalid := toCivil_valid o.clock.epochSecs
  have hyear : 0 ≤ (toCivil o.clock.epochSecs).year :=
    le_trans (by decide) (toCivil_year o.clock.epochSecs_nonneg)
  have hts : ',' ∉ (isoText (toCivil o.clock.epochSecs)).toList := by
    intro hmem
    rcases mem_isoText hvalid hyear hmem with hc | hc | hc | hc <;> exact absurd hc (by decide)
  have htime : readTimestamp (isoText (toCivil o.clock.epochSecs)) = some o.clock.epochSecs := by
    rw [readTimestamp_isoText hvalid hyear, toCivil_seconds]
  have hpct : ∀ q ∈ (battery.health o.tree).healthPct ℚ,
      parseDecimal (shortest q) = some q ∧ shortest q ≠ "na" := by
    intro q hq
    obtain ⟨k, rfl⟩ := healthPct_tenths hq
    exact ⟨parseDecimal_shortest k, ne_na_of_chars fun _ => mem_shortest⟩
  have htemp : ∀ q ∈ (battery.health o.tree).tempC,
      parseDecimal (fixedOne q) = some q ∧ fixedOne q ≠ "na" := by
    intro q hq
    obtain ⟨k, rfl⟩ := tempC_tenths hq
    exact ⟨parseDecimal_fixedOne k, ne_na_of_chars fun _ => mem_fixedOne⟩
  have hnumber : ∀ x : Option ℕ, readOrNa readCount (orNa (x.map decimal)) = some x := by
    intro x
    exact readOrNa_orNa fun n _ => ⟨readCount_decimal n, ne_na_of_chars fun _ => mem_decimal⟩
  have hfield : ∀ {key : String} (value : String), '=' ∉ key.toList →
      fieldOf key (field (key, value)) = some value := fun value h => fieldOf_field h value
  rw [Occasion.line, timestamp_eq, readHealthCsv, columns_line hts]
  simp only [healthFields, List.map_cons, List.map_nil]
  rw [htime, hfield _ (by decide), hfield _ (by decide), hfield _ (by decide), hfield _ (by decide),
    hfield _ (by decide), hfield _ (by decide), hfield _ (by decide)]
  simp only [Option.bind_some, readOrNa_orNa hpct, readOrNa_orNa htemp, hnumber, readCount_decimal,
    readBool_toString]
  rfl

/-! ### A log -/

/-- A row has no line end in it. -/
theorem mem_line {battery : LinuxBattery} {o : Occasion} {c : Char}
    (hc : c ∈ (o.line battery).toList) : c ≠ '\n' ∧ c ≠ '\r' := by
  have hvalid := toCivil_valid o.clock.epochSecs
  have hyear : 0 ≤ (toCivil o.clock.epochSecs).year :=
    le_trans (by decide) (toCivil_year o.clock.epochSecs_nonneg)
  rw [Occasion.line, timestamp_eq, formatHealthCsv_eq, toList_row, List.mem_append,
    List.mem_flatMap] at hc
  rcases hc with hc | ⟨f, hf, hc⟩
  · rcases mem_isoText hvalid hyear hc with h | h | h | h <;>
      exact ⟨fun heq => absurd (heq ▸ h) (by decide), fun heq => absurd (heq ▸ h) (by decide)⟩
  · rcases List.mem_cons.mp hc with rfl | hc
    · decide
    · rcases healthFields_chars hf hc with (h | h | h) | h | h <;>
        exact ⟨fun heq => absurd (heq ▸ h) (by decide), fun heq => absurd (heq ▸ h) (by decide)⟩

/-- The log, row by row. -/
def readHealthLog (log : String) : List (Option HealthSample) :=
  (lines [] log.toList).map fun line => readHealthCsv (String.ofList line)

/-- What a log tells more, once rows are appended to it. -/
theorem readHealthLog_append {old : String} (hold : old = "" ∨ ∃ text, old = text ++ "\n")
    (rows : List String) :
    readHealthLog (old ++ sheet rows) = readHealthLog old ++ readHealthLog (sheet rows) := by
  rw [readHealthLog, readHealthLog, readHealthLog, ← List.map_append]
  rcases hold with rfl | ⟨text, rfl⟩
  · rw [String.empty_append]
    rfl
  · have hlist : (text ++ "\n" ++ sheet rows).toList = text.toList ++ '\n' :: (sheet rows).toList := by
      rw [String.toList_append, String.toList_append]
      exact List.append_assoc _ _ _
    rw [hlist, lines_append_feed, String.toList_append]
    rfl

/-- The rows of occasions are read back. -/
theorem readHealthLog_lines (battery : LinuxBattery) (occasions : List Occasion) :
    readHealthLog (sheet (occasions.map fun o => o.line battery))
      = occasions.map fun o => some (o.sample battery) := by
  have hfeed : ∀ text ∈ occasions.map fun o => o.line battery, '\n' ∉ text.toList := by
    intro text htext hmem
    obtain ⟨o, -, rfl⟩ := List.mem_map.mp htext
    exact (mem_line hmem).1 rfl
  have hreturn : ∀ text ∈ occasions.map fun o => o.line battery,
      text.toList.getLast? ≠ some '\r' := by
    intro text htext hlast
    obtain ⟨o, -, rfl⟩ := List.mem_map.mp htext
    exact (mem_line (List.mem_of_getLast? hlast)).2 rfl
  have hlines := lines_sheet hfeed hreturn
  have hread : ∀ log : String,
      readHealthLog log = ((lines [] log.toList).map String.ofList).map readHealthCsv := by
    intro log
    simp only [readHealthLog, List.map_map, Function.comp_def]
  rw [hread, hlines, List.map_map]
  apply List.map_congr_left
  intro o _
  rw [Function.comp_apply, readHealthCsv_line]

namespace TelemetryEvent

variable {σ : Type*} (battery : LinuxBattery)

/-- The sample of a call whose row lands. -/
def landed? : TelemetryEvent σ → Option Occasion
  | .sample o => if o.outcome = .appended then some o else none
  | .enforce _ _ _ => none

/-- No append of the call stops midway. -/
def Whole : TelemetryEvent σ → Prop
  | .sample o => ∀ written error, o.outcome ≠ .writeFailed written error
  | .enforce _ _ _ => True

theorem Whole.row_eq {e : TelemetryEvent σ} (h : e.Whole) :
    e.row battery = sheet (e.landed?.toList.map fun o => o.line battery) := by
  cases e with
  | enforce clock config device => rfl
  | sample o =>
    cases houtcome : o.outcome with
    | writeFailed written error => exact absurd houtcome (h written error)
    | openFailed error => simp [row, landed?, houtcome, AppendOutcome.landed, sheet]
    | appended => simp [row, landed?, houtcome, AppendOutcome.landed, sheet]

end TelemetryEvent

section Log

variable {σ : Type*} (threshold : ChargeThreshold σ) (battery : LinuxBattery)

/-- The calls whose rows are in the log: the log was asked for, an hour had passed, and the append
landed. -/
def logged (events : List (TelemetryEvent σ)) : List Occasion :=
  (passed healthLogIntervalSecs 0 (TelemetryEvent.requests threshold battery .healthLog events)).flatMap
    fun r => r.2.1.landed?.toList

/-- As long as no append stops midway, the log grows by whole rows. -/
theorem healthLog_rows (old : String) {events : List (TelemetryEvent σ)}
    (hwhole : ∀ e ∈ events, e.Whole) :
    (run (telemetryStep threshold battery) (.start old) events).healthLog
      = old ++ sheet ((logged threshold battery events).map fun o => o.line battery) := by
  obtain ⟨calls, hcalls⟩ : ∃ calls, calls = passed healthLogIntervalSecs 0
    (TelemetryEvent.requests threshold battery .healthLog events) := ⟨_, rfl⟩
  have hrows : ∀ r ∈ calls, r.2.1.row battery
      = sheet (r.2.1.landed?.toList.map fun o => o.line battery) := by
    intro r hr
    rw [hcalls] at hr
    have hrequest := (passed_sublist _ _ _).subset hr
    rw [TelemetryEvent.requests, List.mem_filterMap] at hrequest
    obtain ⟨e, he, hask⟩ := hrequest
    obtain ⟨n, -, rfl⟩ := Option.map_eq_some_iff.mp hask
    exact (hwhole e he).row_eq battery
  have hgrown := @healthLog_run σ threshold battery (.start old) events
  rw [hgrown, logged, List.map_flatMap, ← join_sheets]
  show old ++ String.join ((passed _ 0 _).map _) = _
  rw [← hcalls, List.map_congr_left hrows]

/-- **The log decodes.**  Whatever complete lines an earlier daemon left, and whatever is called in
between: as long as no append stops midway, the reader finds the earlier rows and then, in order, the
samples of exactly the calls whose rows landed. -/
theorem healthLog_decodes {old : String} (hold : old = "" ∨ ∃ text, old = text ++ "\n")
    {events : List (TelemetryEvent σ)} (hwhole : ∀ e ∈ events, e.Whole) :
    readHealthLog (run (telemetryStep threshold battery) (.start old) events).healthLog
      = readHealthLog old ++ (logged threshold battery events).map fun o => some (o.sample battery) := by
  rw [healthLog_rows threshold battery old hwhole, readHealthLog_append hold, readHealthLog_lines]

end Log

/-- A worn pack. -/
def wornPack : Tree := .ofFiles
  [(powerSupplyBase ++ ["BAT0", "charge_full"], "40000"),
    (powerSupplyBase ++ ["BAT0", "charge_full_design"], "48000"),
    (powerSupplyBase ++ ["BAT0", "temp"], "-15")]

/-- A sample of it, with the log asked for. -/
def wornSample (secs : ℕ) (h : secs < 2 ^ 63) : TelemetryEvent SysfsRoot :=
  .sample ⟨⟨secs, by constructor <;> omega⟩, { Config.default with batteryHealthLog := true },
    wornPack, .appended⟩

theorem wornSample_whole (secs : ℕ) (h : secs < 2 ^ 63) : (wornSample secs h).Whole := by
  intro written error hfailed
  cases hfailed

/-- Half an hour later there is no row, an hour later there is. -/
theorem healthLog_decodes_hour :
    let events := [wornSample 10 (by decide), wornSample 1810 (by decide),
      wornSample 3610 (by decide)]
    readHealthLog (run (telemetryStep Threshold.linuxChargeThreshold ⟨"BAT0", true⟩) (.start "") events).healthLog
      = readHealthLog "" ++ (logged Threshold.linuxChargeThreshold ⟨"BAT0", true⟩ events).map fun o =>
          some (o.sample ⟨"BAT0", true⟩) := by
  intro events
  apply healthLog_decodes _ _ (.inl rfl)
  intro e he
  rw [List.mem_cons, List.mem_pair] at he
  rcases he with rfl | rfl | rfl <;> exact wornSample_whole _ _

example : (logged Threshold.linuxChargeThreshold ⟨"BAT0", true⟩ [wornSample 10 (by decide),
    wornSample 1810 (by decide), wornSample 3610 (by decide)]).map (fun o => o.line ⟨"BAT0", true⟩)
  = ["1970-01-01T00:00:10,health=83.3,full=40000,design=48000,cycles=na,capacity=0,charging=false,temp=-1.5",
    "1970-01-01T01:00:10,health=83.3,full=40000,design=48000,cycles=na,capacity=0,charging=false,temp=-1.5"] := by
  decide +kernel

end WattWarden
