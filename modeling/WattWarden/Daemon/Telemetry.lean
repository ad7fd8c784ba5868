import WattWarden.Daemon.HealthLog
import WattWarden.Daemon.Runner
import WattWarden.Library.Runs
import WattWarden.Library.Tenths
import WattWarden.Library.Throttle
import WattWarden.Platform.Health

/-!
# The daemon's battery telemetry

What the daemon tells about the battery: a row of the health log every hour, a warning about a hot
pack or a threshold that cannot be set at most every ten minutes.  Three cells of the runner remember
when that was.  Percentages and temperatures are exact here.

* `formatHealthCsv` / `tempExceedsLimit` / `appendLine` — translated from the source;
* `Telemetry` — the three cells, the health log and what was logged;
* `maybeSampleHealth` — one sample; `enforceLogged` — `enforce_charge_limit` with what it logs;
* `enforceLogged_fst` — **PROVED**: to the device that is `enforceChargeLimit`;
* `Limited` / `TelemetryEvent.asks` — the three things that are limited, and when they are asked for;
* `telemetry_step` / `telemetry_run` — **PROVED**: each of the three is a limiter of its own, and the
  rows of the log are what the first lets through.
-/

namespace WattWarden

open Library.FileTree Library.Numerals Library.Runs Library.Tenths Library.Throttle

/-- `HEALTH_LOG_INTERVAL_SECS` -/
def healthLogIntervalSecs : ℤ := 3600

/-- `TEMP_WARN_INTERVAL_SECS` -/
def tempWarnIntervalSecs : ℤ := 600

/-- A reading of the system clock, in seconds of the epoch. -/
structure SystemTime where
  secs : ℤ
  isI64 : IsI64 secs

/-- `duration_since(UNIX_EPOCH)` in seconds, 0 for a clock before the epoch. -/
def SystemTime.epochSecs (clock : SystemTime) : ℤ := max clock.secs 0

theorem SystemTime.epochSecs_nonneg (clock : SystemTime) : 0 ≤ clock.epochSecs := le_max_right _ _

theorem SystemTime.epochSecs_isI64 (clock : SystemTime) : IsI64 clock.epochSecs := by
  obtain ⟨hlo, hhi⟩ := clock.isI64
  rw [epochSecs]
  constructor <;> omega

/-! ### The health log -/

/-- `or_na` -/
def orNa (text : Option String) : String := text.getD "na"

/-- `format_health_csv` -/
def formatHealthCsv (ts : String) (h : BatteryHealth ℚ) (capacity : ℕ) (charging : Bool) : String :=
  ts ++ ",health=" ++ orNa ((h.healthPct ℚ).map shortest) ++
    ",full=" ++ orNa (h.full.map decimal) ++
    ",design=" ++ orNa (h.design.map decimal) ++
    ",cycles=" ++ orNa (h.cycleCount.map decimal) ++
    ",capacity=" ++ decimal capacity ++
    ",charging=" ++ toString charging ++
    ",temp=" ++ orNa (h.tempC.map fixedOne)

/-- `temp_exceeds_limit` -/
def tempExceedsLimit (tempC : Option ℚ) (limitC : Option ℕ) (charging : Bool) : Bool :=
  charging &&
    match tempC, limitC with
    | some t, some l => decide ((l : ℚ) < t)
    | _, _ => false

/-- Without a limit nothing is too hot. -/
@[simp] theorem tempExceedsLimit_none (tempC : Option ℚ) (charging : Bool) :
    tempExceedsLimit tempC none charging = false := by
  cases tempC <;> simp [tempExceedsLimit]

/-- How an append ends: all of it lands, the file does not open, or only the first characters of the
line and its line feed land. -/
inductive AppendOutcome where
  | appended
  | openFailed (error : String)
  | writeFailed (written : ℕ) (error : String)
  deriving DecidableEq, Repr

/-- The part of a line that lands in the log. -/
def AppendOutcome.landed (line : String) : AppendOutcome → String
  | .appended => line ++ "\n"
  | .openFailed _ => ""
  | .writeFailed written _ => String.ofList ((line ++ "\n").toList.take written)

/-- `append_line` -/
def appendLine (log line : String) (outcome : AppendOutcome) : String × Except String Unit :=
  (log ++ outcome.landed line,
    match outcome with
    | .appended => .ok ()
    | .openFailed e => .error e
    | .writeFailed _ e => .error e)

/-- What the daemon logs about the battery. -/
inductive Notice where
  | thresholdLocked (limit : ℕ)
  | thresholdFailed (error : WattWardenError)
  | sampled (line : String)
  | appendFailed (error : String)
  | tooHot (tempC : Option ℚ) (limitC : Option ℕ)
  deriving DecidableEq, Repr

/-- The texts of the `info!` and `warn!` calls. -/
def Notice.text : Notice → String
  | .thresholdLocked limit => "Battery charge threshold locked at " ++ decimal limit ++ "%"
  | .thresholdFailed error => "Failed to apply battery charge threshold: " ++ error.display
  | .sampled line => "Battery health sample: " ++ line
  | .appendFailed error => "Failed to append battery health sample: " ++ error
  | .tooHot tempC limitC =>
      "Battery " ++ orNa (tempC.map fixedOne) ++ "°C over the " ++ orNa (limitC.map decimal) ++
        "°C limit while charging — consider unplugging or reducing load."

/-! ### The runner -/

/-- The cells of the runner (0 for never), the file at `HEALTH_LOG_PATH`, and the log of the daemon
with its times. -/
structure Telemetry where
  lastHealthLog : ℤ
  lastTempWarn : ℤ
  lastChargeWarn : ℤ
  healthLog : String
  notices : List (ℤ × Notice)

namespace Telemetry

/-- A new runner, over the file an earlier one left. -/
def start (healthLog : String) : Telemetry := ⟨0, 0, 0, healthLog, []⟩

def notify (t : Telemetry) (now : ℤ) (notice : Notice) : Telemetry :=
  { t with notices := t.notices ++ [(now, notice)] }

end Telemetry

/-- What a call of `maybe_sample_health` finds, and how its append would end. -/
structure Occasion where
  clock : SystemTime
  config : Config
  tree : Tree
  outcome : AppendOutcome

namespace Occasion

variable (battery : LinuxBattery) (o : Occasion)

def charging : Bool := battery.isCharging o.tree

/-- The row that is due; the timestamp never overflows. -/
def line : String :=
  formatHealthCsv ((unixToIsoUtc o.clock.epochSecs).getD "") (battery.health o.tree)
    (battery.batteryPercentage o.tree) (o.charging battery)

/-- The pack is over the user's limit. -/
def hot : Bool :=
  tempExceedsLimit (battery.health o.tree).tempC o.config.batteryTempWarnC (o.charging battery)

/-- What is logged about the append. -/
def sampleNotice : Notice :=
  match (appendLine "" (o.line battery) o.outcome).2 with
  | .ok () => .sampled (o.line battery)
  | .error e => .appendFailed e

def hotNotice : Notice := .tooHot (battery.health o.tree).tempC o.config.batteryTempWarnC

end Occasion

/-- The first half of `maybe_sample_health`: the row.  The time is remembered before the append is
tried. -/
def sampleLog (battery : LinuxBattery) (t : Telemetry) (o : Occasion) : Telemetry :=
  let now := o.clock.epochSecs
  if o.config.batteryHealthLog && due healthLogIntervalSecs t.lastHealthLog now then
    { t with
      lastHealthLog := now
      healthLog := (appendLine t.healthLog (o.line battery) o.outcome).1
      notices := t.notices ++ [(now, o.sampleNotice battery)] }
  else t

/-- The second half: the warning. -/
def sampleTemp (battery : LinuxBattery) (t : Telemetry) (o : Occasion) : Telemetry :=
  let now := o.clock.epochSecs
  if o.hot battery && due tempWarnIntervalSecs t.lastTempWarn now then
    { t with lastTempWarn := now, notices := t.notices ++ [(now, o.hotNotice battery)] }
  else t

/-- `maybe_sample_health` -/
def maybeSampleHealth (battery : LinuxBattery) (t : Telemetry) (o : Occasion) : Telemetry :=
  if !o.config.batteryHealthLog && o.config.batteryTempWarnC.isNone then t
  else sampleTemp battery (sampleLog battery t o) o

/-- What a set call of `enforce_charge_limit` logs. -/
def Telemetry.reported (t : Telemetry) (clock : SystemTime) (limit : ℕ) :
    Except WattWardenError Unit → Telemetry
  | .ok () => t.notify clock.epochSecs (.thresholdLocked limit)
  | .error e =>
      let now := clock.epochSecs
      if due tempWarnIntervalSecs t.lastChargeWarn now then
        { t with lastChargeWarn := now, notices := t.notices ++ [(now, .thresholdFailed e)] }
      else t

section Events

variable {σ : Type*} (threshold : ChargeThreshold σ) (battery : LinuxBattery)

/-- `enforce_charge_limit` with what it logs. -/
def enforceLogged (config : Config) (clock : SystemTime) (device : σ) (t : Telemetry) :
    σ × Telemetry :=
  match config.batteryChargeLimit with
  | none => (device, t)
  | some limit =>
      if !threshold.supportsThreshold device then (device, t)
      else
        match threshold.chargeThreshold device with
        | .ok cur =>
            if cur = limit then (device, t)
            else
              let r := threshold.setChargeThreshold device limit
              (r.1, t.reported clock limit r.2)
        | .error _ =>
            let r := threshold.setChargeThreshold device limit
            (r.1, t.reported clock limit r.2)

/-- A set call, when there is one, and what is logged about it. -/
theorem enforceLogged_eq (config : Config) (clock : SystemTime) (device : σ) (t : Telemetry) :
    enforceLogged threshold config clock device t
      = (limitCall threshold config device).elim (device, t) fun limit =>
          ((threshold.setChargeThreshold device limit).1,
            t.reported clock limit (threshold.setChargeThreshold device limit).2) := by
  rw [enforceLogged, limitCall]
  cases config.batteryChargeLimit with
  | none => rfl
  | some limit =>
    cases hsupports : threshold.supportsThreshold device with
    | false => simp [Option.filter]
    | true =>
      cases hread : threshold.chargeThreshold device with
      | error e => simp [Option.filter, Except.toOption]
      | ok cur =>
        by_cases heq : cur = limit
        · simp [Option.filter, Except.toOption, heq]
        · simp [Option.filter, Except.toOption, heq]

/-- **Logging does not change what the device is told.** -/
theorem enforceLogged_fst (config : Config) (clock : SystemTime) (device : σ) (t : Telemetry) :
    (enforceLogged threshold config clock device t).1
      = enforceChargeLimit threshold config device := by
  rw [enforceLogged_eq, enforceChargeLimit_eq]
  cases limitCall threshold config device <;> rfl

/-- A call of one of the two, with what it finds. -/
inductive TelemetryEvent (σ : Type*) where
  | sample (o : Occasion)
  | enforce (clock : SystemTime) (config : Config) (device : σ)

def telemetryStep (t : Telemetry) : TelemetryEvent σ → Telemetry
  | .sample o => maybeSampleHealth battery t o
  | .enforce clock config device => (enforceLogged threshold config clock device t).2

/-! ### Three limiters -/

/-- What is limited. -/
inductive Limited where
  | healthLog
  | tempWarn
  | chargeWarn
  deriving DecidableEq, Repr

def Limited.gap : Limited → ℤ
  | healthLog => healthLogIntervalSecs
  | tempWarn | chargeWarn => tempWarnIntervalSecs

/-- The cell that remembers the last one. -/
def Telemetry.last (t : Telemetry) : Limited → ℤ
  | .healthLog => t.lastHealthLog
  | .tempWarn => t.lastTempWarn
  | .chargeWarn => t.lastChargeWarn

/-- What a notice is limited as. -/
def Notice.limited : Notice → Option Limited
  | .thresholdLocked _ => none
  | .thresholdFailed _ => some .chargeWarn
  | .sampled _ | .appendFailed _ => some .healthLog
  | .tooHot _ _ => some .tempWarn

/-- The notices of one kind. -/
def Telemetry.noticesOf (t : Telemetry) (k : Limited) : List (ℤ × Notice) :=
  t.notices.filter fun n => decide (n.2.limited = some k)

namespace TelemetryEvent

def clock : TelemetryEvent σ → SystemTime
  | .sample o => o.clock
  | .enforce clock _ _ => clock

/-- What a call would log as `k`, were it not limited: a row when the user asked for the log, a
warning when the pack is over the user's limit, one when the threshold is set and that fails. -/
def asks : TelemetryEvent σ → Limited → Option Notice
  | .sample o, .healthLog => if o.config.batteryHealthLog then some (o.sampleNotice battery) else none
  | .sample o, .tempWarn => if o.hot battery then some (o.hotNotice battery) else none
  | .enforce _ config device, .chargeWarn =>
      (limitCall threshold config device).bind fun limit =>
        match (threshold.setChargeThreshold device limit).2 with
        | .ok () => none
        | .error e => some (.thresholdFailed e)
  | _, _ => none

/-- The requests of a limiter: the calls that ask for it, with their times. -/
def requests (k : Limited) (events : List (TelemetryEvent σ)) :
    List (ℤ × TelemetryEvent σ × Notice) :=
  events.filterMap fun e => (e.asks threshold battery k).map fun n => (e.clock.epochSecs, e, n)

/-- What a call that is let through adds to the health log. -/
def row : TelemetryEvent σ → String
  | .sample o => o.outcome.landed (o.line battery)
  | .enforce _ _ _ => ""

end TelemetryEvent

/-! ### One call -/

variable {threshold battery} {t t' t'' : Telemetry} {now : ℤ} {ask : Option Notice} {k k' : Limited}

/-- To the limiter `k` the step looks like one request for `ask`, or none. -/
structure Obeys (k : Limited) (ask : Option Notice) (now : ℤ) (t t' : Telemetry) : Prop where
  last : t'.last k = if ask.isSome && due k.gap (t.last k) now then now else t.last k
  notices : t'.noticesOf k = t.noticesOf k ++
    (ask.filter fun _ => due k.gap (t.last k) now).toList.map fun n => (now, n)

/-- A step that leaves a limiter alone. -/
theorem obeys_of_same (hlast : t'.last k = t.last k) (hnotices : t'.noticesOf k = t.noticesOf k)
    (h : ask = none ∨ due k.gap (t.last k) now = false) : Obeys k ask now t t' := by
  constructor
  · rw [hlast]
    rcases h with h | h <;> simp [h]
  · rw [hnotices]
    rcases h with h | h
    · simp [h]
    · cases ask <;> simp [h, Option.filter]

/-- A step that lets a notice of the kind `k'` through. -/
theorem obeys_of_admitted {n : Notice} (hkind : n.limited = some k')
    (hdue : due k'.gap (t.last k') now = true)
    (hlast : ∀ k, t'.last k = if k = k' then now else t.last k)
    (hnotices : t'.notices = t.notices ++ [(now, n)]) :
    Obeys k (if k = k' then some n else none) now t t' := by
  by_cases hk : k = k'
  · subst hk
    constructor
    · simp [hlast, hdue]
    · simp [Telemetry.noticesOf, hnotices, hkind, hdue, Option.filter]
  · apply obeys_of_same
    · rw [hlast, if_neg hk]
    · simp [Telemetry.noticesOf, hnotices, hkind, Ne.symm hk]
    · exact .inl (if_neg hk)

/-- Of two steps, one asks. -/
theorem Obeys.trans (h : Obeys k none now t t') (h' : Obeys k ask now t' t'') :
    Obeys k ask now t t'' := by
  have hlast : t'.last k = t.last k := by simpa using h.last
  have hnotices : t'.noticesOf k = t.noticesOf k := by simpa using h.notices
  constructor
  · rw [h'.last, hlast]
  · rw [h'.notices, hlast, hnotices]

theorem Obeys.trans_left (h : Obeys k ask now t t') (h' : Obeys k none now t' t'') :
    Obeys k ask now t t'' := by
  have hlast : t''.last k = t'.last k := by simpa using h'.last
  have hnotices : t''.noticesOf k = t'.noticesOf k := by simpa using h'.notices
  constructor
  · rw [hlast, h.last]
  · rw [hnotices, h.notices]

variable (battery) in
theorem limited_sampleNotice (o : Occasion) : (o.sampleNotice battery).limited = some .healthLog := by
  rw [Occasion.sampleNotice]
  split <;> rfl

variable (battery) in
/-- The row. -/
theorem sampleLog_obeys (t : Telemetry) (o : Occasion) (k : Limited) :
    Obeys k (if k = .healthLog ∧ o.config.batteryHealthLog then some (o.sampleNotice battery) else none)
      o.clock.epochSecs t (sampleLog battery t o) := by
  rw [sampleLog]
  by_cases hon : o.config.batteryHealthLog = true
  · by_cases hdue : due healthLogIntervalSecs t.lastHealthLog o.clock.epochSecs = true
    · simp only [hon, hdue, Bool.and_self, if_true, and_true]
      refine obeys_of_admitted (limited_sampleNotice battery o) hdue ?_ rfl
      intro k
      cases k <;> rfl
    · rw [Bool.not_eq_true] at hdue
      simp only [hon, hdue, Bool.and_false, Bool.false_eq_true, if_false, and_true]
      apply obeys_of_same rfl rfl
      by_cases hk : k = .healthLog
      · exact .inr (hk ▸ hdue)
      · exact .inl (if_neg hk)
  · simp only [hon, Bool.false_and, Bool.false_eq_true, if_false, and_false]
    exact obeys_of_same rfl rfl (.inl rfl)

variable (battery) in
/-- The warning. -/
theorem sampleTemp_obeys (t : Telemetry) (o : Occasion) (k : Limited) :
    Obeys k (if k = .tempWarn ∧ o.hot battery then some (o.hotNotice battery) else none)
      o.clock.epochSecs t (sampleTemp battery t o) := by
  rw [sampleTemp]
  by_cases hhot : o.hot battery = true
  · by_cases hdue : due tempWarnIntervalSecs t.lastTempWarn o.clock.epochSecs = true
    · simp only [hhot, hdue, Bool.and_self, if_true, and_true]
      refine obeys_of_admitted rfl hdue ?_ rfl
      intro k
      cases k <;> rfl
    · rw [Bool.not_eq_true] at hdue
      simp only [hhot, hdue, Bool.and_false, Bool.false_eq_true, if_false, and_true]
      apply obeys_of_same rfl rfl
      by_cases hk : k = .tempWarn
      · exact .inr (hk ▸ hdue)
      · exact .inl (if_neg hk)
  · simp only [hhot, Bool.false_and, Bool.false_eq_true, if_false, and_false]
    exact obeys_of_same rfl rfl (.inl rfl)

variable (battery) in
/-- The shortcut of `maybe_sample_health` skips two halves that would do nothing. -/
theorem maybeSampleHealth_eq (t : Telemetry) (o : Occasion) :
    maybeSampleHealth battery t o = sampleTemp battery (sampleLog battery t o) o := by
  rw [maybeSampleHealth]
  split
  · rename_i hoff
    rw [Bool.and_eq_true, Bool.not_eq_true', Option.isNone_iff_eq_none] at hoff
    have hcold : o.hot battery = false := by
      rw [Occasion.hot, hoff.2, tempExceedsLimit_none]
    rw [sampleLog, sampleTemp]
    simp [hoff.1, hcold]
  · rfl

variable (threshold battery) in
/-- **One call** is a request to each limiter it asks, and none to the others. -/
theorem telemetry_step (t : Telemetry) (e : TelemetryEvent σ) (k : Limited) :
    Obeys k (e.asks threshold battery k) e.clock.epochSecs t (telemetryStep threshold battery t e) := by
  cases e with
  | sample o =>
    have hlog := sampleLog_obeys battery t o k
    have htemp := sampleTemp_obeys battery (sampleLog battery t o) o k
    show Obeys k _ o.clock.epochSecs t (maybeSampleHealth battery t o)
    rw [maybeSampleHealth_eq]
    cases k with
    | healthLog =>
      simp only [reduceCtorEq, false_and, if_false] at htemp
      simpa [TelemetryEvent.asks] using hlog.trans_left htemp
    | tempWarn =>
      simp only [reduceCtorEq, false_and, if_false] at hlog
      simpa [TelemetryEvent.asks] using hlog.trans htemp
    | chargeWarn =>
      simp only [reduceCtorEq, false_and, if_false] at hlog htemp
      exact hlog.trans htemp
  | enforce clock config device =>
    show Obeys k _ clock.epochSecs t (enforceLogged threshold config clock device t).2
    rw [enforceLogged_eq]
    cases hcall : limitCall threshold config device with
    | none =>
      apply obeys_of_same rfl rfl
      cases k <;> simp [TelemetryEvent.asks, hcall]
    | some limit =>
      show Obeys k _ clock.epochSecs t (t.reported clock limit (threshold.setChargeThreshold device limit).2)
      cases hset : (threshold.setChargeThreshold device limit).2 with
      | ok u =>
        apply obeys_of_same
        · cases k <;> rfl
        · simp [Telemetry.noticesOf, Telemetry.reported, Telemetry.notify, Notice.limited]
        · left
          cases k <;> simp [TelemetryEvent.asks, hcall, hset]
      | error e =>
        have hasks : (TelemetryEvent.enforce clock config device).asks threshold battery k
            = if k = .chargeWarn then some (.thresholdFailed e) else none := by
          cases k <;> simp [TelemetryEvent.asks, hcall, hset]
        rw [hasks, Telemetry.reported]
        by_cases hdue : due tempWarnIntervalSecs t.lastChargeWarn clock.epochSecs = true
        · simp only [hdue, if_true]
          refine obeys_of_admitted rfl hdue ?_ rfl
          intro k
          cases k <;> rfl
        · rw [Bool.not_eq_true] at hdue
          simp only [hdue, Bool.false_eq_true, if_false]
          apply obeys_of_same rfl rfl
          by_cases hk : k = .chargeWarn
          · exact .inr (hk ▸ hdue)
          · exact .inl (if_neg hk)

variable (threshold battery) in
/-- What one call adds to the health log. -/
theorem healthLog_step (t : Telemetry) (e : TelemetryEvent σ) :
    (telemetryStep threshold battery t e).healthLog = t.healthLog ++
      if (e.asks threshold battery .healthLog).isSome && due healthLogIntervalSecs t.lastHealthLog
        e.clock.epochSecs then e.row battery else "" := by
  cases e with
  | sample o =>
    have htemp : ∀ t : Telemetry, (sampleTemp battery t o).healthLog = t.healthLog := by
      intro t
      rw [sampleTemp]
      split <;> rfl
    show (maybeSampleHealth battery t o).healthLog = _
    rw [maybeSampleHealth_eq, htemp, sampleLog]
    by_cases hon : o.config.batteryHealthLog = true
    · simp only [hon, Bool.true_and, TelemetryEvent.asks, if_true, Option.isSome_some,
        TelemetryEvent.clock]
      split <;> simp [appendLine, TelemetryEvent.row]
    · simp [hon, TelemetryEvent.asks]
  | enforce clock config device =>
    have hreported : ∀ limit r, (t.reported clock limit r).healthLog = t.healthLog := by
      intro limit r
      cases r with
      | ok u => rfl
      | error e =>
        rw [Telemetry.reported]
        split <;> rfl
    show (enforceLogged threshold config clock device t).2.healthLog = _
    rw [enforceLogged_eq]
    cases limitCall threshold config device with
    | none => simp [TelemetryEvent.asks]
    | some limit => simp [TelemetryEvent.asks, hreported]

/-! ### A run -/

/-- **A run** is three limiters side by side: what is logged of a kind is what its limiter lets through,
and its cell is the limiter's memory. -/
theorem telemetry_run (t : Telemetry) (events : List (TelemetryEvent σ)) (k : Limited) :
    (run (telemetryStep threshold battery) t events).last k
        = memory k.gap (t.last k) (TelemetryEvent.requests threshold battery k events) ∧
      (run (telemetryStep threshold battery) t events).noticesOf k = t.noticesOf k ++
        (passed k.gap (t.last k) (TelemetryEvent.requests threshold battery k events)).map
          fun r => (r.1, r.2.2) := by
  induction events generalizing t with
  | nil => exact ⟨rfl, (List.append_nil _).symm⟩
  | cons e events ih =>
    obtain ⟨hlast, hnotices⟩ := telemetry_step threshold battery t e k
    obtain ⟨ihlast, ihnotices⟩ := ih (telemetryStep threshold battery t e)
    rw [run_cons, ihlast, ihnotices, hlast, hnotices]
    rw [TelemetryEvent.requests, TelemetryEvent.requests, List.filterMap_cons]
    cases hask : e.asks threshold battery k with
    | none => simp
    | some n =>
      by_cases hdue : due k.gap (t.last k) e.clock.epochSecs = true
      · simp [hdue, memory, passed, Option.filter]
      · simp [hdue, memory, passed, Option.filter]

/-- The health log grows by the rows that are let through. -/
theorem healthLog_run (t : Telemetry) (events : List (TelemetryEvent σ)) :
    (run (telemetryStep threshold battery) t events).healthLog = t.healthLog ++ String.join
      ((passed healthLogIntervalSecs t.lastHealthLog
        (TelemetryEvent.requests threshold battery .healthLog events)).map
          fun r => r.2.1.row battery) := by
  induction events generalizing t with
  | nil => simp [TelemetryEvent.requests, passed]
  | cons e events ih =>
    have hlast : (telemetryStep threshold battery t e).lastHealthLog = _ :=
      (telemetry_step threshold battery t e .healthLog).last
    rw [run_cons, ih, healthLog_step, hlast]
    rw [TelemetryEvent.requests, TelemetryEvent.requests, List.filterMap_cons]
    cases hask : e.asks threshold battery .healthLog with
    | none => simp [Telemetry.last]
    | some n =>
      by_cases hdue : due healthLogIntervalSecs t.lastHealthLog e.clock.epochSecs = true
      · simp [hdue, passed, Limited.gap, Telemetry.last, String.append_assoc]
      · simp [hdue, passed, Limited.gap, Telemetry.last]

end Events

end WattWarden
