import WattWarden.Core.Calibrate
import WattWarden.Library.Stages

/-!
# Calibration phases

The phase in the state file is rebuilt at every `status` call from what the call observes.

* `Observation` / `Full` / `Empty` — one call, and the two observations that move the phase;
* `status_stage` — **PROVED**: one call moves the stored phase as a recogniser of "full, and later
  empty";
* `phases_follow_observations` — **PROVED**: after any calls whose saves succeed, the stored phase is
  read off the observations and the threshold is the one `start` read.
-/

namespace WattWarden

open Library.Runs Library.Stages

namespace Calibrate

variable {σ τ : Type*}

/-- A `status` call: the battery and the state of the machine it looks at. -/
structure Observation (τ : Type*) where
  battery : PowerSource τ
  device : τ

namespace Observation

/-- The gauge shows a full battery. -/
def Full (o : Observation τ) : Prop := ∃ n, o.battery.batteryPercentage o.device = .ok n ∧ 100 ≤ n

/-- The gauge shows an empty battery that is not charging; a charging flag that cannot be read counts
as not charging. -/
def Empty (o : Observation τ) : Prop :=
  (∃ n, o.battery.batteryPercentage o.device = .ok n ∧ n ≤ 10) ∧
    (o.battery.isCharging o.device).toOption.getD false = false

/-- The gauge cannot be read. -/
def Fails (o : Observation τ) : Prop := ∃ e, o.battery.batteryPercentage o.device = .error e

end Observation

/-- The state file after some `status` calls whose saves succeed. -/
def afterStatus (file : StateFile) (calls : List (Observation τ)) : StateFile :=
  run (fun file o => (status o.battery o.device file .saved).file) file calls

/-- How far the recogniser of "full, and later empty" has come in a phase. -/
def Phase.stage : Phase → Stage
  | charge => .waiting
  | discharge => .armed
  | recharge => .fired

theorem Phase.stage_inj {phase phase' : Phase} : phase.stage = phase'.stage ↔ phase = phase' := by
  cases phase <;> cases phase' <;> decide

/-- The phase machine is that recogniser. -/
theorem advance_stage {ω : Type*} {A B : ω → Prop} {o : ω} {capacity : ℕ} {charging : Bool}
    (hA : A o ↔ 100 ≤ capacity) (hB : B o ↔ capacity ≤ 10 ∧ charging = false)
    (saved : Option ℕ) (phase : Phase) :
    (CalibrationState.advance ⟨saved, phase⟩ capacity charging).phase.stage
      = next A B phase.stage o := by
  cases phase with
  | charge =>
    by_cases h : 100 ≤ capacity
    · simp [CalibrationState.advance, Phase.stage, next, hA, h]
    · simp [CalibrationState.advance, Phase.stage, next, hA, h]
  | discharge =>
    by_cases h : capacity ≤ 10
    · cases charging with
      | true => simp [CalibrationState.advance, Phase.stage, next, hB]
      | false => simp [CalibrationState.advance, Phase.stage, next, hB, h]
    · simp [CalibrationState.advance, Phase.stage, next, hB, h]
  | recharge => rfl

/-- A failing gauge: the call returns an error and leaves the file alone. -/
theorem status_of_fails {o : Observation τ} (h : o.Fails) (state : CalibrationState)
    (outcome : SaveOutcome) : (∃ e, (status o.battery o.device (.holds state) outcome).result
        = .error e) ∧
      (status o.battery o.device (.holds state) outcome).file = .holds state := by
  obtain ⟨e, he⟩ := h
  constructor
  · exact ⟨e.display, by simp only [status, CalibrationState.load, he]⟩
  · simp only [status, CalibrationState.load, he]

/-- **One call.**  It keeps the threshold and moves the phase by what it observes. -/
theorem status_stage (saved : Option ℕ) (phase : Phase) (o : Observation τ) :
    ∃ phase', (status o.battery o.device (.holds ⟨saved, phase⟩) .saved).file
        = .holds ⟨saved, phase'⟩ ∧
      phase'.stage = next Observation.Full Observation.Empty phase.stage o := by
  cases hcap : o.battery.batteryPercentage o.device with
  | error e =>
    have hfull : ¬o.Full := by simp [Observation.Full, hcap]
    have hempty : ¬o.Empty := by simp [Observation.Empty, hcap]
    refine ⟨phase, (status_of_fails ⟨e, hcap⟩ _ _).2, ?_⟩
    cases phase with
    | charge => simp [Phase.stage, next, hfull]
    | discharge => simp [Phase.stage, next, hempty]
    | recharge => rfl
  | ok capacity =>
    have hfull : o.Full ↔ 100 ≤ capacity := by simp [Observation.Full, hcap]
    have hempty : o.Empty ↔ capacity ≤ 10 ∧
        (o.battery.isCharging o.device).toOption.getD false = false := by
      simp [Observation.Empty, hcap]
    refine ⟨_, ?_, advance_stage hfull hempty saved phase⟩
    simp only [status, CalibrationState.load, hcap, CalibrationState.save]
    rw [StateFile.holds.injEq]
    have hsaved := CalibrationState.advance_savedThreshold ⟨saved, phase⟩ capacity
      ((o.battery.isCharging o.device).toOption.getD false)
    exact congrArg (fun saved => (⟨saved, _⟩ : CalibrationState)) hsaved

/-- **Any calls.** -/
theorem afterStatus_stage (saved : Option ℕ) (phase : Phase) (calls : List (Observation τ)) :
    ∃ phase', afterStatus (.holds ⟨saved, phase⟩) calls = .holds ⟨saved, phase'⟩ ∧
      phase'.stage = run (next Observation.Full Observation.Empty) phase.stage calls := by
  induction calls generalizing phase with
  | nil => exact ⟨phase, rfl, rfl⟩
  | cons o calls ih =>
    obtain ⟨phase₁, hfile, hstage⟩ := status_stage saved phase o
    obtain ⟨phase₂, hfiles, hstages⟩ := ih phase₁
    refine ⟨phase₂, ?_, ?_⟩
    · rw [← hfiles, ← hfile]
      rfl
    · rw [hstages, hstage]
      rfl

/-- **The phases follow the observations.**  After a successful `start` and any `status` calls whose
saves succeed, the state file holds the threshold read at the start; its phase is Recharge exactly
when the battery was seen full and strictly later empty, Discharge exactly when it was seen full only,
and Charge otherwise.  A call with a failing gauge returns an error and leaves the file alone, and no
further calls bring the phase back. -/
theorem phases_follow_observations (threshold : ChargeThreshold σ) (device : σ) (file : StateFile)
    (outcome : SaveOutcome) (msg : String)
    (hstart : (start threshold device file outcome).result = .ok msg)
    (calls : List (Observation τ)) :
    let stored := afterStatus (start threshold device file outcome).file
    let saved := (threshold.chargeThreshold device).toOption
    ∃ phase, stored calls = .holds ⟨saved, phase⟩ ∧
      (phase = .recharge ↔ InOrder Observation.Full Observation.Empty calls) ∧
      (phase = .discharge ↔ (∃ o ∈ calls, o.Full) ∧
        ¬InOrder Observation.Full Observation.Empty calls) ∧
      (phase = .charge ↔ ¬∃ o ∈ calls, o.Full) ∧
      (∀ o : Observation τ, o.Fails →
        (∃ e, (status o.battery o.device (stored calls) .saved).result = .error e) ∧
          stored (calls ++ [o]) = stored calls) ∧
      ∀ more : List (Observation τ), ∃ phase', stored (calls ++ more) = .holds ⟨saved, phase'⟩ ∧
        phase.stage.rank ≤ phase'.stage.rank := by
  intro stored saved
  have hfile : (start threshold device file outcome).file = .holds ⟨saved, .charge⟩ :=
    (start_ok hstart).2.2
  have hsplit : ∀ more : List (Observation τ),
      stored (calls ++ more) = afterStatus (stored calls) more := by
    intro more
    exact List.foldl_append
  obtain ⟨phase, hstored, hstage⟩ := afterStatus_stage saved .charge calls
  rw [← hfile] at hstored
  refine ⟨phase, hstored, ?_, ?_, ?_, ?_, ?_⟩
  · rw [← run_next_fired, ← Phase.stage_inj, hstage]
    rfl
  · rw [← run_next_armed, ← Phase.stage_inj, hstage]
    rfl
  · rw [← run_next_waiting (B := Observation.Empty), ← Phase.stage_inj, hstage]
    rfl
  · intro o hfails
    have hholds : stored calls = .holds ⟨saved, phase⟩ := hstored
    rw [hsplit, hholds]
    obtain ⟨herror, hkept⟩ := status_of_fails hfails ⟨saved, phase⟩ .saved
    exact ⟨herror, hkept⟩
  · intro more
    have hholds : stored calls = .holds ⟨saved, phase⟩ := hstored
    obtain ⟨phase', hmore, hstage'⟩ := afterStatus_stage saved phase more
    refine ⟨phase', ?_, ?_⟩
    · rw [hsplit, hholds, hmore]
    · rw [hstage']
      exact rank_le_run phase.stage more

/-- A gauge at `capacity` percent off the charger. -/
def gaugeAt (capacity : ℕ) : Observation Unit :=
  ⟨⟨fun _ => .ok capacity, fun _ => .ok false⟩, ()⟩

/-- A threshold of 80 that accepts every request. -/
def eighty : ChargeThreshold ℕ where
  supportsThreshold _ := true
  chargeThreshold v := .ok v
  setChargeThreshold _ v := (v, .ok ())

/-- Full, then empty: the phase is Recharge, and 80 is remembered. -/
theorem phases_full_then_empty :
    afterStatus (start eighty 80 .absent .saved).file [gaugeAt 100, gaugeAt 9]
      = .holds ⟨some 80, .recharge⟩ := by
  obtain ⟨phase, hstored, hrecharge, -⟩ := phases_follow_observations eighty 80 .absent .saved _ rfl
    [gaugeAt 100, gaugeAt 9]
  have hfull : (gaugeAt 100).Full := ⟨100, rfl, le_rfl⟩
  have hempty : (gaugeAt 9).Empty := ⟨⟨9, rfl, by decide⟩, rfl⟩
  have hphase : phase = .recharge := hrecharge.mpr ⟨_, _, hfull, hempty, List.Sublist.refl _⟩
  rw [hstored, hphase]
  rfl

end Calibrate

end WattWarden
