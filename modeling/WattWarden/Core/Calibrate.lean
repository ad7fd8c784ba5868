import WattWarden.Core.Traits

/-!
# Guided battery gauge recalibration

`calibrate::{start, status, finish}` and the state file they share.  Each command is a function
from the device and the file to the device, the file and the message or error it returns; whether
the save of the state file lands is an input of the commands that save.

* `StateFile` / `SaveOutcome` — what the file holds, and how a save can go wrong: before the
  file is touched, or after it was truncated;
* `CalibrationState.advance` — the phase machine;
* `start_ok`, `status_savedThreshold`, `finish_ok` — what the commands do to the device and to the
  saved threshold.
-/

namespace WattWarden

open Library.FileTree Library.Numerals

namespace Calibrate

def statePath : Path := ["var", "lib", "wattwarden", "calibration.json"]

inductive Phase where
  | charge
  | discharge
  | recharge
  deriving DecidableEq, Repr

def Phase.name : Phase → String
  | charge => "charge"
  | discharge => "discharge"
  | recharge => "recharge"

/-- What survives between two commands: the threshold active before `start`, and the phase. -/
structure CalibrationState where
  savedThreshold : Option ℕ
  phase : Phase
  deriving DecidableEq, Repr

/-- The state file: not there, not decodable, or a state. -/
inductive StateFile where
  | absent
  | garbage
  | holds (state : CalibrationState)
  deriving DecidableEq, Repr

/-- How a save ends: it lands, it fails before the file is opened, or it fails after the file was
truncated.  The text is what the operating system reports. -/
inductive SaveOutcome where
  | saved
  | dirFailed (e : String)
  | openFailed (e : String)
  | writeFailed (e : String)
  deriving DecidableEq, Repr

namespace CalibrationState

/-- `CalibrationState::load`. -/
def load : StateFile → Option CalibrationState
  | .absent => none
  | .garbage => none
  | .holds state => some state

/-- `CalibrationState::save`. -/
def save (state : CalibrationState) (file : StateFile) :
    SaveOutcome → StateFile × Except String Unit
  | .saved => (.holds state, .ok ())
  | .dirFailed e => (file, .error s!"{displayPath statePath.dropLast}: {e}")
  | .openFailed e => (file, .error s!"{displayPath statePath}: {e}")
  | .writeFailed e => (.garbage, .error s!"{displayPath statePath}: {e}")

/-- Advances the phase machine from the observed gauge state. -/
def advance (state : CalibrationState) (capacity : ℕ) (charging : Bool) : CalibrationState :=
  match state.phase with
  | .charge => if 100 ≤ capacity then { state with phase := .discharge } else state
  | .discharge =>
      if !charging && decide (capacity ≤ 10) then { state with phase := .recharge } else state
  | .recharge => state

def guidance (state : CalibrationState) : String :=
  match state.phase with
  | .charge =>
      "Next: plug in and charge to 100%, then run `sudo wattwarden calibrate status`."
  | .discharge =>
      "Next: unplug and use the machine on battery down to 10% or below, then re-check."
  | .recharge => "Next: recharge to 100% now, then run `sudo wattwarden calibrate done`."

@[simp] theorem advance_savedThreshold (state : CalibrationState) (capacity : ℕ)
    (charging : Bool) :
    (state.advance capacity charging).savedThreshold = state.savedThreshold := by
  rw [advance]
  split
  · split <;> rfl
  · split <;> rfl
  · rfl

end CalibrationState

def noCalibration : String :=
  "no calibration in progress (start one with `sudo wattwarden calibrate start`)"

variable {σ : Type*}

/-- What a command leaves behind: the device, the file, and its message or error. -/
structure Outcome (σ : Type*) where
  device : σ
  file : StateFile
  result : Except String String

/-- Phase 1: lift the ceiling to 100% and remember what it was. -/
def start (threshold : ChargeThreshold σ) (device : σ) (file : StateFile)
    (outcome : SaveOutcome) : Outcome σ :=
  match CalibrationState.load file with
  | some _ => ⟨device, file, .error <|
      "calibration already in progress (see `sudo wattwarden calibrate status`, or `abort`)"⟩
  | none =>
      if !threshold.supportsThreshold device then ⟨device, file, .error <|
        "hardware does not expose a charge threshold; calibration requires one"⟩
      else
        let savedThreshold := (threshold.chargeThreshold device).toOption
        match threshold.setChargeThreshold device 100 with
        | (device, .error e) =>
            ⟨device, file, .error s!"failed to lift the charge ceiling: {e.display}"⟩
        | (device, .ok ()) =>
            let state : CalibrationState := { savedThreshold, phase := .charge }
            match state.save file outcome with
            | (file, .error e) => ⟨device, file, .error e⟩
            | (file, .ok ()) =>
                let was := (savedThreshold.map fun t => s!"{t}%").getD "unknown"
                ⟨device, file, .ok
                  s!"Calibration started: charge ceiling lifted to 100% (was: {was}).\n{state.guidance}"⟩

/-- Phase walking: observe the gauge and tell the user what comes next. -/
def status (battery : PowerSource σ) (device : σ) (file : StateFile) (outcome : SaveOutcome) :
    Outcome σ :=
  match CalibrationState.load file with
  | none => ⟨device, file, .error noCalibration⟩
  | some state =>
      match battery.batteryPercentage device with
      | .error e => ⟨device, file, .error e.display⟩
      | .ok capacity =>
          let charging := (battery.isCharging device).toOption.getD false
          let state := state.advance capacity charging
          match state.save file outcome with
          | (file, .error e) => ⟨device, file, .error e⟩
          | (file, .ok ()) =>
              let where_ := if charging then "charging" else "on battery"
              ⟨device, file, .ok
                s!"Calibration in progress: phase {state.phase.name} at {capacity}% ({where_}).\n{state.guidance}"⟩

/-- Final phase: restore the previous threshold and forget the state.  The removal of the file
is unconditional once the threshold is back. -/
def finish (threshold : ChargeThreshold σ) (device : σ) (file : StateFile) : Outcome σ :=
  match CalibrationState.load file with
  | none => ⟨device, file, .error noCalibration⟩
  | some state =>
      match state.savedThreshold with
      | some t =>
          match threshold.setChargeThreshold device t with
          | (device, .error e) =>
              ⟨device, file, .error s!"failed to restore the {t}% threshold: {e.display}"⟩
          | (device, .ok ()) => ⟨device, .absent, .ok
              s!"Calibration finished: previous charge threshold restored at {t}%."⟩
      | none => ⟨device, .absent, .ok <|
          "Calibration finished. The previous threshold was unknown, so the ceiling stays at 100%" ++
          " — set one with `sudo wattwarden charge-limit <55-100>` if desired."⟩

/-! ### What each command does -/

variable {threshold : ChargeThreshold σ} {battery : PowerSource σ} {device : σ} {file : StateFile}
  {outcome : SaveOutcome} {msg : String}

/-- A `start` that returned `Ok` lifted the ceiling and recorded what it was. -/
theorem start_ok (h : (start threshold device file outcome).result = .ok msg) :
    (threshold.setChargeThreshold device 100).2 = .ok () ∧
    (start threshold device file outcome).device = (threshold.setChargeThreshold device 100).1 ∧
    (start threshold device file outcome).file
      = .holds ⟨(threshold.chargeThreshold device).toOption, .charge⟩ := by
  rw [start] at h ⊢
  cases hload : CalibrationState.load file with
  | some state => simp [hload] at h
  | none =>
    simp only [hload] at h ⊢
    cases hsupp : threshold.supportsThreshold device with
    | false => simp [hsupp] at h
    | true =>
      simp only [hsupp, Bool.not_true, Bool.false_eq_true, if_false] at h ⊢
      rcases hset : threshold.setChargeThreshold device 100 with ⟨device', e | u⟩
      · simp [hset] at h
      · simp only [hset] at h ⊢
        cases outcome with
        | saved => exact ⟨trivial, rfl, rfl⟩
        | dirFailed e => simp [CalibrationState.save] at h
        | openFailed e => simp [CalibrationState.save] at h
        | writeFailed e => simp [CalibrationState.save] at h

/-- Whatever it returns, `start` made at most one request to the device, for 100. -/
theorem start_device (threshold : ChargeThreshold σ) (device : σ) (file : StateFile)
    (outcome : SaveOutcome) : (start threshold device file outcome).device = device ∨
    (start threshold device file outcome).device = (threshold.setChargeThreshold device 100).1 := by
  rw [start]
  split
  · exact .inl rfl
  · split
    · exact .inl rfl
    · right
      rcases threshold.setChargeThreshold device 100 with ⟨device', e | u⟩
      · rfl
      · cases outcome <;> rfl

@[simp] theorem status_device :
    (status battery device file outcome).device = device := by
  rw [status]
  split
  · rfl
  · split
    · rfl
    · simp only
      split <;> rfl

/-- `status` keeps the recorded threshold, or loses the file to a failed write. -/
theorem status_savedThreshold {state state' : CalibrationState}
    (hfile : CalibrationState.load file = some state)
    (h : CalibrationState.load (status battery device file outcome).file = some state') :
    state'.savedThreshold = state.savedThreshold := by
  rw [status] at h
  simp only [hfile] at h
  cases hcap : battery.batteryPercentage device with
  | error e =>
    simp only [hcap] at h
    rw [hfile] at h
    cases h
    rfl
  | ok capacity =>
    simp only [hcap] at h
    cases outcome with
    | saved =>
      simp only [CalibrationState.save, CalibrationState.load, Option.some.injEq] at h
      rw [← h, CalibrationState.advance_savedThreshold]
    | dirFailed e =>
      simp only [CalibrationState.save] at h
      rw [hfile] at h
      cases h
      rfl
    | openFailed e =>
      simp only [CalibrationState.save] at h
      rw [hfile] at h
      cases h
      rfl
    | writeFailed e => simp [CalibrationState.save, CalibrationState.load] at h

/-- A `status` call never brings a state back. -/
theorem status_load_eq_none (hfile : CalibrationState.load file = none) :
    CalibrationState.load (status battery device file outcome).file = none := by
  rw [status]
  rw [hfile]
  exact hfile

/-- A `finish` that returned `Ok` found a state and, when it records a threshold, put it back. -/
theorem finish_ok (h : (finish threshold device file).result = .ok msg) :
    ∃ state, CalibrationState.load file = some state ∧
      match state.savedThreshold with
      | some t => (threshold.setChargeThreshold device t).2 = .ok () ∧
          (finish threshold device file).device = (threshold.setChargeThreshold device t).1
      | none => (finish threshold device file).device = device := by
  rw [finish] at h ⊢
  cases hload : CalibrationState.load file with
  | none => simp [hload] at h
  | some state =>
    refine ⟨state, rfl, ?_⟩
    simp only [hload] at h ⊢
    cases hsaved : state.savedThreshold with
    | none => rfl
    | some t =>
      simp only [hsaved] at h ⊢
      rcases hset : threshold.setChargeThreshold device t with ⟨device', e | u⟩
      · simp [hset] at h
      · exact ⟨rfl, rfl⟩

/-- Whatever it returns, `finish` made at most one request to the device; when it returned an
error, that request was rejected. -/
theorem finish_device (threshold : ChargeThreshold σ) (device : σ) (file : StateFile) :
    (finish threshold device file).device = device ∨
    ∃ t, (finish threshold device file).device = (threshold.setChargeThreshold device t).1 ∧
      ((finish threshold device file).result.isOk = false →
        ∃ e, (threshold.setChargeThreshold device t).2 = .error e) := by
  rw [finish]
  cases hload : CalibrationState.load file with
  | none => exact .inl rfl
  | some state =>
    cases hsaved : state.savedThreshold with
    | none => exact .inl (by simp only [hsaved])
    | some t =>
      right
      refine ⟨t, ?_⟩
      rcases hset : threshold.setChargeThreshold device t with ⟨device', e | u⟩
      · simp only [hsaved, hset]
        exact ⟨trivial, fun _ => ⟨e, rfl⟩⟩
      · simp only [hsaved, hset]
        exact ⟨trivial, fun h => absurd h (by simp [Except.isOk, Except.toBool])⟩

end Calibrate

end WattWarden
