import WattWarden.Core.Calibrate
import WattWarden.Platform.Storing

/-!
# What a failed calibration start leaves behind

`calibrate::start` lifts the ceiling first and saves the state file afterwards.  Here the file is
taken with its contents, so that "the file as it was" has a meaning for a file that does not decode.

* `StateCodec` / `startOn` — `start` over a file with contents;
* `startOn_view` — **PROVED**: what `start` does to the kind of the file, `startOn` does to its
  contents;
* `startOn_cases` — **PROVED**: a start is refused, stopped by the hardware, or left to the save;
* `failed_start_clean_iff` — **PROVED**: a failed start changes nothing if and only if it is refused,
  or asking for 100 moves no end threshold and the save leaves the file as it was;
* `unsaved_start_lifts_ceiling` — a directory that cannot be made, and a ceiling moved from 80 to
  100 that nobody remembers.
-/

namespace WattWarden

open Library.FileTree Library.Numerals Threshold

namespace Calibrate

/-- The JSON of the state file, over file contents `φ` (which say whether there is a file). -/
structure StateCodec (φ : Type*) where
  decode : φ → Option CalibrationState
  encode : CalibrationState → φ

variable {σ φ : Type*}

/-- `CalibrationState::save`; a write that fails leaves `left`. -/
def StateCodec.save (codec : StateCodec φ) (state : CalibrationState) (file left : φ) :
    SaveOutcome → φ × Except String Unit
  | .saved => (codec.encode state, .ok ())
  | .dirFailed e => (file, .error s!"{displayPath statePath.dropLast}: {e}")
  | .openFailed e => (file, .error s!"{displayPath statePath}: {e}")
  | .writeFailed e => (left, .error s!"{displayPath statePath}: {e}")

/-- What `start` leaves behind, the file with its contents. -/
structure StartOutcome (σ φ : Type*) where
  device : σ
  file : φ
  result : Except String String

/-- `calibrate::start` over a file with contents. -/
def startOn (codec : StateCodec φ) (threshold : ChargeThreshold σ) (device : σ) (file left : φ)
    (outcome : SaveOutcome) : StartOutcome σ φ :=
  match codec.decode file with
  | some _ => ⟨device, file, .error <|
      "calibration already in progress (see `sudo wattwarden calibrate status`, or `abort`)"⟩
  | none =>
      if !threshold.supportsThreshold device then ⟨device, file, .error <|
        "hardware does not expose a charge threshold; calibration requires one"⟩
      else
        let savedThreshold := (threshold.chargeThreshold device).toOption
        match threshold.setChargeThreshold device 100 with
        | (device, .error e) =>
            ⟨device, file, .error s!"failed to lift the charge ceiling: {e.display}"⟩
        | (device, .ok ()) =>
            let state : CalibrationState := { savedThreshold, phase := .charge }
            match codec.save state file left outcome with
            | (file, .error e) => ⟨device, file, .error e⟩
            | (file, .ok ()) =>
                let was := (savedThreshold.map fun t => s!"{t}%").getD "unknown"
                ⟨device, file, .ok
                  s!"Calibration started: charge ceiling lifted to 100% (was: {was}).\n{state.guidance}"⟩

section Code

variable (codec : StateCodec φ) (threshold : ChargeThreshold σ) (device : σ) (file left : φ)
  (outcome : SaveOutcome)

/-- **Two views of one command.**  Seen through a `view` that tells the kind of a file from its
contents, `startOn` is `start`. -/
theorem startOn_view (view : φ → StateFile)
    (hdecode : ∀ content, CalibrationState.load (view content) = codec.decode content)
    (hencode : ∀ state, view (codec.encode state) = .holds state) (hleft : view left = .garbage) :
    let o := startOn codec threshold device file left outcome
    (⟨o.device, view o.file, o.result⟩ : Outcome σ) = start threshold device (view file) outcome := by
  rw [startOn, start, hdecode]
  cases codec.decode file with
  | some state => rfl
  | none =>
    cases threshold.supportsThreshold device with
    | false => rfl
    | true =>
      rcases hset : threshold.setChargeThreshold device 100 with ⟨device', e | u⟩
      · simp
      · cases outcome <;> simp [StateCodec.save, CalibrationState.save, hencode, hleft]

/-- **The three ends of a start.** -/
theorem startOn_cases :
    let o := startOn codec threshold device file left outcome
    let lifted := threshold.setChargeThreshold device 100
    let state : CalibrationState := ⟨(threshold.chargeThreshold device).toOption, .charge⟩
    (((codec.decode file).isSome ∨ threshold.supportsThreshold device = false) ∧
      o.device = device ∧ o.file = file) ∨
    (codec.decode file = none ∧ threshold.supportsThreshold device = true ∧
      ((lifted.2 ≠ .ok () ∧ o.device = lifted.1 ∧ o.file = file ∧ ∃ e, o.result = .error e) ∨
      (lifted.2 = .ok () ∧ o.device = lifted.1 ∧
        o.file = (codec.save state file left outcome).1 ∧
        ((∃ e, o.result = .error e) ↔ outcome ≠ .saved)))) := by
  intro o lifted state
  cases hdecode : codec.decode file with
  | some found =>
    left
    refine ⟨.inl rfl, ?_⟩
    simp only [o, startOn, hdecode, and_self]
  | none =>
    cases hsupports : threshold.supportsThreshold device with
    | false =>
      left
      refine ⟨.inr rfl, ?_⟩
      simp [o, startOn, hdecode, hsupports]
    | true =>
      right
      refine ⟨rfl, rfl, ?_⟩
      rcases hset : threshold.setChargeThreshold device 100 with ⟨device', e | u⟩
      · left
        simp [o, lifted, startOn, hdecode, hsupports, hset]
      · right
        cases outcome <;>
          simp [o, lifted, state, startOn, hdecode, hsupports, hset, StateCodec.save]

/-- The file after the save of a start that failed. -/
theorem save_keeps_iff (state : CalibrationState) (hfailed : outcome ≠ .saved) :
    (codec.save state file left outcome).1 = file ↔ ∀ e, outcome = .writeFailed e → left = file := by
  cases outcome with
  | saved => exact absurd rfl hfailed
  | dirFailed e => simp [StateCodec.save]
  | openFailed e => simp [StateCodec.save]
  | writeFailed e => simp [StateCodec.save]

variable {β : Type*} (readings : σ → β)

/-- When `start` returns an error, the readings of the device and the state file are as before. -/
def FailsCleanly : Prop :=
  let o := startOn codec threshold device file left outcome
  (∃ e, o.result = .error e) → readings o.device = readings device ∧ o.file = file

/-- **Failing cleanly**, on any threshold. -/
theorem failsCleanly_iff :
    let lifted := threshold.setChargeThreshold device 100
    FailsCleanly codec threshold device file left outcome readings ↔
      ((codec.decode file).isSome ∨ threshold.supportsThreshold device = false) ∨
      (outcome = .saved ∧ lifted.2 = .ok ()) ∨
      (readings lifted.1 = readings device ∧
        (lifted.2 ≠ .ok () ∨ ∀ e, outcome = .writeFailed e → left = file)) := by
  intro lifted
  rw [FailsCleanly]
  rcases startOn_cases codec threshold device file left outcome with
    ⟨hrefused, hdevice, hfile⟩ | ⟨hdecode, hsome, hstopped | hsaving⟩
  · rw [hdevice, hfile]
    exact iff_of_true (fun _ => ⟨rfl, rfl⟩) (.inl hrefused)
  · obtain ⟨hset, hdevice, hfile, herror⟩ := hstopped
    simp [lifted, hdevice, hfile, herror, hdecode, hsome, hset]
  · obtain ⟨hset, hdevice, hfile, herror⟩ := hsaving
    by_cases hsaved : outcome = .saved
    · exact iff_of_true (fun h => absurd hsaved (herror.mp h)) (.inr (.inl ⟨hsaved, hset⟩))
    · rw [herror, hdevice, hfile, save_keeps_iff codec file left outcome _ hsaved]
      simp [lifted, hsaved, hdecode, hsome, hset]

end Code

end Calibrate

/-! ### On a fleet -/

section OnFleet

open Calibrate

variable {δ φ : Type*}

/-- The end thresholds of a machine. -/
def endReadings (units : List (BatteryUnit δ)) : List (Option ℕ) := units.map endReading

/-- The batteries after they were asked for 100. -/
theorem endReadings_lifted (fleet : Fleet δ) :
    endReadings (setChargeThreshold fleet.units 100).1 = endReadings fleet.units ↔
      ∀ b ∈ fleet.units, endReading (written 100 b) = endReading b := by
  have hclamp : clamp 20 100 100 = 100 := rfl
  rw [endReadings, endReadings, (setChargeThreshold_fleet fleet 100).1, hclamp, List.map_map,
    List.map_inj_left]
  rfl

theorem setChargeThreshold_taken (fleet : Fleet δ) :
    (setChargeThreshold fleet.units 100).2 = .ok () ↔ ∃ b ∈ fleet.units, took 100 b = true :=
  (setChargeThreshold_fleet fleet 100).2

/-- A battery with fixed answers keeps its reading when it does not move, or is there already. -/
theorem after_eq_reading_iff (b : StoringBattery δ) (value : ℕ) : b.after value = b.reading ↔
    b.driver.stores value = none ∨ b.driver.stores value = b.reading := by
  rw [StoringBattery.after]
  cases b.driver.stores value <;> simp

/-- **Failed starts, exactly.**  For every state file, every end of the save and every fleet: a
`start` that returns an error leaves every end threshold and the file as they were, if and only if
it is refused before anything is written, or it does not fail, or asking for 100 moves no battery
and the save does not get to the file or leaves what was there.  With fixed answers, no battery
moves when each ignores the request or reads the answer already. -/
theorem failed_start_clean_iff (codec : StateCodec φ) (file left : φ) (outcome : SaveOutcome) :
    (∀ fleet : Fleet δ,
      FailsCleanly codec linuxChargeThreshold fleet.units file left outcome endReadings ↔
        ((codec.decode file).isSome ∨ fleet.units = []) ∨
        (outcome = .saved ∧ ∃ b ∈ fleet.units, took 100 b = true) ∨
        ((∀ b ∈ fleet.units, endReading (written 100 b) = endReading b) ∧
          ((∀ b ∈ fleet.units, took 100 b = false) ∨
            ∀ e, outcome = .writeFailed e → left = file))) ∧
    ∀ f : StoringFleet δ,
      FailsCleanly codec linuxChargeThreshold f.fleet.units file left outcome endReadings ↔
        ((codec.decode file).isSome ∨ f.batteries = []) ∨
        (outcome = .saved ∧ ∃ b ∈ f.batteries, b.takes 100 = true) ∨
        ((∀ b ∈ f.batteries, b.driver.stores 100 = none ∨ b.driver.stores 100 = b.reading) ∧
          ((∀ b ∈ f.batteries, b.takes 100 = false) ∨
            ∀ e, outcome = .writeFailed e → left = file)) := by
  refine ⟨fun fleet => ?_, fun f => ?_⟩
  · have hnone : (∀ b ∈ fleet.units, took 100 b = false) ↔
        (setChargeThreshold fleet.units 100).2 ≠ .ok () := by
      rw [ne_eq, setChargeThreshold_taken]
      simp
    rw [hnone, ← setChargeThreshold_taken, ← endReadings_lifted, ← supportsThreshold_units]
    exact failsCleanly_iff codec linuxChargeThreshold fleet.units file left outcome endReadings
  · have hunits : f.fleet.units = f.batteries.map StoringBattery.unit := rfl
    have hempty : f.batteries = [] ↔ supportsThreshold f.fleet.units = false := by
      rw [supportsThreshold_units, hunits, List.map_eq_nil_iff]
    have htaken : (∃ b ∈ f.batteries, b.takes 100 = true) ↔
        (setChargeThreshold f.fleet.units 100).2 = .ok () := by
      rw [setChargeThreshold_taken, f.exists_took]
    have hnone : (∀ b ∈ f.batteries, b.takes 100 = false) ↔
        (setChargeThreshold f.fleet.units 100).2 ≠ .ok () := by
      rw [ne_eq, ← htaken]
      simp
    have hkeep : (∀ b ∈ f.batteries,
        b.driver.stores 100 = none ∨ b.driver.stores 100 = b.reading) ↔
        endReadings (setChargeThreshold f.fleet.units 100).1 = endReadings f.fleet.units := by
      rw [endReadings_lifted, hunits, List.forall_mem_map]
      refine forall₂_congr fun b _ => ?_
      rw [b.endReading_written, ← after_eq_reading_iff]
      rfl
    rw [hempty, htaken, hnone, hkeep]
    exact failsCleanly_iff codec linuxChargeThreshold f.fleet.units file left outcome endReadings

/-- The directory of the state file cannot be made: `start` returns the error with the ceiling
moved from 80 to 100 and no record of the 80. -/
theorem unsaved_start_lifts_ceiling :
    let node : ThresholdNode := ⟨["end"], none, none⟩
    let f : StoringFleet String :=
      ⟨[⟨node, by decide, registerDriver node fun _ => true, "80"⟩], by decide⟩
    let codec : StateCodec (Option CalibrationState) := ⟨id, some⟩
    let outcome := SaveOutcome.dirFailed "Read-only file system (os error 30)"
    let o := startOn codec linuxChargeThreshold f.fleet.units none none outcome
    ¬FailsCleanly codec linuxChargeThreshold f.fleet.units none none outcome endReadings ∧
      endReadings f.fleet.units = [some 80] ∧ endReadings o.device = [some 100] ∧ o.file = none := by
  intro node f codec outcome o
  have hbefore : endReadings f.fleet.units = [some 80] := by decide +kernel
  have hafter : endReadings o.device = [some 100] := by decide +kernel
  refine ⟨?_, hbefore, hafter, by decide +kernel⟩
  intro hclean
  have hfailed : ∃ e, o.result = .error e :=
    ⟨"/var/lib/wattwarden: Read-only file system (os error 30)", by decide +kernel⟩
  have heq := (hclean hfailed).1
  rw [hbefore] at heq
  exact absurd (hafter.symm.trans heq) (by decide)

end OnFleet

end WattWarden
