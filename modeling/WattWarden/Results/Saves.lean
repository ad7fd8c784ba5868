import WattWarden.Core.Saving
import WattWarden.Library.Runs

/-!
# What a reader sees of a save

The configuration and the calibration state are overwritten in place, while the daemon reads the
one several times a second and a command may be killed with the other half written.  The loaders
turn a torn file into the default configuration, resp. into no calibration at all.

* `StatusAttempt` / `statusStep` — `calibrate status`, run to its end or killed in its save;
* `threshold_kept_iff` — **PROVED**: any number of such calls keep the recorded threshold exactly
  when none of them was killed in the window;
* `saves_oldOrNew_iff` — **PROVED**: when exactly a load gives the old or the new value, for both
  files, and when exactly the recorded threshold survives.
-/

namespace WattWarden

open Library.Runs Library.Saving Calibrate

/-! ### Calls of `status` -/

/-- A call of `calibrate status`: the device it finds, and how many steps of its save it gets
through. -/
structure StatusAttempt (σ : Type*) where
  device : σ
  steps : ℕ

section Status

variable {σ : Type*} (battery : PowerSource σ)

def statusStep (file : StateFile) (call : StatusAttempt σ) : StateFile :=
  statusUntil battery call.device call.steps file

/-- The call does not die between the two steps of its save: it dies elsewhere or not at all, or
the battery does not answer and it never saves. -/
def OutsideWindow (call : StatusAttempt σ) : Prop :=
  call.steps ≠ 1 ∨ ∃ e, battery.batteryPercentage call.device = .error e

variable {battery}

/-- Without a calibration `status` touches nothing. -/
theorem load_statusStep_none {file : StateFile} (h : CalibrationState.load file = none)
    (call : StatusAttempt σ) : CalibrationState.load (statusStep battery file call) = none := by
  rw [statusStep, statusUntil, h]
  exact h

/-- **One call** keeps the recorded threshold, or loses the whole state. -/
theorem load_statusStep {file : StateFile} {state : CalibrationState}
    (h : CalibrationState.load file = some state) (call : StatusAttempt σ) :
    (OutsideWindow battery call → ∃ state', CalibrationState.load (statusStep battery file call)
      = some state' ∧ state'.savedThreshold = state.savedThreshold) ∧
    (¬OutsideWindow battery call →
      CalibrationState.load (statusStep battery file call) = none) := by
  rw [statusStep, statusUntil, h, OutsideWindow]
  cases hcap : battery.batteryPercentage call.device with
  | error e =>
    refine ⟨fun _ => ⟨state, ?_, rfl⟩, fun hwindow => absurd (.inr ⟨e, rfl⟩) hwindow⟩
    simpa [hcap] using h
  | ok capacity =>
    dsimp only
    let state' := state.advance capacity ((battery.isCharging call.device).toOption.getD false)
    constructor
    · intro hout
      have hsteps : call.steps ≠ 1 := by
        rcases hout with hsteps | ⟨e, he⟩
        · exact hsteps
        · cases he
      rcases (show call.steps = 0 ∨ 2 ≤ call.steps from by omega) with hzero | htwo
      · rw [hzero]
        exact ⟨state, h, rfl⟩
      · rw [CalibrationState.saveSteps, cut_inPlace_of_two_le _ _ _ htwo]
        exact ⟨state', rfl, CalibrationState.advance_savedThreshold ..⟩
    · intro hwindow
      have hone : call.steps = 1 := by
        by_contra hne
        exact hwindow (.inl hne)
      rw [hone]
      rfl

/-- **Any number of calls.**  The recorded threshold survives exactly when no call died in its
window. -/
theorem threshold_kept_iff {file : StateFile} {state : CalibrationState}
    (h : CalibrationState.load file = some state) (calls : List (StatusAttempt σ)) :
    (∃ state', CalibrationState.load (run (statusStep battery) file calls) = some state' ∧
        state'.savedThreshold = state.savedThreshold) ↔
      ∀ call ∈ calls, OutsideWindow battery call := by
  induction calls generalizing file state with
  | nil => exact iff_of_true ⟨state, h, rfl⟩ (by simp)
  | cons call calls ih =>
    rw [run_cons, List.forall_mem_cons]
    by_cases hout : OutsideWindow battery call
    · obtain ⟨state₁, hload, hthreshold⟩ := (load_statusStep h call).1 hout
      rw [← hthreshold, ih hload]
      exact (and_iff_right hout).symm
    · have hlost : CalibrationState.load (run (statusStep battery) file (call :: calls)) = none :=
        run_inv (fun file => CalibrationState.load file = none)
          ((load_statusStep h call).2 hout) (fun _ call hf => load_statusStep_none hf call) calls
      rw [run_cons] at hlost
      rw [hlost]
      constructor
      · intro hgiven
        obtain ⟨state', hstate', -⟩ := hgiven
        cases hstate'
      · intro hall
        exact absurd hall.1 hout

end Status

/-! ### Both files -/

/-- **Saves, exactly.**  For every old and new value and every cut of the save, whether a reader
looks there or the saver dies there: a load gives the old or the new value if and only if the cut is
not between truncation and write, or what a torn file loads as is the old or the new value anyway.
And a threshold recorded by `start` survives any number of calls of `status` if and only if none of
them dies between the two steps of its save. -/
theorem saves_oldOrNew_iff {σ : Type*} (battery : PowerSource σ) :
    (∀ (old : ConfigFile) (new : Config) (n : ℕ),
      OldOrNew ConfigFile.loadOrDefault new.saveSteps old n ↔
        n ≠ 1 ∨ Config.default = old.loadOrDefault ∨ Config.default = new) ∧
    (∀ (old : StateFile) (new : CalibrationState) (n : ℕ),
      OldOrNew CalibrationState.load new.saveSteps old n ↔
        n ≠ 1 ∨ CalibrationState.load old = none) ∧
    (∀ (file : StateFile) (state : CalibrationState), CalibrationState.load file = some state →
      ∀ calls : List (StatusAttempt σ),
        (∃ state', CalibrationState.load (run (statusStep battery) file calls) = some state' ∧
          state'.savedThreshold = state.savedThreshold) ↔
        ∀ call ∈ calls, OutsideWindow battery call) := by
  refine ⟨?_, ?_, ?_⟩
  · intro old new n
    exact oldOrNew_inPlace_iff _ _ _ _ n
  · intro old new n
    have hnew : CalibrationState.load .garbage ≠ CalibrationState.load (.holds new) := by
      intro h
      cases h
    rw [CalibrationState.saveSteps, oldOrNew_inPlace_iff, or_iff_left hnew]
    exact or_congr_right eq_comm
  · intro file state h calls
    exact threshold_kept_iff h calls

/-- A charge limit of 60 is configured and the dashboard saves a new level: the daemon, reading
between the two steps, finds the defaults.  A threshold of 60 is recorded and a call of `status` is
killed between the two steps: no calibration is in progress any more. -/
theorem save_torn :
    let old : Config := { Config.default with batteryChargeLimit := some 60 }
    let new : Config := { old with autoExtremeLevel := .low }
    let seen := (cut new.saveSteps 1 old.save).loadOrDefault
    let battery : PowerSource Unit := ⟨fun _ => .ok 50, fun _ => .ok true⟩
    let file := run (statusStep battery) (.holds ⟨some 60, .charge⟩) [⟨(), 1⟩]
    (seen = Config.default ∧ seen ≠ old ∧ seen ≠ new) ∧ CalibrationState.load file = none := by
  decide

end WattWarden
