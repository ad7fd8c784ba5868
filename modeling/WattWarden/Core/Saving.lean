import WattWarden.Core.Calibrate
import WattWarden.Core.Config
import WattWarden.Library.Saving

/-!
# The saves of the two state files, step by step

`Config::save` and `CalibrationState::save` end in `fs::write`, which truncates the file and then
writes it.  In between the file is empty; an empty file is not JSON, so the loaders see what they
see in any other file that does not decode.

* `Config.saveSteps` / `CalibrationState.saveSteps` — the two steps;
* `Calibrate.statusUntil` — `calibrate status` up to a cut in its save;
* `statusUntil_eq` — **PROVED**: left to run to its end it is `status`.
-/

namespace WattWarden

open Library.Saving

/-- The steps of `Config::save`. -/
def Config.saveSteps (config : Config) : List (ConfigFile → ConfigFile) :=
  inPlace .undecodable config.save

namespace Calibrate

/-- The steps of `CalibrationState::save`. -/
def CalibrationState.saveSteps (state : CalibrationState) : List (StateFile → StateFile) :=
  inPlace .garbage (.holds state)

variable {σ : Type*}

/-- What `status` has made of the file once `n` steps of its save are through; it may be killed
there.  It saves only if there is a calibration and the battery answers. -/
def statusUntil (battery : PowerSource σ) (device : σ) (n : ℕ) (file : StateFile) : StateFile :=
  match CalibrationState.load file with
  | none => file
  | some state =>
      match battery.batteryPercentage device with
      | .error _ => file
      | .ok capacity =>
          let charging := (battery.isCharging device).toOption.getD false
          cut (state.advance capacity charging).saveSteps n file

/-- Both steps through, `status` has run to its end. -/
theorem statusUntil_eq (battery : PowerSource σ) (device : σ) {n : ℕ} (h : 2 ≤ n)
    (file : StateFile) :
    statusUntil battery device n file = (status battery device file .saved).file := by
  rw [statusUntil, status]
  cases CalibrationState.load file with
  | none => rfl
  | some state =>
    cases hcap : battery.batteryPercentage device with
    | error e => simp
    | ok capacity =>
      simp only [CalibrationState.save]
      exact cut_inPlace_of_two_le _ _ _ h

end Calibrate

end WattWarden
