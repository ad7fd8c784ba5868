import WattWarden.Library.Runs
import WattWarden.Results.Keys

/-!
# The dashboard stops the daemon before it adjusts anything

Over whole runs of the loop, whatever the others at the machine do and however the calls turn out.

* `calls_run` — **PROVED**: every call of a run finds the daemon as `AdjustsPaused` says;
* `pauses_first` — **PROVED**: before a profile or a hardware row the daemon was told to stop, nothing
  started one since, and no other key tells it.
-/

namespace WattWarden

open Library.Runs

variable (b : LinuxBackend)

/-- Every call of a run is made by a turn. -/
theorem calls_run (app : App) (turns : List Turn) :
    ∃ cs, (run (App.turn b) app turns).calls = app.calls ++ cs ∧ AdjustsPaused false cs := by
  induction turns generalizing app with
  | nil => exact ⟨[], (List.append_nil _).symm, trivial⟩
  | cons t turns ih =>
    obtain ⟨cs, hcs, hpaused, -, -⟩ := App.did_turn b t app
    obtain ⟨cs', hcs', hpaused'⟩ := ih (app.turn b t)
    refine ⟨cs ++ cs', ?_, hpaused.append hpaused'⟩
    rw [run_cons, hcs', hcs, List.append_assoc]

/-- **Every manual adjustment finds the daemon told to stop**, by the dashboard itself and with nothing
started since; and the keys that tell it are Restore, a confirmed Extreme, Enter on Performance,
Restore, the calibration rows and a running Auto Extreme, and left and right on a hardware row: not
the charge limit, not the brightness, and no key that only moves or asks. -/
theorem pauses_first (config : Config) (file : ConfigFile) (sysfs : SysfsRoot)
    (calibration : Calibrate.StateFile) (now : ℤ) (turns : List Turn) :
    let after := run (App.turn b) (App.new config file sysfs calibration now)
    (∀ before c rest, (after turns).calls = before ++ c :: rest → c.adjusts = true →
      ∃ earlier since, before = earlier ++ .signalDaemon :: since ∧
        ∀ s ∈ since, s.starts = false) ∧
    ∀ t : Turn, ∃ cs, (after (turns ++ [t])).calls = (after turns).calls ++ cs ∧
      (.signalDaemon ∈ cs ↔ (after turns).pausesIn b t = true) := by
  intro after
  constructor
  · intro before c rest hcalls hc
    obtain ⟨cs, hcs, hpaused⟩ := calls_run b (App.new config file sysfs calibration now) turns
    have hall : (after turns).calls = cs := hcs
    rcases hpaused.signalled (hall.symm.trans hcalls) hc with h | ⟨hfalse, -⟩
    · exact h
    · cases hfalse
  · intro t
    obtain ⟨cs, hcs, -, hsignals, -⟩ := App.did_turn b t (after turns)
    refine ⟨cs, ?_, hsignals⟩
    show (run (App.turn b) _ (turns ++ [t])).calls = _
    rw [run_concat]
    exact hcs

end WattWarden
