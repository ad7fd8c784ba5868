import WattWarden.FrontEnds.ChargeLimit

/-!
# Whether the dashboard shows the persisted charge limit

`set_charge_limit` changes the dashboard's copy first; only a helper that succeeds makes it load the
file again.

* `HelperAsked` — the exits that reach the elevated helper;
* `setChargeLimit_spec` — **PROVED**: the configuration and the file at every exit;
* `limitStored_iff` — **PROVED**: after the call the copy and the file have the same limit exactly
  when the requested limit reached the file (`LimitLands`).
-/

namespace WattWarden

namespace Dashboard

variable {o : ChargeOutcomes} {d : Dashboard} {limit : Option ℕ}

/-- The configuration with the requested limit. -/
def requested (d : Dashboard) (limit : Option ℕ) : Config :=
  { d.config with batteryChargeLimit := limit }

/-- The file after the attempt to save. -/
def fileAfterSave (o : ChargeOutcomes) (d : Dashboard) (limit : Option ℕ) : ConfigFile :=
  if o.saves then (d.requested limit).save else d.file

/-- The helper is asked: for a limit, when neither the direct write nor a daemon with the saved
configuration takes care of it; for clearing it, when the save failed. -/
def helperAsked (o : ChargeOutcomes) (d : Dashboard) : Option ℕ → Bool
  | some _ => !(o.supportsThreshold && o.writesThreshold) &&
      !(o.saves && o.probe.getD d.daemonActive)
  | none => !o.saves

/-- The requested limit reaches the file: by a helper that succeeds or leaves a file with it, and
where none is asked by the save, unless the file has it already. -/
def LimitLands (o : ChargeOutcomes) (d : Dashboard) (limit : Option ℕ) : Prop :=
  if helperAsked o d limit then
    (o.helper limit (fileAfterSave o d limit)).1 = .ran 0 ∨
      (o.helper limit (fileAfterSave o d limit)).2.chargeLimit = limit
  else o.saves = true ∨ d.file.chargeLimit = limit

theorem chargeLimit_fileAfterSave :
    (fileAfterSave o d limit).chargeLimit = limit ↔ o.saves = true ∨ d.file.chargeLimit = limit := by
  rw [fileAfterSave]
  cases o.saves with
  | true => simp [ConfigFile.chargeLimit, requested]
  | false => simp

@[simp] theorem setToast_config (msg : String) : (d.setToast msg).config = d.config := rfl

@[simp] theorem setToast_file (msg : String) : (d.setToast msg).file = d.file := rfl

/-- Without the helper the copy has the requested limit, and the file is the one after the save. -/
theorem setChargeLimit_of_not_asked (h : helperAsked o d limit = false) :
    (setChargeLimit o d limit).config = d.requested limit ∧
      (setChargeLimit o d limit).file = fileAfterSave o d limit := by
  cases limit with
  | none =>
    have hsaves : o.saves = true := by simpa [helperAsked] using h
    simp [setChargeLimit, hsaves, fileAfterSave, requested]
  | some n =>
    cases hdirect : o.supportsThreshold && o.writesThreshold with
    | true => simp [setChargeLimit, hdirect, fileAfterSave, requested]
    | false =>
      have hdaemon : (o.saves && o.probe.getD d.daemonActive) = true := by
        simpa [helperAsked, hdirect] using h
      simp [setChargeLimit, hdirect, hdaemon, fileAfterSave, requested, refreshDaemonState]

/-- With the helper the file is the one it leaves; the copy is loaded again when it succeeded. -/
theorem setChargeLimit_of_asked (h : helperAsked o d limit = true) :
    (setChargeLimit o d limit).config
        = (if (o.helper limit (fileAfterSave o d limit)).1 = .ran 0 then
            (o.helper limit (fileAfterSave o d limit)).2.loadOrDefault
          else d.requested limit) ∧
      (setChargeLimit o d limit).file = (o.helper limit (fileAfterSave o d limit)).2 := by
  cases limit with
  | none =>
    have hsaves : o.saves = false := by simpa [helperAsked] using h
    simp only [setChargeLimit, runElevatedChargeLimit, hsaves, fileAfterSave, requested]
    split_ifs <;> simp_all
  | some n =>
    have hboth : (o.supportsThreshold && o.writesThreshold) = false ∧
        (o.saves && o.probe.getD d.daemonActive) = false := by
      simpa only [helperAsked, Bool.and_eq_true, Bool.not_eq_true'] using h
    simp only [setChargeLimit, runElevatedChargeLimit, hboth.1, fileAfterSave, requested,
      refreshDaemonState, hboth.2]
    split_ifs <;> simp_all

/-- **The dashboard shows the persisted limit** after a request exactly when the requested limit
reached the file, whatever the configuration, the file and the outcomes. -/
theorem limitStored_iff (o : ChargeOutcomes) (d : Dashboard) (limit : Option ℕ) :
    (setChargeLimit o d limit).LimitStored ↔ LimitLands o d limit := by
  rw [LimitStored, LimitLands]
  cases hasked : helperAsked o d limit with
  | false =>
    obtain ⟨hconfig, hfile⟩ := setChargeLimit_of_not_asked hasked
    rw [hconfig, hfile, if_neg (by simp), ← chargeLimit_fileAfterSave]
    exact eq_comm
  | true =>
    obtain ⟨hconfig, hfile⟩ := setChargeLimit_of_asked hasked
    rw [hconfig, hfile, if_pos rfl]
    by_cases hran : (o.helper limit (fileAfterSave o d limit)).1 = .ran 0
    · simp [hran, ConfigFile.chargeLimit]
    · rw [if_neg hran]
      simp only [hran, false_or]
      exact eq_comm

/-- The file and the dashboard have a limit of 80 %. -/
def dashboard80 : Dashboard where
  config := { Config.default with batteryChargeLimit := some 80 }
  daemonActive := false
  toast := ""
  file := .holds { Config.default with batteryChargeLimit := some 80 }

/-- The file cannot be written, and no escalator is installed. -/
def readOnlyOutcomes : ChargeOutcomes where
  saves := false
  supportsThreshold := false
  writesThreshold := false
  probe := none
  helper _ file := (.unavailable, file)
  helper_persists := by simp

/-- A limit that could not be cleared is shown as cleared: the file still has it. -/
theorem limitStored_not_cleared :
    ¬(setChargeLimit readOnlyOutcomes dashboard80 none).LimitStored := by
  decide

end Dashboard

end WattWarden
