import WattWarden.Core.Calibrate
import WattWarden.FrontEnds.Cli
import WattWarden.FrontEnds.Settings
import WattWarden.Platform.Health

/-!
# The command line on a machine

`RealRuntime`: what the operations of the runtime do to the tree, the configuration and the
calibration state, and what they return.  A process without privileges may have its whole command
run again by an escalator; that run is one with root on the same machine.

* `World` — what the commands change;
* `Circumstances` — what a process finds and how its calls end;
* `RealRuntime.operation` — the operations, one by one;
* `rootRuntime` / `userRuntime` — the runtime of a process with root, and of one without;
* `invoke` — a command line from start to exit.
-/

namespace WattWarden

open Library.FileTree Library.Requests Library.Requests.Program Threshold

/-- `Config::default_path` -/
def configPath : Path := ["etc", "wattwarden", "config.json"]

/-- `Config::save` -/
def Config.trySave (config : Config) (file : ConfigFile) :
    Calibrate.SaveOutcome → ConfigFile × Except String Unit
  | .saved => (config.save, .ok ())
  | .dirFailed e => (file, .error (WattWardenError.io configPath.dropLast ⟨false, e⟩).display)
  | .openFailed e => (file, .error (WattWardenError.io configPath ⟨false, e⟩).display)
  | .writeFailed e => (.undecodable, .error (WattWardenError.io configPath ⟨false, e⟩).display)

/-- What the commands change. -/
structure World where
  sysfs : SysfsRoot
  file : ConfigFile
  state : Calibrate.StateFile

/-- What a process of the command line finds, and how its calls end. -/
structure Circumstances where
  host : Host
  /-- How a save ends in a process with root, and in one without; a command makes at most one. -/
  saves : Bool → Calibrate.SaveOutcome
  daemonActive : Bool
  envVar : String → Option String
  /-- Once the setting is saved: the unit brings a daemon up, or one is spawned, or neither. -/
  startsDaemon : Except String Unit
  installs : Except String Unit
  uninstalls : Except String Unit
  /-- The daemon and the dashboard run until they end. -/
  daemonRuns : World → Except String Unit × World
  dashboardRuns : World → Except String Unit × World
  /-- The process has root. -/
  isRoot : Bool
  /-- An escalator is usable, and runs the command. -/
  escalates : Bool

/-- How a save of this process ends. -/
def Circumstances.saved (o : Circumstances) : Calibrate.SaveOutcome := o.saves o.isRoot

namespace RealRuntime

/-- Load, set one field, save. -/
def saveSetting (o : Circumstances) (w : World) (setting : Setting) : Except String Unit × World :=
  let r := (setting.apply w.file.loadOrDefault).trySave w.file o.saved
  (r.2, { w with file := r.1 })

/-- `health_report`, the part the dispatcher reads. -/
def healthReport (w : World) : HealthReport :=
  let battery := LinuxBattery.withRoot w.sysfs.tree
  let health := battery.health w.sysfs.tree
  { present := health.present || battery.discovered
    configuredLimit := w.file.loadOrDefault.batteryChargeLimit
    activeThreshold :=
      if supportsThreshold w.sysfs then (chargeThreshold w.sysfs).toOption else none }

/-- `set_charge_limit`: the setting first, and then the hardware. -/
def setChargeLimit (o : Circumstances) (w : World) (limit : Option ℕ) :
    Except String Unit × World :=
  match saveSetting o w (.batteryChargeLimit limit) with
  | (.error e, w) => (.error e, w)
  | (.ok (), w) =>
      match limit with
      | none => (.ok (), w)
      | some n =>
          if !supportsThreshold w.sysfs then
            (.error "hardware does not expose a charge threshold", w)
          else
            let r := setChargeThreshold w.sysfs n
            (r.2.mapError WattWardenError.display, { w with sysfs := r.1 })

/-- `set_profile`: the hardware first, and then the setting. -/
def chooseProfile (o : Circumstances) (w : World) (profile : Option PowerProfile) :
    Except String Unit × World :=
  let backend := LinuxBackend.withRoot o.host w.sysfs.tree
  let w := { w with sysfs := backend.applyProfile w.sysfs (profile.getD .normal) }
  saveSetting o w (.profile profile)

/-- `set_brightness_percent`; a save that fails is not reported. -/
def setBrightnessPercent (o : Circumstances) (w : World) (percent : ℕ) :
    Except String Unit × World :=
  if (LinuxBacklight.withRoot w.sysfs.tree).isNone then
    (.error "no backlight exposed on this machine", w)
  else
    let s := LinuxBacklight.setBrightnessPercent o.host.brightnessctl w.sysfs
      (Library.Numerals.clamp 1 100 percent)
    (.ok (), (saveSetting o { w with sysfs := s } (.autoBrightness false)).2)

/-- A calibration command. -/
def calibrated (w : World) (outcome : Calibrate.Outcome SysfsRoot) : Except String String × World :=
  (outcome.result, { w with sysfs := outcome.device, state := outcome.file })

/-- The operations.  The installed binary and the service are not part of the world. -/
def operation (o : Circumstances) (elevate : World → Option ℤ × World) : CliRuntime World
  | .isRoot, w => (o.isRoot, w)
  | .daemonActive, w => (o.daemonActive, w)
  | .autoBrightness, w => (w.file.loadOrDefault.autoBrightness, w)
  | .setAutoBrightness enabled, w => ((), (saveSetting o w (.autoBrightness enabled)).2)
  | .syncInstalledBinary, w => ((), w)
  | .startBackgroundDaemon, w => (o.startsDaemon, (saveSetting o w (.autoExtremeEnabled true)).2)
  | .stopBackgroundDaemon, w => ((), (saveSetting o w (.autoExtremeEnabled false)).2)
  | .installService, w => (o.installs, w)
  | .uninstallService, w => (o.uninstalls, w)
  | .runDaemon, w => o.daemonRuns w
  | .launchDashboard, w => o.dashboardRuns w
  | .healthReport, w => (.ok (healthReport w), w)
  | .setChargeLimit limit, w => setChargeLimit o w limit
  | .calibrateStart, w =>
      calibrated w (Calibrate.start linuxChargeThreshold w.sysfs w.state o.saved)
  | .calibrateStatus, w =>
      calibrated w (Calibrate.status (LinuxBattery.withRoot w.sysfs.tree).powerSource w.sysfs
        w.state o.saved)
  | .calibrateFinish, w => calibrated w (Calibrate.finish linuxChargeThreshold w.sysfs w.state)
  | .setProfile profile, w => chooseProfile o w profile
  | .setAutoExtremeLevel level, w => saveSetting o w (.autoExtremeLevel level)
  | .setBrightnessPercent percent, w => setBrightnessPercent o w percent
  | .elevate, w => elevate w
  | .envVar name, w => (o.envVar name, w)
  | .writeln _, w => ((), w)

end RealRuntime

/-- A process with root; it never asks for an escalator. -/
def rootRuntime (o : Circumstances) : CliRuntime World :=
  RealRuntime.operation { o with isRoot := true } fun w => (none, w)

/-- A command line of a process with root: its exit code, and the world it leaves. -/
def invokeRoot (o : Circumstances) (args : List String) (w : World) : ℤ × World :=
  result (rootRuntime o) (Cli.run args) w

/-- `elevate`: the same command line, run with root. -/
def elevate (o : Circumstances) (args : List String) (w : World) : Option ℤ × World :=
  if o.escalates then
    let r := invokeRoot o args w
    (some r.1, r.2)
  else (none, w)

/-- A process without root. -/
def userRuntime (o : Circumstances) (args : List String) : CliRuntime World :=
  RealRuntime.operation { o with isRoot := false } (elevate o args)

/-- A command line, from start to exit. -/
def invoke (o : Circumstances) (args : List String) (w : World) : ℤ × World :=
  if o.isRoot then invokeRoot o args w else result (userRuntime o args) (Cli.run args) w

end WattWarden
