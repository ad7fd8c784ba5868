import WattWarden.Daemon.Contention
import WattWarden.FrontEnds.Adjust
import WattWarden.FrontEnds.RealRuntime

/-!
# Everything that runs on one machine

Any number of daemons around the instance lock, any number of dashboards, and the operations of any
number of command lines, one event at a time.  All of them share the tree, the configuration and the
calibration state, and the machine changes its load and its power supplies meanwhile.

* `ComputerEvent` — what each of them does to the hardware: the calls of the daemons, the operations
  of the runtime, the keys of the dashboards;
* `computerStep` — one event.
-/

namespace WattWarden

open Library.FileTree Library.Floats Library.Journaling Threshold

/-- `DROP_CACHES` -/
def dropCaches : Path := ["proc", "sys", "vm", "drop_caches"]

/-- `process_purge` -/
def Tweaks.processPurge (s : SysfsRoot) : SysfsRoot := writeNode s dropCaches "3"

/-- An event of the daemons themselves. -/
def DaemonsEvent.Own : DaemonsEvent → Prop
  | outside _ => False
  | _ => True

/-- The daemons with the tree and the configuration they share, the calibration state, and what each
dashboard has discovered. -/
structure Computer where
  daemons : Daemons
  state : Calibrate.StateFile
  dashboards : ℕ → Option LinuxBackend

namespace Computer

def start (t : Tree) (file : ConfigFile) (healthLog : String) (state : Calibrate.StateFile) :
    Computer :=
  ⟨.start ⟨.start t, file, healthLog⟩, state, fun _ => none⟩

def sysfs (c : Computer) : SysfsRoot := c.daemons.site.sysfs

/-- What a command finds. -/
def world (c : Computer) : World := ⟨c.sysfs, c.daemons.site.file, c.state⟩

/-- What a command leaves. -/
def putWorld (c : Computer) (w : World) : Computer :=
  { c with
    daemons := { c.daemons with site := { c.daemons.site with sysfs := w.sysfs, file := w.file } }
    state := w.state }

def putSysfs (c : Computer) (s : SysfsRoot) : Computer := c.putWorld { c.world with sysfs := s }

/-- What a dashboard does to the tree, if it is open. -/
def onDashboard (c : Computer) (id : ℕ) (f : LinuxBackend → SysfsRoot) : Computer :=
  match c.dashboards id with
  | some backend => c.putSysfs (f backend)
  | none => c

/-- A calibration command of a dashboard, if it is open. -/
def calibrates (c : Computer) (id : ℕ) (f : LinuxBackend → Calibrate.Outcome SysfsRoot) :
    Computer :=
  match c.dashboards id with
  | some backend =>
      c.putWorld { c.world with sysfs := (f backend).device, state := (f backend).file }
  | none => c

end Computer

inductive ComputerEvent where
  | daemons (e : DaemonsEvent) (own : e.Own)
  /-- One operation of a command line.  A daemon or a dashboard in the foreground has its own
  events, and so has a command that is run elevated. -/
  | operates (o : Circumstances) (r : CliRequest)
  /-- `App::new` -/
  | opens (id : ℕ)
  | closes (id : ℕ)
  /-- Left or right on a row that stops the daemon, and on the brightness row. -/
  | adjusts (id : ℕ) (tools : RadioTools) (direction : Direction) (row : HardwareRow)
  | brightens (id : ℕ) (config : Config) (direction : Direction)
  /-- The Performance row, a confirmed Extreme mode, or a restore. -/
  | applies (id : ℕ) (profile : PowerProfile)
  /-- The direct write of `set_charge_limit`. -/
  | limits (id : ℕ) (limit : Fin 256)
  /-- Enter on the two rows of the calibration, and on the purge. -/
  | calibrates (id : ℕ) (outcome : Calibrate.SaveOutcome)
  | finishes (id : ℕ)
  | purges (id : ℕ)
  /-- A dashboard or an editor saves a configuration. -/
  | saves (file : ConfigFile)
  | ambient (changes : List (Path × String))

/-- One event. -/
def computerStep (F : Type) [FloatLike F] (host : Host) (c : Computer) : ComputerEvent → Computer
  | .daemons e _ => { c with daemons := daemonsStep F host c.daemons e }
  | .operates o r =>
      let elsewhere : Circumstances :=
        { o with
          daemonRuns := fun w => ((o.daemonRuns w).1, w)
          dashboardRuns := fun w => ((o.dashboardRuns w).1, w) }
      c.putWorld (RealRuntime.operation elsewhere (fun w => (none, w)) r c.world).2
  | .opens id =>
      { c with dashboards :=
          Function.update c.dashboards id (some (.withRoot host c.sysfs.tree)) }
  | .closes id => { c with dashboards := Function.update c.dashboards id none }
  | .adjusts id tools direction row =>
      c.onDashboard id fun b => (App.handle b tools direction c.sysfs row).1
  | .brightens id config direction =>
      c.onDashboard id fun b => (App.handleBrightness b config direction c.sysfs).1
  | .applies id profile => c.onDashboard id fun b => b.applyProfile c.sysfs profile
  | .limits id limit =>
      c.onDashboard id fun _ =>
        if supportsThreshold c.sysfs then (setChargeThreshold c.sysfs limit).1 else c.sysfs
  | .calibrates id outcome =>
      c.calibrates id fun b =>
        if (Calibrate.CalibrationState.load c.state).isSome then
          Calibrate.status b.battery.powerSource c.sysfs c.state outcome
        else Calibrate.start linuxChargeThreshold c.sysfs c.state outcome
  | .finishes id => c.calibrates id fun _ => Calibrate.finish linuxChargeThreshold c.sysfs c.state
  | .purges id => c.onDashboard id fun _ => Tweaks.processPurge c.sysfs
  | .saves file => c.putWorld { c.world with file := file }
  | .ambient changes => c.putSysfs (WattWarden.ambient c.sysfs changes)

end WattWarden
