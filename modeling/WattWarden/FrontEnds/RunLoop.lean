import WattWarden.FrontEnds.ChargeLimit
import WattWarden.FrontEnds.Menu
import WattWarden.FrontEnds.Rows
import WattWarden.Library.Caching
import WattWarden.Library.Decimals
import WattWarden.Library.TextSearch

/-!
# The loop of the dashboard

`run_loop` and what its keys do.  A turn lets the others at the machine, refreshes the daemon's state,
draws a frame and takes at most one key.  The confirmation of Extreme takes the keyboard while it is
up.  Times are in milliseconds; the graph and the scrolling have modules of their own.

* `DashboardCall` — what the dashboard asks of the system;
* `App` — the state of the dashboard, its machine, and the calls it made;
* `KeyOutcomes` — how what a key starts turns out;
* `App.handleEnter` / `App.handleSide` / `App.press` — a key;
* `Turn` / `App.frame` / `App.turn` — a turn of the loop.
-/

namespace WattWarden

open Library.Caching Library.Decimals Library.Numerals Library.TextSearch

/-! ### Constants -/

/-- `DEFAULT_REFRESH_DELAY` -/
def defaultRefreshDelay : ℕ := 2000

/-- `MIN_REFRESH_DELAY` -/
def minRefreshDelay : ℕ := 500

/-- `MAX_REFRESH_DELAY` -/
def maxRefreshDelay : ℕ := 10000

/-- `REFRESH_STEP` -/
def refreshStep : ℕ := 500

/-- `DAEMON_STATE_TTL` -/
def daemonStateTtl : ℤ := 1000

/-- `ROWS_TTL` -/
def rowsTtl : ℤ := 500

/-- `format_duration`, of whole milliseconds: in seconds the zeros at the end are dropped. -/
def formatDuration (ms : ℕ) : String :=
  if ms < 1000 then decimal ms ++ "ms" else String.ofList (trimZeros (fixedChars 3 ms)) ++ "s"

/-- `first_line` -/
def firstLine (msg : String) : String := ((lines [] msg.toList).head?.map String.ofList).getD ""

/-! ### The state -/

/-- What the dashboard asks of the system. -/
inductive DashboardCall where
  | saveConfig (config : Config)
  | signalDaemon
  | systemctl (verb : String)
  | spawnDaemon
  | applyProfile (profile : PowerProfile)
  | adjust (row : HardwareRow)
  | setBrightness
  | chargeLimit (limit : Option ℕ)
  | calibrate
  | processPurge
  deriving DecidableEq, Repr

/-- The dashboard, the machine it runs on, and the calls it made so far. -/
structure App where
  dashboard : Dashboard
  sysfs : SysfsRoot
  calibration : Calibrate.StateFile
  selected : ℕ
  confirmExtreme : Bool
  shouldQuit : Bool
  refreshDelay : ℕ
  daemonChecked : ℤ
  rows : Cache (List RowInfo)
  calls : List DashboardCall

/-- How what a key starts turns out, and the clock it reads. -/
structure KeyOutcomes where
  now : ℤ
  tools : RadioTools
  /-- The saves of the key, in order. -/
  saves : Bool
  savesProfile : Bool
  /-- The probe of the daemon, when it is asked for. -/
  probe : Bool
  unitInstalled : Bool
  /-- The probes after the unit was restarted. -/
  polls : List Bool
  /-- The detached daemon starts. -/
  spawns : Bool
  helper : Option ℕ → ConfigFile → Escalation × ConfigFile
  helper_persists : ∀ limit file, (helper limit file).1 = .ran 0 →
    (helper limit file).2.chargeLimit = limit
  stateSave : Calibrate.SaveOutcome

/-- The menu of the dashboard on Linux. -/
def menuItems : List ActionItem := buildMenu "Linux"

namespace App

/-- `App::new` -/
def new (config : Config) (file : ConfigFile) (sysfs : SysfsRoot) (calibration : Calibrate.StateFile)
    (now : ℤ) : App where
  dashboard := { config, daemonActive := false, toast := "", file }
  sysfs := sysfs
  calibration := calibration
  selected := initialSelection menuItems
  confirmExtreme := false
  shouldQuit := false
  refreshDelay := defaultRefreshDelay
  daemonChecked := now - daemonStateTtl
  rows := { value := [], checked := now - rowsTtl, spoiled := true }
  calls := []

def call (c : DashboardCall) (app : App) : App := { app with calls := app.calls ++ [c] }

def setToast (msg : String) (app : App) : App := { app with dashboard := app.dashboard.setToast msg }

/-- `config.save`; a save that fails leaves the file as it was. -/
def saveConfig (landed : Bool) (app : App) : App :=
  let file := if landed then app.dashboard.config.save else app.dashboard.file
  { app with dashboard := { app.dashboard with file } }.call (.saveConfig app.dashboard.config)

/-- One field of the dashboard's copy is set, and the copy saved. -/
def setSetting (landed : Bool) (setting : Setting) (app : App) : App :=
  { app with dashboard := { app.dashboard with config := setting.apply app.dashboard.config } }.saveConfig landed

/-! ### The daemon -/

/-- `refresh_daemon_state` -/
def refreshDaemonState (now : ℤ) (probe : Bool) (app : App) : App :=
  if now - app.daemonChecked < daemonStateTtl then app
  else { app with dashboard := { app.dashboard with daemonActive := probe }, daemonChecked := now }

/-- `stop_daemon` -/
def stopDaemon (o : KeyOutcomes) (app : App) : App :=
  { app with
    dashboard := { app.dashboard with daemonActive := false }
    daemonChecked := o.now }.call .signalDaemon

/-- `stop_background_daemon` -/
def stopBackgroundDaemon (o : KeyOutcomes) (app : App) : App :=
  ((app.setSetting o.saves (.autoExtremeEnabled false)).stopDaemon o).call (.systemctl "stop")

/-- The unit is restarted, when there is one. -/
def restartUnit (o : KeyOutcomes) (app : App) : App :=
  if o.unitInstalled then (app.call (.systemctl "reset-failed")).call (.systemctl "restart") else app

/-- `start_daemon`: a restarted unit has ten probes to show up before a detached daemon is
considered. -/
def startDaemon (o : KeyOutcomes) (app : App) : App :=
  let app := (app.setSetting o.saves (.autoExtremeEnabled true)).restartUnit o
  if o.unitInstalled && (o.polls.take 10).any id then
    { app with dashboard := { app.dashboard with daemonActive := true }, daemonChecked := o.now }
  else
    let app := if o.probe then app else app.call .spawnDaemon
    { app with
      dashboard := { app.dashboard with daemonActive := o.probe || o.spawns }
      daemonChecked := o.now }

/-! ### Profiles -/

/-- The daemon is stopped, the profile applied and recorded. -/
def chooseProfile (b : LinuxBackend) (o : KeyOutcomes) (profile : PowerProfile) (msg : String)
    (app : App) : App :=
  let app := app.stopBackgroundDaemon o
  let app := { app with sysfs := b.applyProfile app.sysfs profile }.call (.applyProfile profile)
  (app.setSetting o.savesProfile (.profile (some profile))).setToast msg

/-- `confirm_extreme_mode` -/
def confirmExtremeMode (b : LinuxBackend) (o : KeyOutcomes) (app : App) : App :=
  { app with confirmExtreme := false }.chooseProfile b o .extreme "EXTREME MODE ACTIVATED"

/-- `cancel_extreme_mode` -/
def cancelExtremeMode (app : App) : App := { app with confirmExtreme := false }

/-- `restore` -/
def restore (b : LinuxBackend) (o : KeyOutcomes) (msg : String) (app : App) : App :=
  { app with confirmExtreme := false }.chooseProfile b o .normal msg

/-! ### The charge limit and the calibration -/

/-- `set_charge_limit`, its direct write on the machine. -/
def setChargeLimit (o : KeyOutcomes) (limit : Option ℕ) (app : App) : App :=
  let supports := Threshold.supportsThreshold app.sysfs
  let written := limit.map fun n => Threshold.setChargeThreshold app.sysfs n
  let writes := written.any fun r => r.2.isOk
  let stale := !decide (o.now - app.daemonChecked < daemonStateTtl)
  { app with
    dashboard := app.dashboard.setChargeLimit
      { saves := o.saves
        supportsThreshold := supports
        writesThreshold := writes
        probe := if stale then some o.probe else none
        helper := o.helper
        helper_persists := o.helper_persists } limit
    sysfs := if supports then written.elim app.sysfs Prod.fst else app.sysfs
    daemonChecked :=
      if limit.isSome && !(supports && writes) && stale then o.now else app.daemonChecked }.call
    (.chargeLimit limit)

/-- `calibration_state().is_some()` -/
def calibrating (app : App) : Bool := (Calibrate.CalibrationState.load app.calibration).isSome

/-- A calibration command, and its message in a line. -/
def runCalibration (outcome : Calibrate.Outcome SysfsRoot) (app : App) : App :=
  let msg := match outcome.result with
    | .ok msg => msg
    | .error e => e
  ({ app with sysfs := outcome.device, calibration := outcome.file }.call .calibrate).setToast
    (firstLine msg)

/-! ### Keys on a row -/

/-- The row that is selected; the selection never leaves the menu. -/
def item (app : App) : ActionItem := menuItems.getD app.selected (.header "")

/-- `handle_enter` -/
def handleEnter (b : LinuxBackend) (o : KeyOutcomes) (app : App) : App :=
  match app.item with
  | .profilePerformance => app.chooseProfile b o .performance "PERFORMANCE MODE ACTIVATED"
  | .profileExtreme => { app with confirmExtreme := true }
  | .profileAutoExtreme =>
      let app := app.refreshDaemonState o.now o.probe
      if app.dashboard.daemonActive then
        (app.stopBackgroundDaemon o).setToast "AUTO EXTREME DAEMON STOPPED"
      else (app.startDaemon o).setToast "AUTO EXTREME RUNNING (BACKGROUND)"
  | .autoExtremeLevel =>
      let next := app.dashboard.config.autoExtremeLevel.next
      (app.setSetting o.saves (.autoExtremeLevel next)).setToast ("AUTO EXTREME LEVEL: " ++ next.upper)
  | .autoBrightness =>
      let next := !app.dashboard.config.autoBrightness
      (app.setSetting o.saves (.autoBrightness next)).setToast
        (if next then "AUTO BRIGHTNESS: ON" else "AUTO BRIGHTNESS: OFF")
  | .profileRestore => app.restore b o "RESTORE MODE ACTIVATED"
  | .chargeLimit =>
      app.setChargeLimit o (if app.dashboard.config.batteryChargeLimit.isSome then none else some 80)
  | .calibrate =>
      let app := app.stopDaemon o
      app.runCalibration <|
        if app.calibrating then
          Calibrate.status b.battery.powerSource app.sysfs app.calibration o.stateSave
        else Calibrate.start Threshold.linuxChargeThreshold app.sysfs app.calibration o.stateSave
  | .calibRestore =>
      let app := app.stopDaemon o
      app.runCalibration (Calibrate.finish Threshold.linuxChargeThreshold app.sysfs app.calibration)
  | .processPurge => (app.call .processPurge).setToast "PROCESSES PURGED"
  | _ => app

end App

/-- The hardware row of an item. -/
def ActionItem.hardwareRow : ActionItem → Option HardwareRow
  | .cores => some .cores
  | .freqLimit => some .freqLimit
  | .gpuFreq => some .gpuFreq
  | .raplPl1 => some .raplPl1
  | .raplPl2 => some .raplPl2
  | .turbo => some .turbo
  | .kbdBacklight => some .kbdBacklight
  | .bluetooth => some .bluetooth
  | .wifiEnable => some .wifiEnable
  | .wifiPowerSave => some .wifiPowerSave
  | .audioPowerSave => some .audioPowerSave
  | .autosuspend => some .autosuspend
  | .watchdog => some .watchdog
  | .vmWriteback => some .vmWriteback
  | _ => none

/-- The rows that go through `toggle_boolean`. -/
def HardwareRow.toggles : HardwareRow → Bool
  | turbo | kbdBacklight | bluetooth | wifiEnable | wifiPowerSave | audioPowerSave | autosuspend
  | watchdog => true
  | _ => false

namespace App

/-- A hardware row after the first signal; `toggle_boolean` sends a second one.  A part that is not
there is not adjusted. -/
def adjust (b : LinuxBackend) (o : KeyOutcomes) (direction : Direction) (row : HardwareRow)
    (app : App) : App :=
  let app := if row.toggles then app.stopDaemon o else app
  match handle b o.tools direction app.sysfs row with
  | (s, some msg) => ({ app with sysfs := s }.call (.adjust row)).setToast msg
  | (_, none) => app

/-- The brightness row. -/
def adjustBrightness (b : LinuxBackend) (o : KeyOutcomes) (direction : Direction) (app : App) : App :=
  if b.backlight.isSome then
    match handleBrightness b app.dashboard.config direction app.sysfs with
    | (s, some setting, some msg) =>
        (({ app with sysfs := s }.call .setBrightness).setSetting o.saves setting).setToast msg
    | (s, _, _) => { app with sysfs := s }.call .setBrightness
  else app

/-- `handle_left` and `handle_right` -/
def handleSide (b : LinuxBackend) (o : KeyOutcomes) (direction : Direction) (app : App) : App :=
  let item := app.item
  let app := if item.stopsDaemonOnAdjust then app.stopDaemon o else app
  match item with
  | .autoBrightness =>
      let next := !app.dashboard.config.autoBrightness
      (app.setSetting o.saves (.autoBrightness next)).setToast
        (if next then "AUTO BRIGHTNESS: ON" else "AUTO BRIGHTNESS: OFF")
  | .brightness => app.adjustBrightness b o direction
  | .chargeLimit =>
      app.setChargeLimit o
        (nextChargeLimit app.dashboard.config.batteryChargeLimit (decide (direction = .right)))
  | item =>
      match item.hardwareRow with
      | some row => app.adjust b o direction row
      | none => app

/-- `speed_up` -/
def speedUp (app : App) : App :=
  if minRefreshDelay < app.refreshDelay then
    let delay := max (app.refreshDelay - refreshStep) minRefreshDelay
    { app with refreshDelay := delay }.setToast ("Update Speed: " ++ formatDuration delay)
  else app

/-- `speed_down` -/
def speedDown (app : App) : App :=
  if app.refreshDelay < maxRefreshDelay then
    let delay := min (app.refreshDelay + refreshStep) maxRefreshDelay
    { app with refreshDelay := delay }.setToast ("Update Speed: " ++ formatDuration delay)
  else app

/-- `next_menu` and `prev_menu` -/
def move (forward : Bool) (app : App) : App :=
  { app with selected := stepSelection menuItems app.selected forward }

end App

/-! ### Keys -/

inductive KeyCode where
  | char (c : Char)
  | up
  | down
  | left
  | right
  | enter
  | esc
  | other
  deriving DecidableEq, Repr

structure Key where
  code : KeyCode
  ctrl : Bool
  deriving DecidableEq, Repr

/-- What a key stands for outside the confirmation. -/
inductive Command where
  | quit
  | restore
  | speedUp
  | speedDown
  | move (forward : Bool)
  | side (direction : Direction)
  | enter
  deriving DecidableEq, Repr

/-- The `match` of `run_loop`, its arms in order. -/
def Key.command (key : Key) : Option Command :=
  match key.code with
  | .char c =>
      if c = 'c' ∧ key.ctrl then some .quit
      else if c = 'q' ∨ c = 'Q' then some .quit
      else if c = 'r' ∨ c = 'R' then some .restore
      else if c = '+' then some .speedUp
      else if c = '-' then some .speedDown
      else if c = 'k' ∨ c = 'w' ∨ c = 'W' then some (.move false)
      else if c = 'j' ∨ c = 's' ∨ c = 'S' then some (.move true)
      else if c = 'h' ∨ c = 'a' ∨ c = 'A' then some (.side .left)
      else if c = 'l' ∨ c = 'd' ∨ c = 'D' then some (.side .right)
      else none
  | .esc => some .quit
  | .up => some (.move false)
  | .down => some (.move true)
  | .left => some (.side .left)
  | .right => some (.side .right)
  | .enter => some .enter
  | .other => none

/-- What a key answers to the confirmation. -/
def Key.answer (key : Key) : Option Bool :=
  match key.code with
  | .char c =>
      if c = 'y' ∨ c = 'Y' then some true else if c = 'n' ∨ c = 'N' then some false else none
  | .esc => some false
  | _ => none

namespace App

def execute (b : LinuxBackend) (o : KeyOutcomes) (app : App) : Command → App
  | .quit => { app with shouldQuit := true }
  | .restore => app.restore b o "System Restored"
  | .speedUp => app.speedUp
  | .speedDown => app.speedDown
  | .move forward => app.move forward
  | .side direction => app.handleSide b o direction
  | .enter => app.handleEnter b o

/-- `mark_rows_dirty` -/
def markRowsDirty (app : App) : App := { app with rows := app.rows.spoil }

/-- A key that is pressed.  The confirmation takes over the keyboard while it is visible. -/
def press (b : LinuxBackend) (o : KeyOutcomes) (key : Key) (app : App) : App :=
  if app.confirmExtreme then
    match key.answer with
    | some true => app.confirmExtremeMode b o
    | some false => app.cancelExtremeMode
    | none => app
  else (key.command.elim app (app.execute b o)).markRowsDirty

end App

/-! ### Turns -/

/-- A turn of the loop: whether a signal asked to quit, what the others did to the machine since the
last one, the clock, what the probes would find, and the key that is pressed, if one is. -/
structure Turn where
  quitRequested : Bool
  othersSysfs : SysfsRoot → SysfsRoot
  othersFile : ConfigFile → ConfigFile
  othersCalibration : Calibrate.StateFile → Calibrate.StateFile
  now : ℤ
  probe : Bool
  tools : RadioTools
  key : Option (Key × KeyOutcomes)

namespace App

/-- The others at the machine. -/
def disturbed (t : Turn) (app : App) : App :=
  { app with
    sysfs := t.othersSysfs app.sysfs
    dashboard := { app.dashboard with file := t.othersFile app.dashboard.file }
    calibration := t.othersCalibration app.calibration }

/-- What the rows of a frame are read from. -/
def sources (b : LinuxBackend) (tools : RadioTools) (app : App) : RowSources where
  backend := b
  tools := tools
  tree := app.sysfs.tree
  config := app.dashboard.config
  daemonActive := app.dashboard.daemonActive
  calibration := app.calibration

/-- What a frame would show now: the others were at the machine, and the tick has probed the daemon. -/
def seen (b : LinuxBackend) (t : Turn) (app : App) : RowSources :=
  ((app.disturbed t).refreshDaemonState t.now t.probe).sources b t.tools

/-- The dashboard when the frame is on the screen. -/
def frame (b : LinuxBackend) (t : Turn) (app : App) : App :=
  let shown := app.seen b t
  let app := (app.disturbed t).refreshDaemonState t.now t.probe
  { app with rows := app.rows.refresh rowsTtl (menuRows menuItems) t.now shown }

/-- A turn; the loop ends with the first one that finds that it should. -/
def turn (b : LinuxBackend) (app : App) (t : Turn) : App :=
  if app.shouldQuit then app
  else if t.quitRequested then { app with shouldQuit := true }
  else
    let app := app.frame b t
    match t.key with
    | none => app
    | some (key, o) => app.press b o key

end App

end WattWarden
