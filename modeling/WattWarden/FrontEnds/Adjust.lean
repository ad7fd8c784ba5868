import WattWarden.FrontEnds.Settings

/-!
# Left and right on a dashboard row

`App::handle_left` and `App::handle_right` for the rows whose adjustment stops the daemon.  A row
reads its current value, moves it one step inside the displayed bounds or toggles it, writes it and
announces it in a toast.

* `ActionItem` / `ActionItem.stopsDaemonOnAdjust` — the rows of the menu, and the ones that pause
  the daemon for the user's sake;
* `HardwareRow` / `App.handle` — these rows, and what an adjustment does;
* `App.handleBrightness` — the brightness row, which leaves the daemon running;
* `stopsDaemonOnAdjust_iff` — **PROVED**: `HardwareRow` lists exactly the rows that stop the daemon.
-/

namespace WattWarden

open Library.FileTree Library.Journaling Library.Numerals

inductive ActionItem where
  | header (title : String)
  | profilePerformance
  | profileExtreme
  | profileAutoExtreme
  | autoExtremeLevel
  | autoBrightness
  | profileRestore
  | healthLine
  | cycleLine
  | tempLine
  | chargeLimit
  | calibration
  | calibrate
  | calibRestore
  | cores
  | freqLimit
  | gpuFreq
  | raplPl1
  | raplPl2
  | turbo
  | epp
  | aspm
  | brightness
  | kbdBacklight
  | bluetooth
  | wifiEnable
  | wifiPowerSave
  | audioPowerSave
  | autosuspend
  | watchdog
  | vmWriteback
  | processPurge
  deriving DecidableEq, Repr

/-- `stops_daemon_on_adjust`: manual hardware adjustment pauses the daemon.  The charge limit is
exempt, the daemon enforces it. -/
def ActionItem.stopsDaemonOnAdjust : ActionItem → Bool
  | cores | freqLimit | gpuFreq | raplPl1 | raplPl2 | turbo | kbdBacklight | bluetooth | wifiEnable
  | wifiPowerSave | audioPowerSave | autosuspend | watchdog | vmWriteback => true
  | _ => false

/-- The rows that stop the daemon when they are adjusted. -/
inductive HardwareRow where
  | cores
  | freqLimit
  | gpuFreq
  | raplPl1
  | raplPl2
  | turbo
  | kbdBacklight
  | bluetooth
  | wifiEnable
  | wifiPowerSave
  | audioPowerSave
  | autosuspend
  | watchdog
  | vmWriteback
  deriving DecidableEq, Repr

def HardwareRow.item : HardwareRow → ActionItem
  | cores => .cores
  | freqLimit => .freqLimit
  | gpuFreq => .gpuFreq
  | raplPl1 => .raplPl1
  | raplPl2 => .raplPl2
  | turbo => .turbo
  | kbdBacklight => .kbdBacklight
  | bluetooth => .bluetooth
  | wifiEnable => .wifiEnable
  | wifiPowerSave => .wifiPowerSave
  | audioPowerSave => .audioPowerSave
  | autosuspend => .autosuspend
  | watchdog => .watchdog
  | vmWriteback => .vmWriteback

theorem stopsDaemonOnAdjust_iff (item : ActionItem) :
    item.stopsDaemonOnAdjust = true ↔ ∃ row : HardwareRow, row.item = item := by
  constructor
  · intro h
    cases item with
    | cores => exact ⟨.cores, rfl⟩
    | freqLimit => exact ⟨.freqLimit, rfl⟩
    | gpuFreq => exact ⟨.gpuFreq, rfl⟩
    | raplPl1 => exact ⟨.raplPl1, rfl⟩
    | raplPl2 => exact ⟨.raplPl2, rfl⟩
    | turbo => exact ⟨.turbo, rfl⟩
    | kbdBacklight => exact ⟨.kbdBacklight, rfl⟩
    | bluetooth => exact ⟨.bluetooth, rfl⟩
    | wifiEnable => exact ⟨.wifiEnable, rfl⟩
    | wifiPowerSave => exact ⟨.wifiPowerSave, rfl⟩
    | audioPowerSave => exact ⟨.audioPowerSave, rfl⟩
    | autosuspend => exact ⟨.autosuspend, rfl⟩
    | watchdog => exact ⟨.watchdog, rfl⟩
    | vmWriteback => exact ⟨.vmWriteback, rfl⟩
    | _ => cases h
  · intro hgiven
    obtain ⟨row, rfl⟩ := hgiven
    cases row <;> rfl

inductive Direction where
  | left
  | right
  deriving DecidableEq, Repr

/-- What `rfkill` and `iw` answer when a toggle asks for the current state. -/
structure RadioTools where
  bluetoothBlocked : Bool
  wifiBlocked : Bool
  iwPowerSave : Bool
  deriving DecidableEq, Repr

namespace App

/-- One step down to the floor, or up to the ceiling.  The addition wraps around at `width`, the
subtraction saturates. -/
def stepped (direction : Direction) (width step lo hi cur : ℕ) : ℕ :=
  match direction with
  | .left => max (cur - step) lo
  | .right => min ((cur + step) % width) hi

/-- One switch of `toggle_boolean`: the other value is set and announced. -/
def toggled (name : String) (cur : Bool) (set : Bool → SysfsRoot) : SysfsRoot × Option String :=
  (set !cur, some (name ++ ": " ++ if !cur then "ON" else "OFF"))

/-- A package limit, one step of 2 W inside `rapl_bounds`. -/
def handleRapl (b : LinuxBackend) (direction : Direction) (s : SysfsRoot) (label constraint : String)
    (set : LinuxRapl → ℕ → SysfsRoot) : SysfsRoot × Option String :=
  match b.rapl with
  | none => (s, none)
  | some rapl =>
      let bounds := rapl.bounds s.tree
      let next := stepped direction (2 ^ 32) 2 bounds.1 bounds.2 (rapl.getLimit s.tree constraint)
      (set rapl next, some (label ++ ": " ++ decimal next ++ " W"))

/-- `handle_left` and `handle_right` after the daemon was signalled: the tree and the toast.
Bluetooth and Wi-Fi go through `rfkill`, which has no node here. -/
def handle (b : LinuxBackend) (tools : RadioTools) (direction : Direction) (s : SysfsRoot) :
    HardwareRow → SysfsRoot × Option String
  | .cores =>
      let next := stepped direction (2 ^ 64) 1 1 b.cpu.numCpus (b.cpu.onlineCores s.tree)
      (b.cpu.setOnlineCores s next,
        some ("ACTIVE CORES: " ++ decimal next ++ " / " ++ decimal b.cpu.numCpus))
  | .freqLimit =>
      let bounds := b.cpu.freqBounds s.tree
      let next := stepped direction (2 ^ 32) 100 bounds.1 bounds.2
        (LinuxCpuGovernor.freqLimit s.tree)
      (b.cpu.setFreqLimit s next, some ("CPU FREQ: " ++ decimal next ++ " MHz"))
  | .gpuFreq =>
      match b.gpu with
      | none => (s, none)
      | some gpu =>
          let bounds := gpu.gpuBounds s.tree
          let next := stepped direction (2 ^ 32) 50 bounds.1 bounds.2 (gpu.gpuFreq s.tree)
          (gpu.setGpuFreq s next, some ("FREQ IGPU: " ++ decimal next ++ " MHz"))
  | .raplPl1 => handleRapl b direction s "RAPL PL1" longTerm fun rapl => rapl.setPl1Watts s
  | .raplPl2 => handleRapl b direction s "RAPL PL2" shortTerm fun rapl => rapl.setPl2Watts s
  | .turbo =>
      toggled "TURBO BOOST" (LinuxCpuGovernor.turboEnabled s.tree)
        (LinuxCpuGovernor.setTurboEnabled s)
  | .kbdBacklight => toggled "KEYBOARD LIGHT" (WattWarden.kbdBacklight s.tree) (setKbdBacklight s)
  | .bluetooth => toggled "BLUETOOTH" (!tools.bluetoothBlocked) fun _ => s
  | .wifiEnable => toggled "WIFI ENABLE" (!tools.wifiBlocked) fun _ => s
  | .wifiPowerSave =>
      toggled "WIFI POWER SAVE" (Tweaks.wifiPowerSave tools.iwPowerSave s.tree)
        (Tweaks.setWifiPowerSave s)
  | .audioPowerSave =>
      toggled "AUDIO POWER SAVE" (Tweaks.audioPowerSave s.tree) (Tweaks.setAudioPowerSave s)
  | .autosuspend =>
      toggled "AUTOSUSPEND PCI/USB" (Tweaks.autosuspend s.tree) (Tweaks.setAutosuspend s)
  | .watchdog => toggled "WATCHDOG KERNEL" (Tweaks.nmiWatchdog s.tree) (Tweaks.setNmiWatchdog s)
  | .vmWriteback =>
      let cur := Tweaks.vmWritebackCentisecs s.tree
      let moved := wrapI64 (match direction with | .left => cur - 1 | .right => cur + 1)
      let s := Tweaks.setVmWritebackCentisecs s (clamp 100 6000 moved)
      (s, some ("VM WRITEBACK: " ++ toString (Tweaks.vmWritebackCentisecs s.tree)))

/-- One step of the brightness row, on `u8`. -/
def nextBrightness (direction : Direction) (cur : ℕ) : ℕ := stepped direction (2 ^ 8) 5 1 100 cur

/-- The brightness row: the tree, the setting that is saved and the toast.  A manual brightness turns
auto-brightness off, and says so. -/
def handleBrightness (b : LinuxBackend) (config : Config) (direction : Direction) (s : SysfsRoot) :
    SysfsRoot × Option Setting × Option String :=
  if b.backlight.isSome then
    let cur := LinuxBacklight.brightnessPercent b.brightnessctl s.tree
    let next := nextBrightness direction cur
    let setting := DashboardAction.adjustBrightness.setting config
    (LinuxBacklight.setBrightnessPercent b.brightnessctl s next, setting,
      setting.map fun _ => "AUTO BRIGHTNESS: OFF")
  else (s, none, none)

end App

end WattWarden
