import WattWarden.Core.Calibrate
import WattWarden.FrontEnds.Adjust
import WattWarden.Library.Tenths
import WattWarden.Platform.Health

/-!
# The rows of the dashboard's menu

`App::row_info`: the name and the value of a row, and whether it is highlighted, read from the
configuration, the machine, the calibration and the daemon.  Percentages and temperatures are exact.

* `RowSources` — what a row is read from;
* `rowInfo` — translated from the source;
* `menuRows` — the rows of a menu.
-/

namespace WattWarden

open Library.FileTree Library.Numerals Library.Tenths

/-! ### The two policies that are only shown -/

/-- `parse_aspm_policy`: the first word in brackets, else the text as it is. -/
def parseAspmPolicy (content : String) : String :=
  match (splitWhitespace content).find? fun word =>
      decide (word.toList.head? = some '[' ∧ word.toList.getLast? = some ']' ∧ 2 ≤ word.length) with
  | some word => String.ofList word.toList.tail.dropLast
  | none => trim content

/-- `aspm_policy`. -/
def LinuxAspm.aspmPolicy (t : Tree) : String := parseAspmPolicy (SysfsRoot.read t aspmPolicyPath)

/-- `energy_performance_preference`: that of the first CPU, `none` without the node. -/
def LinuxCpuGovernor.energyPerformancePreference (t : Tree) : Option String :=
  let node := cpufreqNode 0 "energy_performance_preference"
  if t.pathExists node then some (SysfsRoot.read t node) else none

/-! ### A row -/

/-- `RowInfo` -/
structure RowInfo where
  name : String
  value : String
  active : Bool
  deriving DecidableEq, Repr

/-- What a row is read from. -/
structure RowSources where
  backend : LinuxBackend
  tools : RadioTools
  tree : Tree
  config : Config
  daemonActive : Bool
  calibration : Calibrate.StateFile

/-- `display_bool` -/
def displayBool (value : Bool) : String := if value then "[ACTIVE]" else "[OFF]"

/-- `format_number` -/
def formatNumber (value : ℤ) : String := if value ≤ 0 then "[N/A]" else "[" ++ toString value ++ "]"

/-- `to_string().to_uppercase()` of a level. -/
def AutoExtremeLevel.upper : AutoExtremeLevel → String
  | .low => "LOW"
  | .medium => "MEDIUM"
  | .high => "HIGH"

/-- `calibration_display` -/
def calibrationDisplay (state : Option Calibrate.CalibrationState) : String :=
  match state with
  | some s => "[" ++ s.phase.name ++ "]"
  | none => "[not started]"

/-- A metric in brackets, `[N/A]` without one. -/
def bracketed (text : Option String) : String := text.elim "[N/A]" fun v => "[" ++ v ++ "]"

/-- The row of a switch. -/
def switchRow (name : String) (on : Bool) : RowInfo := ⟨name, displayBool on, on⟩

/-- The row of something that Enter executes. -/
def executeRow (name : String) (active : Bool) : RowInfo :=
  ⟨name, if active then "[ACTIVE]" else "[EXECUTE]", active⟩

/-- `row_info` -/
def rowInfo (r : RowSources) : ActionItem → RowInfo
  | .header title => ⟨title, "", false⟩
  | .profilePerformance =>
      executeRow "⚡ Performance Mode" (decide (r.config.profile = some .performance))
  | .profileExtreme => executeRow "🔋 Extreme Mode" (decide (r.config.profile = some .extreme))
  | .profileAutoExtreme => executeRow "⚡ Auto Extreme Mode" r.daemonActive
  | .autoExtremeLevel =>
      ⟨"Auto Extreme Level", "[" ++ r.config.autoExtremeLevel.upper ++ "]", false⟩
  | .autoBrightness => switchRow "Auto Brightness" r.config.autoBrightness
  | .profileRestore => executeRow "♻  Restore Mode" false
  | .healthLine =>
      ⟨"Battery Health", bracketed (((r.backend.battery.health r.tree).healthPct ℚ).map fun pct =>
        shortest pct ++ "%"), false⟩
  | .cycleLine =>
      ⟨"Battery Cycles", bracketed ((r.backend.battery.health r.tree).cycleCount.map decimal), false⟩
  | .tempLine =>
      ⟨"Battery Temp", bracketed ((r.backend.battery.health r.tree).tempC.map fun temp =>
        fixedOne temp ++ "°C"), false⟩
  | .chargeLimit =>
      ⟨"Charge Limit", r.config.batteryChargeLimit.elim "[OFF]" fun limit => "[" ++ decimal limit ++ "%]",
        r.config.batteryChargeLimit.isSome⟩
  | .calibration =>
      ⟨"Calibration", calibrationDisplay (Calibrate.CalibrationState.load r.calibration), false⟩
  | .calibrate => executeRow "Calibrate" false
  | .calibRestore => executeRow "Calib Restore" false
  | .cores =>
      ⟨"Active Cores", "[" ++ decimal (r.backend.cpu.onlineCores r.tree) ++ " / " ++
        decimal r.backend.cpu.numCpus ++ "]", false⟩
  | .freqLimit => ⟨"CPU Freq (MHz)", formatNumber (LinuxCpuGovernor.freqLimit r.tree : ℕ), false⟩
  | .gpuFreq =>
      ⟨"Freq iGPU (MHz)", formatNumber (r.backend.gpu.elim 0 fun gpu => gpu.gpuFreq r.tree : ℕ), false⟩
  | .raplPl1 =>
      ⟨"RAPL PL1 (W)", formatNumber (r.backend.rapl.elim 0 fun rapl =>
        rapl.getLimit r.tree longTerm : ℕ), false⟩
  | .raplPl2 =>
      ⟨"RAPL PL2 (W)", formatNumber (r.backend.rapl.elim 0 fun rapl =>
        rapl.getLimit r.tree shortTerm : ℕ), false⟩
  | .turbo => switchRow "Turbo Boost" (LinuxCpuGovernor.turboEnabled r.tree)
  | .epp =>
      ⟨"Energy Perf Pref", "[" ++ (LinuxCpuGovernor.energyPerformancePreference r.tree).getD "N/A" ++ "]",
        false⟩
  | .aspm =>
      ⟨"PCIe ASPM Policy", "[" ++ (r.backend.aspm.elim "default" fun _ =>
        LinuxAspm.aspmPolicy r.tree) ++ "]", false⟩
  | .brightness =>
      ⟨"LCD Brightness (%)", "[" ++ decimal (r.backend.backlight.elim 0 fun _ =>
        LinuxBacklight.brightnessPercent r.backend.brightnessctl r.tree) ++ "]", false⟩
  | .kbdBacklight => switchRow "Keyboard Light" (kbdBacklight r.tree)
  | .bluetooth => switchRow "Bluetooth" (!r.tools.bluetoothBlocked)
  | .wifiEnable => switchRow "WiFi Enable" (!r.tools.wifiBlocked)
  | .wifiPowerSave => switchRow "WiFi Power Save" (Tweaks.wifiPowerSave r.tools.iwPowerSave r.tree)
  | .audioPowerSave => switchRow "Audio Power Save" (Tweaks.audioPowerSave r.tree)
  | .autosuspend => switchRow "Autosuspend PCI/USB" (Tweaks.autosuspend r.tree)
  | .watchdog => switchRow "Watchdog Kernel" (Tweaks.nmiWatchdog r.tree)
  | .vmWriteback =>
      ⟨"VM Writeback (s)", "[" ++ toString (Tweaks.vmWritebackCentisecs r.tree) ++ "]", false⟩
  | .processPurge => executeRow "Process Purge" false

/-- The rows of a menu. -/
def menuRows (items : List ActionItem) (r : RowSources) : List RowInfo := items.map (rowInfo r)

example : parseAspmPolicy "default performance [powersave] powersupersave\n" = "powersave" := by decide

end WattWarden
