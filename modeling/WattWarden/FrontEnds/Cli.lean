import WattWarden.Core.Config
import WattWarden.Library.Numerals
import WattWarden.Library.Requests

/-!
# The command line

`cli::run`: the first argument picks a command, and whatever is left falls through to the root check
and the dashboard.  Everything a command does to its surroundings goes through the `CliRuntime`, so
it is a program that makes requests; writing a line and reading an environment variable are
requests too, but not operations of the runtime.

* `CliRequest` / `Answer` — the runtime's operations and what they return;
* `requireRoot` / `reporting` — the two shapes most commands are made of;
* `Command` / `run` — the commands and their aliases, and the dispatcher.
-/

namespace WattWarden

open Library.Numerals Library.Requests Library.Requests.Program

/-! ### The runtime -/

/-- What the dispatcher itself reads of a health report. -/
structure HealthReport where
  present : Bool
  /-- `Config.battery_charge_limit`. -/
  configuredLimit : Option ℕ
  /-- The threshold active in sysfs. -/
  activeThreshold : Option ℕ

/-- A line of output: a text, or one of the two renderings of a report. -/
inductive Line where
  | text (s : String)
  | health (report : HealthReport)
  | statusBattery (report : HealthReport)

inductive CliRequest where
  | isRoot
  | daemonActive
  | autoBrightness
  | setAutoBrightness (enabled : Bool)
  | syncInstalledBinary
  | startBackgroundDaemon
  | stopBackgroundDaemon
  | installService
  | uninstallService
  | runDaemon
  | launchDashboard
  | healthReport
  | setChargeLimit (limit : Option ℕ)
  | calibrateStart
  | calibrateStatus
  | calibrateFinish
  | setProfile (profile : Option PowerProfile)
  | setAutoExtremeLevel (level : AutoExtremeLevel)
  | setBrightnessPercent (percent : ℕ)
  /-- Re-run under an escalator: its exit code, when there is a usable one. -/
  | elevate
  /-- `std::env::var`. -/
  | envVar (name : String)
  /-- `writeln!(out, ..)`. -/
  | writeln (line : Line)

/-- What a request returns. -/
abbrev Answer : CliRequest → Type
  | .isRoot | .daemonActive | .autoBrightness => Bool
  | .setAutoBrightness _ | .syncInstalledBinary | .stopBackgroundDaemon | .writeln _ => Unit
  | .startBackgroundDaemon | .installService | .uninstallService | .runDaemon | .launchDashboard
  | .setChargeLimit _ | .setProfile _ | .setAutoExtremeLevel _ | .setBrightnessPercent _ =>
      Except String Unit
  | .calibrateStart | .calibrateStatus | .calibrateFinish => Except String String
  | .healthReport => Except String HealthReport
  | .elevate => Option ℤ
  | .envVar _ => Option String

/-- A part of the command line, with its requests. -/
abbrev Cli (α : Type) := Program CliRequest Answer α

/-- A runtime, with a memory in `σ`. -/
abbrev CliRuntime (σ : Type) := Surroundings CliRequest Answer σ

namespace Cli

/-- One operation of the runtime. -/
def call (r : CliRequest) : Cli (Answer r) := ask r

def println (s : String) : Cli Unit := call (.writeln (.text s))

/-- A message and exit code 1. -/
def fail (message : String) : Cli ℤ := do
  println message
  return 1

/-- Nothing but `message` without root. -/
def requireRoot (message : String) (body : Cli ℤ) : Cli ℤ := do
  if ← call .isRoot then body else fail message

/-- An operation: its error after `complaint` and exit code 1, or `success` and exit code 0. -/
def reporting {α : Type} (operation : Cli (Except String α)) (complaint : String)
    (success : α → Cli Unit) : Cli ℤ := do
  match ← operation with
  | .error e => fail (complaint ++ e)
  | .ok a =>
      success a
      return 0

/-! ### Commands -/

/-- `print_help`. -/
def helpLines : List String := [
  "⚡ WattWarden - Hardware Power & Auto-Brightness Management",
  "",
  "Usage:",
  "  sudo wattwarden                   Launch interactive TUI Dashboard",
  "  sudo wattwarden --daemon          Run background auto-tuning daemon in foreground",
  "  sudo wattwarden --start           Start background daemon (persists after closing terminal)",
  "  sudo wattwarden --stop            Stop background daemon",
  "  sudo wattwarden --status          Check background daemon status",
  "  sudo wattwarden --brightness <on|off> Configure auto-brightness setting",
  "  sudo wattwarden --install-service Install & enable auto-start system service",
  "  sudo wattwarden --uninstall-service Remove system service",
  "  sudo wattwarden --health          Show battery health, charge limit and suggestions",
  "  sudo wattwarden --charge-limit <55-100|off> Set or clear the battery charge ceiling",
  "  sudo wattwarden --calibrate <start|status|done|abort> Recalibrate the battery gauge",
  "  sudo wattwarden profile <name>    Apply profile (normal, performance, extreme, auto)",
  "  sudo wattwarden level <low|medium|high> Set Auto Extreme adaptive level",
  "  sudo wattwarden brightness <val>  Set display brightness (1-100) or toggle auto (on/off)",
  "  sudo wattwarden service <install|uninstall> Manage the background system service"]

def printHelp : Cli Unit := forM helpLines println

/-- `--daemon` -/
def daemon : Cli ℤ :=
  requireRoot "Error: Administrator/root privileges are required to run the daemon."
    (reporting (call .runDaemon) "Error running daemon: " fun _ => pure ())

/-- `--install-service` -/
def installService : Cli ℤ :=
  requireRoot "Error: Administrator/root privileges are required to install the service."
    (reporting (call .installService) "Error installing service: " fun _ =>
      println "✅ WattWarden background service installed and started successfully.")

/-- `--uninstall-service` -/
def uninstallService : Cli ℤ :=
  requireRoot "Error: Administrator/root privileges are required to uninstall the service."
    (reporting (call .uninstallService) "Error uninstalling service: " fun _ =>
      println "✅ WattWarden background service uninstalled.")

/-- `service <install|uninstall>` -/
def service (arg : Option String) : Cli ℤ :=
  match arg with
  | some "install" => installService
  | some "uninstall" => uninstallService
  | _ => do
      printHelp
      return 1

/-- `--start` -/
def start : Cli ℤ :=
  requireRoot "Error: Administrator/root privileges are required."
    (reporting (call .startBackgroundDaemon) "Error starting daemon: " fun _ =>
      println "⚡ WattWarden background daemon started.")

/-- `--stop` -/
def stop : Cli ℤ :=
  requireRoot "Error: Administrator/root privileges are required." do
    call .stopBackgroundDaemon
    println "🛑 WattWarden background daemon stopped."
    return 0

def printDaemon : Cli Unit := do
  if ← call .daemonActive then
    println "WattWarden Daemon Status: [ACTIVE] (Running in background)"
  else
    println "WattWarden Daemon Status: [INACTIVE]"

/-- The battery line, when there is a report and a battery. -/
def printBattery : Cli Unit := do
  match ← call .healthReport with
  | .ok report => if report.present then call (.writeln (.statusBattery report)) else pure ()
  | .error _ => pure ()

/-- `--status` -/
def status : Cli ℤ := do
  printDaemon
  printBattery
  return 0

/-- `--health` -/
def health : Cli ℤ :=
  reporting (call .healthReport) "Error: " fun report => call (.writeln (.health report))

/-- Root, or an escalator that runs the whole command again, or the error. -/
def ensurePrivileged (message : String) (body : Cli ℤ) : Cli ℤ := do
  if ← call .isRoot then body
  else
    match ← call .elevate with
    | some code => return code
    | none => fail message

/-- The limits of a report, for the query. -/
def limitText (report : HealthReport) : String :=
  match report.configuredLimit, report.activeThreshold with
  | some c, some a => "configured " ++ decimal c ++ "% (active threshold " ++ decimal a ++ "%)"
  | some c, none => "configured " ++ decimal c ++ "%"
  | none, some a => "not set (active threshold " ++ decimal a ++ "%)"
  | none, none => "not set"

/-- What is said after the limit was cleared. -/
def printCleared : Cli Unit := do
  println "Charge limit cleared. WattWarden will not touch the charge threshold."
  match ← call .healthReport with
  | .ok report =>
      match report.activeThreshold with
      | some a =>
          println ("Active threshold remains: " ++ decimal a ++ "% (set outside WattWarden).")
      | none => pure ()
  | .error _ => pure ()

/-- `--charge-limit` -/
def chargeLimit (arg : Option String) : Cli ℤ :=
  let privileged := ensurePrivileged
    "Error: Administrator/root privileges are required to change the charge limit."
  match arg with
  | some "off" =>
      privileged (reporting (call (.setChargeLimit none)) "Error clearing charge limit: " fun _ =>
        printCleared)
  | some arg =>
      match parseUnsigned (2 ^ 8) arg with
      | some n =>
          if 55 ≤ n ∧ n ≤ 100 then
            privileged (reporting (call (.setChargeLimit (some n))) "Error setting charge limit: "
              fun _ => println ("Charge limit set to: " ++ decimal n ++ "%"))
          else fail "Error: charge limit must be a value between 55 and 100, or 'off'."
      | none => fail "Error: charge limit must be a value between 55 and 100, or 'off'."
  | none =>
      reporting (call .healthReport) "Error: " fun report =>
        println ("Charge limit: " ++ limitText report)

/-- `--calibrate` -/
def calibrate (arg : Option String) : Cli ℤ :=
  ensurePrivileged "Error: Administrator/root privileges are required to run calibration."
    (match arg with
      | some "start" | none => reporting (call .calibrateStart) "Error: " println
      | some "status" => reporting (call .calibrateStatus) "Error: " println
      | some "done" | some "abort" => reporting (call .calibrateFinish) "Error: " println
      | some other => fail ("Error: unknown calibrate phase '" ++ other ++
          "' (use start|status|done|abort)."))

/-- Toggle auto-brightness; nothing checks for root. -/
def toggleAutoBrightness (enabled : Bool) : Cli ℤ := do
  call (.setAutoBrightness enabled)
  println ("Auto-brightness set to: " ++ toString enabled)
  return 0

def showAutoBrightness : Cli ℤ := do
  println ("Auto-brightness is currently: " ++ toString (← call .autoBrightness))
  return 0

/-- `--brightness` -/
def brightnessFlag (arg : Option String) : Cli ℤ :=
  match arg with
  | some arg => toggleAutoBrightness (arg = "on" ∨ arg = "1" ∨ arg = "true")
  | none => showAutoBrightness

/-- `brightness` -/
def brightness (arg : Option String) : Cli ℤ :=
  match arg with
  | some "on" => toggleAutoBrightness true
  | some "off" => toggleAutoBrightness false
  | some arg =>
      match parseUnsigned (2 ^ 8) arg with
      | some n =>
          if 1 ≤ n ∧ n ≤ 100 then
            requireRoot "Error: Administrator/root privileges are required to set brightness."
              (reporting (call (.setBrightnessPercent n)) "Error setting brightness: " fun _ =>
                println ("Brightness set to: " ++ decimal n ++ "%"))
          else fail "Error: brightness must be 1-100, 'on' or 'off'."
      | none => fail "Error: brightness must be 1-100, 'on' or 'off'."
  | none => showAutoBrightness

/-- `to_ascii_lowercase` -/
def toAsciiLowercase (s : String) : String := s.map Char.toLower

/-- One profile, with the label it is reported under. -/
def setProfile (operation : Cli (Except String Unit)) (label : String) : Cli ℤ :=
  reporting operation "Error setting profile: " fun _ =>
    println ("Power profile set to: " ++ label)

/-- `profile` -/
def profile (arg : Option String) : Cli ℤ :=
  requireRoot
    "Error: Administrator/root privileges are required to change system power settings."
    (match (arg.map toAsciiLowercase).getD "" with
      | "performance" | "perf" => setProfile (call (.setProfile (some .performance))) "Performance"
      | "extreme" => setProfile (call (.setProfile (some .extreme))) "Extreme"
      | "normal" | "restore" | "default" =>
          setProfile (call (.setProfile none)) "Normal (restored)"
      | "auto" => setProfile (call .startBackgroundDaemon) "Auto Extreme"
      | _ => fail ("Error: unknown profile '" ++ arg.getD "" ++
          "' (use normal|performance|extreme|auto)."))

/-- One level, under the name it was asked by. -/
def setLevel (level : AutoExtremeLevel) (name : String) : Cli ℤ :=
  reporting (call (.setAutoExtremeLevel level)) "Error setting level: " fun _ =>
    println ("Auto Extreme level set to: " ++ name)

/-- `level` -/
def level (arg : Option String) : Cli ℤ :=
  requireRoot
    "Error: Administrator/root privileges are required to change the Auto Extreme level."
    (match arg with
      | some "low" => setLevel .low "low"
      | some "medium" => setLevel .medium "medium"
      | some "high" => setLevel .high "high"
      | _ => fail "Error: level must be low, medium or high.")

/-- `CARGO_PKG_VERSION` -/
def cargoPkgVersion : String := "2.3.0"

/-- `--version` -/
def version : Cli ℤ := do
  println ("WattWarden v" ++ cargoPkgVersion)
  return 0

/-- `--help` -/
def help : Cli ℤ := do
  printHelp
  return 0

/-! ### The dispatcher -/

inductive Command where
  | daemon
  | installService
  | uninstallService
  | service
  | start
  | stop
  | status
  | health
  | chargeLimit
  | calibrate
  | brightnessFlag
  | brightness
  | profile
  | level
  | version
  | help
  deriving DecidableEq

/-- The names of the commands. -/
def commandOf : String → Option Command
  | "--daemon" | "daemon" => some .daemon
  | "--install-service" | "install-service" => some .installService
  | "--uninstall-service" | "uninstall-service" => some .uninstallService
  | "service" => some .service
  | "--start" | "start" => some .start
  | "--stop" | "stop" => some .stop
  | "--status" | "status" => some .status
  | "--health" | "health" => some .health
  | "--charge-limit" | "charge-limit" => some .chargeLimit
  | "--calibrate" | "calibrate" => some .calibrate
  | "--brightness" => some .brightnessFlag
  | "brightness" => some .brightness
  | "profile" | "--profile" => some .profile
  | "level" | "--level" => some .level
  | "--version" | "-v" | "version" => some .version
  | "--help" | "-h" | "help" => some .help
  | _ => none

/-- A command with the argument after it. -/
def Command.run (arg : Option String) : Command → Cli ℤ
  | .daemon => Cli.daemon
  | .installService => Cli.installService
  | .uninstallService => Cli.uninstallService
  | .service => Cli.service arg
  | .start => Cli.start
  | .stop => Cli.stop
  | .status => Cli.status
  | .health => Cli.health
  | .chargeLimit => Cli.chargeLimit arg
  | .calibrate => Cli.calibrate arg
  | .brightnessFlag => Cli.brightnessFlag arg
  | .brightness => Cli.brightness arg
  | .profile => Cli.profile arg
  | .level => Cli.level arg
  | .version => Cli.version
  | .help => Cli.help

/-- No command: the root check, and then the daemon or the dashboard. -/
def fallThrough : Cli ℤ :=
  requireRoot ("Error: You must run this program with administrator/root privileges to change " ++
      "system power settings.") do
    call .syncInstalledBinary
    if (← call (.envVar "WATTWARDEN_DAEMON")) = some "1" then
      reporting (call .runDaemon) "Error running daemon: " fun _ => pure ()
    else
      reporting (call .launchDashboard) "Error: " fun _ => pure ()

/-- `run`: the exit code of an argument vector. -/
def run (args : List String) : Cli ℤ :=
  match args[1]?.bind commandOf with
  | some command => command.run args[2]?
  | none => fallThrough

end Cli

end WattWarden
