import WattWarden.Platform.Backend

/-!
# What the front ends save

The command line loads the configuration, sets one field and saves; the dashboard sets one field of
the copy it loaded at start-up and saves the whole copy.  Both are given by the setting they save.

* `Field` / `FieldValue` / `Config.get` — the nine persisted fields;
* `Setting` — one field and its new value; `Config.get_apply` says what applying it changes;
* `CliCommand.setting` / `DashboardAction.setting` — translated from the source;
* `RealRuntime.setProfile` / `App.applyProfile` — choosing a profile, on the tree and on the file.
-/

namespace WattWarden

open Library.FileTree

/-! ### Fields -/

inductive Field where
  | autoExtremeEnabled
  | autoExtremeLevel
  | autoBrightness
  | profile
  | batteryChargeLimit
  | batteryHealthLog
  | batteryTempWarnC
  | terminalBrightness
  | guiBrightness
  deriving DecidableEq, Repr

inductive FieldValue where
  | flag (value : Bool)
  | level (value : AutoExtremeLevel)
  | profile (value : Option PowerProfile)
  | number (value : Option ℕ)
  deriving DecidableEq, Repr

def Config.get (config : Config) : Field → FieldValue
  | .autoExtremeEnabled => .flag config.autoExtremeEnabled
  | .autoExtremeLevel => .level config.autoExtremeLevel
  | .autoBrightness => .flag config.autoBrightness
  | .profile => .profile config.profile
  | .batteryChargeLimit => .number config.batteryChargeLimit
  | .batteryHealthLog => .flag config.batteryHealthLog
  | .batteryTempWarnC => .number config.batteryTempWarnC
  | .terminalBrightness => .number (some config.terminalBrightness)
  | .guiBrightness => .number (some config.guiBrightness)

/-- A field a front end sets, and its new value. -/
inductive Setting where
  | autoExtremeEnabled (enabled : Bool)
  | autoExtremeLevel (level : AutoExtremeLevel)
  | autoBrightness (enabled : Bool)
  | profile (chosen : Option PowerProfile)
  | batteryChargeLimit (limit : Option ℕ)
  deriving DecidableEq, Repr

namespace Setting

def field : Setting → Field
  | autoExtremeEnabled _ => .autoExtremeEnabled
  | autoExtremeLevel _ => .autoExtremeLevel
  | autoBrightness _ => .autoBrightness
  | profile _ => .profile
  | batteryChargeLimit _ => .batteryChargeLimit

def value : Setting → FieldValue
  | autoExtremeEnabled enabled => .flag enabled
  | autoExtremeLevel level => .level level
  | autoBrightness enabled => .flag enabled
  | profile chosen => .profile chosen
  | batteryChargeLimit limit => .number limit

def apply (config : Config) : Setting → Config
  | autoExtremeEnabled enabled => { config with autoExtremeEnabled := enabled }
  | autoExtremeLevel level => { config with autoExtremeLevel := level }
  | autoBrightness enabled => { config with autoBrightness := enabled }
  | profile chosen => { config with profile := chosen }
  | batteryChargeLimit limit => { config with batteryChargeLimit := limit }

end Setting

/-- A setting changes its own field and no other. -/
theorem Config.get_apply (config : Config) (setting : Setting) (f : Field) :
    (setting.apply config).get f = if f = setting.field then setting.value else config.get f := by
  cases setting <;> cases f <;> rfl

/-! ### The command line -/

/-- The commands that load the configuration, set one field and save. -/
inductive CliCommand where
  | setAutoBrightness (enabled : Bool)
  | setChargeLimit (limit : Option ℕ)
  | setProfile (profile : Option PowerProfile)
  | setAutoExtremeLevel (level : AutoExtremeLevel)
  | setBrightnessPercent
  | startBackgroundDaemon
  | stopBackgroundDaemon
  deriving DecidableEq, Repr

/-- A manual brightness replaces auto-brightness. -/
def CliCommand.setting : CliCommand → Setting
  | setAutoBrightness enabled => .autoBrightness enabled
  | setChargeLimit limit => .batteryChargeLimit limit
  | setProfile profile => .profile profile
  | setAutoExtremeLevel level => .autoExtremeLevel level
  | setBrightnessPercent => .autoBrightness false
  | startBackgroundDaemon => .autoExtremeEnabled true
  | stopBackgroundDaemon => .autoExtremeEnabled false

/-! ### The dashboard -/

/-- The ceilings the dashboard cycles through. -/
def chargeLimitSteps : List (Option ℕ) :=
  [none, some 55, some 60, some 65, some 70, some 75, some 80, some 85, some 90, some 95, some 100]

/-- `next_charge_limit`. -/
def nextChargeLimit (current : Option ℕ) (forward : Bool) : Option ℕ :=
  let idx := (chargeLimitSteps.findIdx? (· = current)).getD 0
  let next :=
    if forward then (idx + 1) % chargeLimitSteps.length
    else (idx + chargeLimitSteps.length - 1) % chargeLimitSteps.length
  chargeLimitSteps.getD next none

/-- The dashboard actions that set one field of `App.config` and save it. -/
inductive DashboardAction where
  | autoExtremeLevel
  | toggleAutoBrightness
  | adjustBrightness
  | toggleChargeLimit
  | cycleChargeLimit (forward : Bool)
  | chooseProfile (profile : PowerProfile)
  | startDaemon
  | stopBackgroundDaemon
  deriving DecidableEq, Repr

/-- What an action saves, given `App.config`.  A manual brightness saves only when auto-brightness
was on. -/
def DashboardAction.setting (config : Config) : DashboardAction → Option Setting
  | autoExtremeLevel => some (.autoExtremeLevel config.autoExtremeLevel.next)
  | toggleAutoBrightness => some (.autoBrightness !config.autoBrightness)
  | adjustBrightness => if config.autoBrightness then some (.autoBrightness false) else none
  | toggleChargeLimit =>
      some (.batteryChargeLimit (if config.batteryChargeLimit.isSome then none else some 80))
  | cycleChargeLimit forward =>
      some (.batteryChargeLimit (nextChargeLimit config.batteryChargeLimit forward))
  | chooseProfile profile => some (.profile (some profile))
  | startDaemon => some (.autoExtremeEnabled true)
  | stopBackgroundDaemon => some (.autoExtremeEnabled false)

/-! ### Choosing a profile -/

/-- `RealRuntime::set_profile`: the profile is applied by a backend built for the command, then
recorded in the configuration as it is on disk. -/
def RealRuntime.setProfile (host : Host) (s : SysfsRoot) (file : ConfigFile)
    (profile : Option PowerProfile) : SysfsRoot × ConfigFile :=
  let backend := LinuxBackend.withRoot host s.tree
  let s := backend.applyProfile s (profile.getD .normal)
  (s, (Setting.apply file.loadOrDefault (.profile profile)).save)

@[simp] theorem RealRuntime.setProfile_sysfs (host : Host) (s : SysfsRoot) (file : ConfigFile)
    (profile : Option PowerProfile) : (setProfile host s file profile).1
      = (LinuxBackend.withRoot host s.tree).applyProfile s (profile.getD .normal) := rfl

@[simp] theorem RealRuntime.setProfile_file (host : Host) (s : SysfsRoot) (file : ConfigFile)
    (profile : Option PowerProfile) : (setProfile host s file profile).2
      = (Setting.apply file.loadOrDefault (.profile profile)).save := rfl

/-- `confirm_extreme_mode`, `restore` and the Performance row: the background daemon is stopped and
its flag cleared, the profile applied, then recorded in the dashboard's copy. -/
def App.applyProfile (backend : LinuxBackend) (s : SysfsRoot) (config : Config)
    (profile : PowerProfile) : SysfsRoot × ConfigFile :=
  let config := Setting.apply config (.autoExtremeEnabled false)
  let s := backend.applyProfile s profile
  (s, (Setting.apply config (.profile (some profile))).save)

end WattWarden
