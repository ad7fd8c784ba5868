import Mathlib.Data.Nat.Notation

/-!
# Profiles, levels and the persisted configuration

`PowerProfile`, `AutoExtremeLevel` and `Config` with its nine fields and their defaults.  The
persisted file is kept as the `Config` it decodes to; `ConfigFile.loadOrDefault` is
`Config::load_or_default`, which answers a missing or undecodable file with the default.
-/

namespace WattWarden

inductive PowerProfile where
  | normal
  | performance
  | extreme
  | autoExtreme
  deriving DecidableEq, Repr

inductive AutoExtremeLevel where
  | low
  | medium
  | high
  deriving DecidableEq, Repr

namespace AutoExtremeLevel

/-- `AutoExtremeLevel::next`: the order the dashboard cycles through. -/
def next : AutoExtremeLevel → AutoExtremeLevel
  | low => medium
  | medium => high
  | high => low

end AutoExtremeLevel

/-- The persisted settings. -/
structure Config where
  autoExtremeEnabled : Bool
  autoExtremeLevel : AutoExtremeLevel
  autoBrightness : Bool
  profile : Option PowerProfile
  batteryChargeLimit : Option ℕ
  batteryHealthLog : Bool
  batteryTempWarnC : Option ℕ
  terminalBrightness : ℕ
  guiBrightness : ℕ
  deriving DecidableEq, Repr

/-- `Config::default`: everything opt-in is off. -/
def Config.default : Config where
  autoExtremeEnabled := false
  autoExtremeLevel := .high
  autoBrightness := false
  profile := none
  batteryChargeLimit := none
  batteryHealthLog := false
  batteryTempWarnC := none
  terminalBrightness := 25
  guiBrightness := 65

/-- What the configuration file holds: nothing readable, text that does not decode, or a
configuration. -/
inductive ConfigFile where
  | missing
  | undecodable
  | holds (config : Config)
  deriving DecidableEq, Repr

/-- `Config::load_or_default`. -/
def ConfigFile.loadOrDefault : ConfigFile → Config
  | missing => Config.default
  | undecodable => Config.default
  | holds config => config

/-- `Config::save` with its write landing. -/
def Config.save (config : Config) : ConfigFile := .holds config

@[simp] theorem loadOrDefault_save (config : Config) : config.save.loadOrDefault = config := rfl

end WattWarden
