import WattWarden.Core.BatteryHealth
import WattWarden.Library.TextSearch
import WattWarden.Platform.Battery

/-!
# The health of a Linux battery

`LinuxBattery::health`: the capacity pair from the charge nodes, else from the energy nodes, else
from `uevent`; the other metrics each from a node of their own.

* `parseUevent` / `ueventGet` — the `KEY=value` lines of `uevent`;
* `capacities` / `ueventCapacities` — the pair with its unit, level by level as in the source;
* `health` — the snapshot.
-/

namespace WattWarden

open Library.FileTree Library.Numerals Library.TextSearch

namespace LinuxBattery

/-- `bat`: a node of the battery. -/
def bat (battery : LinuxBattery) (leaf : String) : Path := supplyNode battery.batteryRel leaf

/-- `parse_uevent`: the bindings in the order they are inserted. -/
def parseUevent (battery : LinuxBattery) (t : Tree) : List (String × String) :=
  (lines [] (SysfsRoot.read t (battery.bat "uevent")).toList).filterMap fun line =>
    (splitOnce '=' line).map fun parts =>
      (trim (String.ofList parts.1), trim (String.ofList parts.2))

/-- `uevent_get`: the binding inserted last, `""` without one. -/
def ueventGet (map : List (String × String)) (key : String) : String :=
  ((map.reverse.find? (·.1 = key)).map (·.2)).getD ""

/-- The pair from `uevent`: the charge keys if one of them is there, else the energy keys. -/
def ueventCapacities (battery : LinuxBattery) (t : Tree) :
    Option ℕ × Option ℕ × Option HealthUnit :=
  let uevent := battery.parseUevent t
  let uFull := ueventGet uevent "POWER_SUPPLY_CHARGE_FULL"
  let uDesign := ueventGet uevent "POWER_SUPPLY_CHARGE_FULL_DESIGN"
  let eFull := ueventGet uevent "POWER_SUPPLY_ENERGY_FULL"
  let eDesign := ueventGet uevent "POWER_SUPPLY_ENERGY_FULL_DESIGN"
  if uFull ≠ "" ∨ uDesign ≠ "" then
    (parseUnsigned (2 ^ 64) uFull, parseUnsigned (2 ^ 64) uDesign, some .chargeUah)
  else if eFull ≠ "" ∨ eDesign ≠ "" then
    (parseUnsigned (2 ^ 64) eFull, parseUnsigned (2 ^ 64) eDesign, some .energyUwh)
  else (none, none, none)

/-- `full`, `design` and `unit`. -/
def capacities (battery : LinuxBattery) (t : Tree) : Option ℕ × Option ℕ × Option HealthUnit :=
  let chargeFull := SysfsRoot.readU64 t (battery.bat "charge_full")
  let chargeDesign := SysfsRoot.readU64 t (battery.bat "charge_full_design")
  let energyFull := SysfsRoot.readU64 t (battery.bat "energy_full")
  let energyDesign := SysfsRoot.readU64 t (battery.bat "energy_full_design")
  if chargeFull.isSome || chargeDesign.isSome then (chargeFull, chargeDesign, some .chargeUah)
  else if energyFull.isSome || energyDesign.isSome then
    (energyFull, energyDesign, some .energyUwh)
  else battery.ueventCapacities t

/-- An identity string, when the node has one. -/
def identity (battery : LinuxBattery) (t : Tree) (leaf : String) : Option String :=
  let text := SysfsRoot.read t (battery.bat leaf)
  if text ≠ "" then some text else none

/-- `health`.  The temperature node is in tenths of a degree; the temperature is exact. -/
def health (battery : LinuxBattery) (t : Tree) : BatteryHealth ℚ :=
  if !battery.discovered then .empty false
  else
    let (full, design, unit) := battery.capacities t
    { present := true
      full := full
      design := design
      unit := unit
      cycleCount := (SysfsRoot.readU64 t (battery.bat "cycle_count")).filter (· < 2 ^ 32)
      tempC := (SysfsRoot.readI64 t (battery.bat "temp")).map fun tenths => (tenths : ℚ) / 10
      model := battery.identity t "model_name"
      manufacturer := battery.identity t "manufacturer"
      serial := battery.identity t "serial_number" }

end LinuxBattery

end WattWarden
