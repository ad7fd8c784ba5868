import WattWarden.Core.Traits
import WattWarden.Platform.Sysfs

/-!
# Battery and mains readings

`LinuxBattery`, the part the daemon and calibration read: which directory the battery is in, its
charge percentage, and whether the machine is charging.
-/

namespace WattWarden

open Library.FileTree Library.Journaling Library.Numerals

def powerSupplyBase : Path := ["sys", "class", "power_supply"]

/-- A node of a power supply. -/
def supplyNode (supply name : String) : Path := powerSupplyBase ++ [supply, name]

/-- The battery: its entry under `powerSupplyBase`, and whether one was found. -/
structure LinuxBattery where
  batteryRel : String
  discovered : Bool
  deriving DecidableEq, Repr

namespace LinuxBattery

/-- Standard names first, then any supply of type `Battery`, then `BAT0` undiscovered. -/
def discover (t : Tree) : LinuxBattery :=
  match ["BAT0", "BAT1", "BAT2", "BATT"].find?
      fun name => t.pathExists (powerSupplyBase ++ [name]) with
  | some name => ⟨name, true⟩
  | none =>
      match (t.names powerSupplyBase).find? fun name =>
          SysfsRoot.read t (supplyNode name "type") = "Battery" with
      | some name => ⟨name, true⟩
      | none => ⟨"BAT0", false⟩

def withRoot (t : Tree) : LinuxBattery := discover t

def batteryPercentage (battery : LinuxBattery) (t : Tree) : ℕ :=
  (clamp 0 100 ((SysfsRoot.readI64 t (supplyNode battery.batteryRel "capacity")).getD 0)).toNat

/-- `is_charging`: an online mains or USB supply, else the battery's own status. -/
def isCharging (battery : LinuxBattery) (t : Tree) : Bool :=
  let plugged := (t.names powerSupplyBase).any fun name =>
    decide (SysfsRoot.read t (supplyNode name "type") ∈ ["Mains", "USB_C", "USB"]) &&
      decide (SysfsRoot.read t (supplyNode name "online") = "1")
  let status := SysfsRoot.read t (supplyNode battery.batteryRel "status")
  plugged || decide (status = "Charging") || decide (status = "Full")

/-- The battery as calibration sees it. -/
def powerSource (battery : LinuxBattery) : PowerSource SysfsRoot where
  batteryPercentage s := .ok (battery.batteryPercentage s.tree)
  isCharging s := .ok (battery.isCharging s.tree)

end LinuxBattery

end WattWarden
