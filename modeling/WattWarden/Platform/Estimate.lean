import WattWarden.Daemon.HealthLog
import WattWarden.Library.Doubles
import WattWarden.Platform.Health

/-!
# What is left in the battery

`LinuxBattery::consumption_watts` and `time_remaining`: each tries files and the lines of `uevent`,
energies in µWh and µW or charges in µAh, µA and µV, in an order of its own.  The numbers are read and
computed in double precision.

* `consumptionWatts` — the power drawn;
* `formatHours` — hours as hours and minutes;
* `timeRemaining` — the time the charge lasts.
-/

namespace WattWarden

open Library.Binary64 Library.FileTree Library.Numerals

/-- `parse::<f64>().unwrap_or(0.0)` -/
def floatOrZero (text : String) : Double := (Double.parse text).getD 0

/-- `as i64` -/
def asI64 (x : Double) : ℤ := x.toSigned (2 ^ 63)

def formatHours (hours : Double) : String :=
  let h := asI64 hours
  let m := asI64 ((hours.sub (.ofRat h)).mul (.ofRat 60))
  toString h ++ "h " ++ zeroPadded 2 m ++ "m"

def million : Double := .ofRat 1000000

def trillion : Double := .ofRat 1000000000000

namespace LinuxBattery

variable (battery : LinuxBattery) (t : Tree)

/-- `current * voltage` -/
def productWatts (current voltage : String) : Double :=
  ((floatOrZero current).mul (floatOrZero voltage)).abs.div trillion

/-- The power, or else current and voltage; an empty text does not parse. -/
def wattsOr (power current voltage : String) (other : Double) : Double :=
  match Double.parse power with
  | some p => p.abs.div million
  | none => if current ≠ "" ∧ voltage ≠ "" then productWatts current voltage else other

/-- `consumption_watts`: from files, and then from `uevent`. -/
def consumptionWatts : Double :=
  let read := fun leaf => SysfsRoot.read t (battery.bat leaf)
  let uevent := ueventGet (battery.parseUevent t)
  wattsOr (read "power_now") (read "current_now") (read "voltage_now")
    (wattsOr (uevent "POWER_SUPPLY_POWER_NOW") (uevent "POWER_SUPPLY_CURRENT_NOW")
      (uevent "POWER_SUPPLY_VOLTAGE_NOW") 0)

def calculating : String := "Calculating..."

/-- `energy / power`, if any power is drawn. -/
def timeAt (energy power : Double) : String :=
  if Double.lt 0 power then formatHours (energy.div power) else calculating

/-- A charge, the current and the voltage. -/
def timeOfCharge (texts : List String) : String :=
  if "" ∈ texts then calculating
  else
    let e := floatOrZero (texts.getD 0 "")
    let c := floatOrZero (texts.getD 1 "")
    let v := floatOrZero (texts.getD 2 "")
    timeAt (e.mul (v.div million)) (c.abs.mul (v.div million))

/-- The charge in `uevent`, or else in files. -/
def chargeTime : String :=
  let uevent := battery.parseUevent t
  let fromEvent := ["POWER_SUPPLY_CHARGE_NOW", "POWER_SUPPLY_CURRENT_NOW",
    "POWER_SUPPLY_VOLTAGE_NOW"].map (ueventGet uevent)
  if "" ∈ fromEvent then
    timeOfCharge (["charge_now", "current_now", "voltage_now"].map fun leaf =>
      SysfsRoot.read t (battery.bat leaf))
  else timeOfCharge fromEvent

/-- An energy and the power, if both texts are there. -/
def timeOfEnergyOr (energy power : String) (other : String) : String :=
  if energy ≠ "" ∧ power ≠ "" then timeAt (floatOrZero energy) (floatOrZero power).abs else other

/-- `time_remaining` -/
def timeRemaining : String :=
  if battery.isCharging t then "Charging"
  else
    let read := fun leaf => SysfsRoot.read t (battery.bat leaf)
    let uevent := ueventGet (battery.parseUevent t)
    timeOfEnergyOr (read "energy_now") (read "power_now")
      (timeOfEnergyOr (uevent "POWER_SUPPLY_ENERGY_NOW") (uevent "POWER_SUPPLY_POWER_NOW")
        (battery.chargeTime t))

end LinuxBattery

/-- A tenth is not a double: 51 Wh at 10 W. -/
example : formatHours ((floatOrZero "51000000").div (floatOrZero "1e7")) = "5h 05m" := by
  decide +kernel

end WattWarden
