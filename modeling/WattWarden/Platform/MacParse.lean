import WattWarden.Core.BatteryHealth
import WattWarden.Library.Doubles

/-!
# The macOS text parsers

The parsers of `pmset` and `ioreg` output.  The percentage looks at a window of bytes, so it is given
on the bytes of the text; the others compare ASCII characters only and are given on its characters.
Numbers are read and computed in double precision.

* `macBatteryPercent` — the digits among the three bytes before the first `%`;
* `scanRemaining` / `macTimeRemaining` — the scanner for `H:MM remaining`, which ends because every
  round consumes a character;
* `macNumberOpt` / `macStringAfter` — the number and the quoted text after a key;
* `macHealth` — the snapshot; `none` when the conversion to micro units overflows.
-/

namespace WattWarden

open Library.Binary64 Library.Numerals Library.TextSearch

/-! ### The percentage -/

/-- `as_bytes`. -/
def bytes (text : String) : List UInt8 := text.toByteArray.data.toList

def isAsciiDigit (b : UInt8) : Bool := 48 ≤ b && b ≤ 57

/-- `b as char`. -/
def byteChar (b : UInt8) : Char := Char.ofNat b.toNat

def percentSign : UInt8 := 37

/-- `mac_battery_percent`. -/
def macBatteryPercent (pmsetBatt : String) : ℕ :=
  match (bytes pmsetBatt).findIdx? (· = percentSign) with
  | some idx =>
      let start := idx - 3
      let digits := ((((bytes pmsetBatt).take idx).drop start).filter isAsciiDigit).map byteChar
      match parseUnsigned (2 ^ 32) (String.ofList digits) with
      | some v => min v 100
      | none => 100
  | none => 100

/-! ### The remaining time -/

def remaining : List Char := " remaining".toList

/-- The scanner of `mac_time_remaining`: a run of digits, a colon and a run of digits before
` remaining`.  What is consumed while a match is tried is not looked at again. -/
def scanRemaining : List Char → Option (List Char)
  | [] => none
  | c :: cs =>
      if c.isDigit then
        let hours := c :: cs.takeWhile Char.isDigit
        let rest := cs.dropWhile Char.isDigit
        if rest.head? = some ':' then
          let minutes := rest.tail.takeWhile Char.isDigit
          let rest := rest.tail.dropWhile Char.isDigit
          if minutes ≠ [] ∧ remaining <+: rest then some (hours ++ ':' :: minutes)
          else scanRemaining rest
        else scanRemaining rest
      else scanRemaining cs
  termination_by text => text.length
  decreasing_by
    · have hhours := (List.dropWhile_sublist Char.isDigit (l := cs)).length_le
      have hminutes :=
        (List.dropWhile_sublist Char.isDigit (l := (cs.dropWhile Char.isDigit).tail)).length_le
      simp only [List.length_tail, List.length_cons] at hminutes ⊢
      omega
    · have hhours := (List.dropWhile_sublist Char.isDigit (l := cs)).length_le
      simp only [List.length_cons]
      omega
    · simp

/-- `mac_time_remaining`. -/
def macTimeRemaining (pmsetBatt : String) (charging : Bool) : String :=
  match scanRemaining pmsetBatt.toList with
  | some token => String.ofList token
  | none => if charging then "Charging" else "Calculating..."

/-! ### The health of the battery -/

/-- What stands between a key and its number. -/
def isSeparator (c : Char) : Bool := c = ':' || c = ' '

/-- The numeral a text begins with: an optional sign, digits, and a fraction when there is a digit
after the dot. -/
def numeralAt (cs : List Char) : Option (List Char) :=
  let sign := if cs.head? = some '-' then ['-'] else []
  let unsigned := cs.drop sign.length
  let whole := unsigned.takeWhile Char.isDigit
  if whole = [] then none
  else
    let rest := unsigned.dropWhile Char.isDigit
    let frac := if rest.head? = some '.' then rest.tail.takeWhile Char.isDigit else []
    some (sign ++ whole ++ if frac = [] then [] else '.' :: frac)

/-- `mac_number_opt`: at least one separator between the label and the number. -/
def macNumberOpt (out label : List Char) : Option Double := do
  let rest ← afterFirst label out
  if rest.takeWhile isSeparator = [] then none
  else
    let num ← numeralAt (rest.dropWhile isSeparator)
    Double.parse (String.ofList num)

/-- `mac_number_after`. -/
def macNumberAfter (out label : List Char) : Double := (macNumberOpt out label).getD 0

/-- `mac_string_after`: between the next two quotes after the label. -/
def macStringAfter (out label : List Char) : Option String := do
  let rest ← afterFirst label out
  let (_, rest) ← splitOnce '"' rest
  let (value, _) ← splitOnce '"' rest
  if value = [] then none else some (String.ofList value)

def rawCapacityKey : List Char := "\"AppleRawMaxCapacity\" =".toList

def maxCapacityKey : List Char := "\"MaxCapacity\" =".toList

def designCapacityKey : List Char := "\"DesignCapacity\" =".toList

def cycleCountKey : List Char := "\"CycleCount\" =".toList

def temperatureKey : List Char := "\"Temperature\" =".toList

def deviceNameKey : List Char := "\"DeviceName\" =".toList

def serialKey : List Char := "\"BatterySerialNumber\" =".toList

/-- A product at `u64`; `none` when it overflows. -/
def mulU64 (a b : ℕ) : Option ℕ := if a * b < 2 ^ 64 then some (a * b) else none

/-- The closure `micro`; `none` when the product overflows. -/
def micro (out key : List Char) : Option (Option ℕ) :=
  match (macNumberOpt out key).filter (Double.lt 0) with
  | some v => (mulU64 (v.toUnsigned (2 ^ 64)) 1000).map some
  | none => some none

/-- `mac_health`. -/
def macHealth (ioregOutput : String) : Option (BatteryHealth Double) := do
  let out := ioregOutput.toList
  let raw ← micro out rawCapacityKey
  let full ← if raw.isSome then some raw else micro out maxCapacityKey
  let design ← micro out designCapacityKey
  let cycleCount :=
    if (afterFirst cycleCountKey out).isSome then
      some ((macNumberAfter out cycleCountKey).toUnsigned (2 ^ 32))
    else none
  return {
    present := full.isSome || design.isSome || cycleCount.isSome
    full := full
    design := design
    unit := if full.isSome || design.isSome then some .chargeUah else none
    cycleCount := cycleCount
    tempC := (macNumberOpt out temperatureKey).map fun t => t.div (Double.ofRat 100)
    model := macStringAfter out deviceNameKey
    manufacturer := none
    serial := macStringAfter out serialKey }

end WattWarden
