import WattWarden.Platform.Sysfs

/-!
# Everything else the profiles and the ladder touch

ASPM policy, panel backlight, keyboard light and kernel tweaks.  None of them has a discovered
range; a setter writes to nodes of its own subsystem only.

* `LinuxAspm` / `LinuxBacklight` / `LinuxPeripherals` / `LinuxSystemTweaks` setters — translated
  from the source; the radio and Wi-Fi tools they call besides have no node in the tree;
* `Brightnessctl` — the external brightness tool: it sets existing backlight devices;
* `AspmWrite`, `BacklightWrite`, `KbdWrite`, `TweakWrite` — every write each of them can make, and
  the `_extends` lemmas that say so.
-/

namespace WattWarden

open Library.FileTree Library.Journaling Library.Numerals

/-! ### PCIe ASPM -/

def aspmPolicyPath : Path := ["sys", "module", "pcie_aspm", "parameters", "policy"]

/-- The ASPM controller; it exists when the policy node does. -/
structure LinuxAspm where
  deriving DecidableEq, Repr

/-- `trim_matches` of square brackets. -/
def trimBrackets (s : String) : String :=
  let isBracket := fun c : Char => c = '[' || c = ']'
  String.ofList ((s.toList.dropWhile isBracket).reverse.dropWhile isBracket).reverse

/-- The advertised policies, brackets stripped. -/
def availablePolicies (t : Tree) : List String :=
  ((splitWhitespace (SysfsRoot.read t aspmPolicyPath)).map trimBrackets).filter (· ≠ "")

/-- `resolve_policy`. -/
def resolvePolicy (t : Tree) (policy : String) : Option String :=
  let available := availablePolicies t
  if available.isEmpty ∨ policy ∈ available then some policy
  else available.find? (· = "default")

/-- The default is found where it is listed. -/
theorem find?_default (policies : List String) :
    policies.find? (· = "default") = if "default" ∈ policies then some "default" else none := by
  cases hcase : policies.find? (· = "default") with
  | none =>
    rw [if_neg]
    intro hmem
    simpa using List.find?_eq_none.mp hcase _ hmem
  | some p =>
    obtain rfl : p = "default" := by simpa using List.find?_some hcase
    rw [if_pos (List.mem_of_find?_eq_some hcase)]

namespace LinuxAspm

def withRoot (t : Tree) : Option LinuxAspm :=
  if t.pathExists aspmPolicyPath then some {} else none

def setAspmPolicy (s : SysfsRoot) (policy : String) : SysfsRoot :=
  match resolvePolicy s.tree policy with
  | none => s
  | some policy => SysfsRoot.writeBestEffort s aspmPolicyPath policy

end LinuxAspm

/-! ### Panel backlight -/

def backlightBase : Path := ["sys", "class", "backlight"]

/-- A node of a backlight device. -/
def backlightNode (device name : String) : Path := backlightBase ++ [device, name]

/-- The external `brightnessctl`: which backlight devices `set N%` sets and to what, and what
`-m` prints. -/
structure Brightnessctl where
  set : Tree → ℕ → List (String × String)
  machineReadable : Tree → String

/-- A machine without the tool. -/
def Brightnessctl.absent : Brightnessctl := ⟨fun _ _ => [], fun _ => ""⟩

/-- What `brightnessctl set N%` does to the tree: existing devices get a new value. -/
def Brightnessctl.run (tool : Brightnessctl) (s : SysfsRoot) (percent : ℕ) : SysfsRoot :=
  (tool.set s.tree percent).foldl (fun s e =>
    if s.tree.isFile (backlightNode e.1 "brightness") then
      s.write .brightnessctl (backlightNode e.1 "brightness") e.2
    else s) s

/-- The backlight controller; it exists when there is a device. -/
structure LinuxBacklight where
  deriving DecidableEq, Repr

namespace LinuxBacklight

def withRoot (t : Tree) : Option LinuxBacklight :=
  if (t.names backlightBase).isEmpty then none else some {}

/-- Sorted device names. -/
def devices (t : Tree) : List String := t.names backlightBase

def maxBrightness (t : Tree) (device : String) : ℤ :=
  (SysfsRoot.readI64 t (backlightNode device "max_brightness")).getD 0

/-- The fallback of `brightness_percent`: the fourth field of `brightnessctl -m`. -/
def fallbackPercent (out : String) : ℕ :=
  match out.splitOn "," with
  | _ :: _ :: _ :: field :: _ =>
      let digits := trim (String.ofList (field.toList.reverse.dropWhile (· = '%')).reverse)
      match parseSigned (2 ^ 63) digits with
      | some v => (clamp 0 255 v).toNat
      | none => 100
  | _ => 100

/-- `brightness_percent`: the first device with a maximum decides.  The product wraps around, as
in a release build. -/
def brightnessPercent (tool : Brightnessctl) (t : Tree) : ℕ :=
  match (devices t).find? fun device => 0 < maxBrightness t device with
  | some device =>
      let cur := (SysfsRoot.readI64 t (backlightNode device "brightness")).getD 0
      (clamp 0 255 ((wrapI64 (cur * 100)).tdiv (maxBrightness t device))).toNat
  | none =>
      let out := trim (tool.machineReadable t)
      if out = "" then 100 else fallbackPercent out

/-- The loop body of `set_brightness_percent`. -/
def setDevice (p : ℕ) (s : SysfsRoot) (device : String) : SysfsRoot :=
  let max := maxBrightness s.tree device
  if 0 < max then
    let target := (wrapI64 (p * max)).tdiv 100
    SysfsRoot.writeBestEffort s (backlightNode device "brightness") (toString target)
  else s

/-- `set_brightness_percent`: every device with a maximum, then the external tool. -/
def setBrightnessPercent (tool : Brightnessctl) (s : SysfsRoot) (percent : ℕ) : SysfsRoot :=
  let p := clamp 1 100 percent
  tool.run ((devices s.tree).foldl (setDevice p) s) p

end LinuxBacklight

/-! ### Keyboard light -/

def ledsBase : Path := ["sys", "class", "leds"]

def ledNode (led name : String) : Path := ledsBase ++ [led, name]

/-- Every `*kbd_backlight` entry, in sorted order. -/
def kbdLeds (t : Tree) : List String :=
  (t.names ledsBase).filter fun name => "kbd_backlight".toList.isSuffixOf name.toList

/-- `kbd_backlight`: the first light with a `brightness` node decides. -/
def kbdBacklight (t : Tree) : Bool :=
  match (kbdLeds t).find? fun led => t.pathExists (ledNode led "brightness") with
  | some led => SysfsRoot.read t (ledNode led "brightness") ≠ "0"
  | none => false

/-- `set_kbd_backlight`: on writes the maximum verbatim, off writes 0. -/
def setKbdBacklight (s : SysfsRoot) (enabled : Bool) : SysfsRoot :=
  (kbdLeds s.tree).foldl (fun s led =>
    let value := if enabled then SysfsRoot.read s.tree (ledNode led "max_brightness") else "0"
    SysfsRoot.writeBestEffort s (ledNode led "brightness") value) s

/-! ### Kernel tweaks -/

def iwlwifiPowerSave : Path := ["sys", "module", "iwlwifi", "parameters", "power_save"]

def sndHdaPowerSave : Path := ["sys", "module", "snd_hda_intel", "parameters", "power_save"]

def sndHdaPowerSaveController : Path :=
  ["sys", "module", "snd_hda_intel", "parameters", "power_save_controller"]

def usbDevices : Path := ["sys", "bus", "usb", "devices"]

def pciDevices : Path := ["sys", "bus", "pci", "devices"]

def nmiWatchdogPath : Path := ["proc", "sys", "kernel", "nmi_watchdog"]

def dirtyWriteback : Path := ["proc", "sys", "vm", "dirty_writeback_centisecs"]

namespace Tweaks

/-- `write_node`: only a node the kernel exposes is touched. -/
def writeNode (s : SysfsRoot) (p : Path) (v : String) : SysfsRoot :=
  if s.tree.pathExists p then SysfsRoot.writeBestEffort s p v else s

/-- `power/control` of every USB and PCI device. -/
def controlNodes (t : Tree) : List Path :=
  [usbDevices, pciDevices].flatMap fun base =>
    (t.names base).map fun device => base ++ [device, "power", "control"]

/-- `wifi_power_save`: `iw` said `on` for some interface, else the driver parameter. -/
def wifiPowerSave (iwOn : Bool) (t : Tree) : Bool :=
  iwOn || SysfsRoot.read t iwlwifiPowerSave = "Y"

/-- `audio_power_save`: a missing parameter reads as enabled. -/
def audioPowerSave (t : Tree) : Bool := SysfsRoot.read t sndHdaPowerSave ≠ "0"

/-- `autosuspend`: some USB device is on `auto`. -/
def autosuspend (t : Tree) : Bool :=
  (t.names usbDevices).any fun device =>
    SysfsRoot.read t (usbDevices ++ [device, "power", "control"]) = "auto"

def nmiWatchdog (t : Tree) : Bool := SysfsRoot.read t nmiWatchdogPath = "1"

def vmWritebackCentisecs (t : Tree) : ℤ := (SysfsRoot.readI64 t dirtyWriteback).getD 0

def setWifiPowerSave (s : SysfsRoot) (enabled : Bool) : SysfsRoot :=
  writeNode s iwlwifiPowerSave (if enabled then "Y" else "N")

def setAudioPowerSave (s : SysfsRoot) (enabled : Bool) : SysfsRoot :=
  writeNode (writeNode s sndHdaPowerSave (if enabled then "1" else "0"))
    sndHdaPowerSaveController (if enabled then "Y" else "N")

def setAutosuspend (s : SysfsRoot) (enabled : Bool) : SysfsRoot :=
  (controlNodes s.tree).foldl (fun s p => writeNode s p (if enabled then "auto" else "on")) s

def setNmiWatchdog (s : SysfsRoot) (enabled : Bool) : SysfsRoot :=
  writeNode s nmiWatchdogPath (if enabled then "1" else "0")

/-- Seconds to centiseconds, saturating in `u32`, inside `100..=6000`. -/
def setVmWritebackSeconds (s : SysfsRoot) (seconds : ℕ) : SysfsRoot :=
  writeNode s dirtyWriteback (decimal (clamp 100 6000 (min (seconds * 100) (2 ^ 32 - 1))))

/-- `set_vm_writeback_centisecs`: the value as it is. -/
def setVmWritebackCentisecs (s : SysfsRoot) (centisecs : ℤ) : SysfsRoot :=
  writeNode s dirtyWriteback (toString centisecs)

end Tweaks

/-! ### What they can write -/

inductive AspmWrite : Write Actor → Prop
  | policy {v : String} : AspmWrite ⟨.wattwarden, aspmPolicyPath, v⟩

inductive BacklightWrite : Write Actor → Prop
  | brightness {device v : String} :
      BacklightWrite ⟨.wattwarden, backlightNode device "brightness", v⟩
  | tool {device v : String} :
      BacklightWrite ⟨.brightnessctl, backlightNode device "brightness", v⟩

inductive KbdWrite : Write Actor → Prop
  | brightness {led v : String} : KbdWrite ⟨.wattwarden, ledNode led "brightness", v⟩

inductive TweakWrite : Write Actor → Prop
  | wifi {v : String} : TweakWrite ⟨.wattwarden, iwlwifiPowerSave, v⟩
  | audio {v : String} : TweakWrite ⟨.wattwarden, sndHdaPowerSave, v⟩
  | audioController {v : String} : TweakWrite ⟨.wattwarden, sndHdaPowerSaveController, v⟩
  | usb {device v : String} :
      TweakWrite ⟨.wattwarden, usbDevices ++ [device, "power", "control"], v⟩
  | pci {device v : String} :
      TweakWrite ⟨.wattwarden, pciDevices ++ [device, "power", "control"], v⟩
  | watchdog {v : String} : TweakWrite ⟨.wattwarden, nmiWatchdogPath, v⟩
  | writeback {v : String} : TweakWrite ⟨.wattwarden, dirtyWriteback, v⟩

section Extends

variable {P : Write Actor → Prop} {s₀ s : SysfsRoot}

theorem setAspmPolicy_extends (hP : ∀ w, AspmWrite w → P w) (h : Extends P s₀ s)
    (policy : String) : Extends P s₀ (LinuxAspm.setAspmPolicy s policy) := by
  rw [LinuxAspm.setAspmPolicy]
  split
  · exact h
  · exact h.write (hP _ .policy)

theorem setBrightnessPercent_extends (hP : ∀ w, BacklightWrite w → P w) (h : Extends P s₀ s)
    (tool : Brightnessctl) (percent : ℕ) :
    Extends P s₀ (LinuxBacklight.setBrightnessPercent tool s percent) := by
  have hloop : ∀ p, Extends P s₀
      ((LinuxBacklight.devices s.tree).foldl (LinuxBacklight.setDevice p) s) := by
    intro p
    apply h.foldl
    intro device _ s hs
    rw [LinuxBacklight.setDevice]
    show Extends P s₀ (if _ then _ else _)
    split
    · exact hs.write (hP _ .brightness)
    · exact hs
  apply (hloop _).foldl
  intro e _ s hs
  split
  · exact hs.write (hP _ .tool)
  · exact hs

theorem setKbdBacklight_extends (hP : ∀ w, KbdWrite w → P w) (h : Extends P s₀ s)
    (enabled : Bool) : Extends P s₀ (setKbdBacklight s enabled) :=
  h.foldl fun _ _ _ hs => hs.write (hP _ .brightness)

theorem writeNode_extends {p : Path} {v : String} (hP : P ⟨.wattwarden, p, v⟩)
    (h : Extends P s₀ s) : Extends P s₀ (Tweaks.writeNode s p v) := by
  rw [Tweaks.writeNode]
  split
  · exact h.write hP
  · exact h

variable (hP : ∀ w, TweakWrite w → P w)

include hP

theorem setWifiPowerSave_extends (h : Extends P s₀ s) (enabled : Bool) :
    Extends P s₀ (Tweaks.setWifiPowerSave s enabled) :=
  writeNode_extends (hP _ .wifi) h

theorem setAudioPowerSave_extends (h : Extends P s₀ s) (enabled : Bool) :
    Extends P s₀ (Tweaks.setAudioPowerSave s enabled) :=
  writeNode_extends (hP _ .audioController) (writeNode_extends (hP _ .audio) h)

theorem setAutosuspend_extends (h : Extends P s₀ s) (enabled : Bool) :
    Extends P s₀ (Tweaks.setAutosuspend s enabled) := by
  apply h.foldl
  intro p hp s hs
  simp only [Tweaks.controlNodes, List.mem_flatMap, List.mem_cons, List.not_mem_nil, or_false,
    List.mem_map] at hp
  obtain ⟨base, rfl | rfl, device, -, rfl⟩ := hp
  · exact writeNode_extends (hP _ .usb) hs
  · exact writeNode_extends (hP _ .pci) hs

theorem setNmiWatchdog_extends (h : Extends P s₀ s) (enabled : Bool) :
    Extends P s₀ (Tweaks.setNmiWatchdog s enabled) :=
  writeNode_extends (hP _ .watchdog) h

theorem setVmWritebackSeconds_extends (h : Extends P s₀ s) (seconds : ℕ) :
    Extends P s₀ (Tweaks.setVmWritebackSeconds s seconds) :=
  writeNode_extends (hP _ .writeback) h

end Extends

end WattWarden
