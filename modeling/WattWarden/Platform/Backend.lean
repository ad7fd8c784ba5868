import WattWarden.Core.Config
import WattWarden.Library.FloatLike
import WattWarden.Platform.Cpu
import WattWarden.Platform.Gpu
import WattWarden.Platform.Peripherals
import WattWarden.Platform.Rapl
import WattWarden.Platform.Threshold

/-!
# The Linux backend

`LinuxBackend` bundles the controllers discovered on one tree, and `apply_profile` drives them.

* `LinuxBackend.withRoot` / `applyProfile` / `loadAverage` — translated from the source;
* `HardwareWrite` — writes to cores, frequencies, turbo, EPP, governor, RAPL and GPU;
* `PeripheralWrite` — writes to ASPM, keyboard light and kernel tweaks;
* `ProfileWrite` — what a profile can write: the two above and the panel backlight;
* `applyProfile_extends` — **PROVED**: a profile writes nothing else, whatever the profile.
-/

namespace WattWarden

open Library.FileTree Library.Journaling Library.Floats Library.Numerals

/-- What the backend takes from the running machine besides the tree. -/
structure Host where
  availableParallelism : ℕ
  parallelism_pos : 0 < availableParallelism
  brightnessctl : Brightnessctl

/-- One CPU, no `brightnessctl`. -/
def Host.plain : Host where
  availableParallelism := 1
  parallelism_pos := by decide
  brightnessctl := .absent

structure LinuxBackend where
  battery : LinuxBattery
  cpu : LinuxCpuGovernor
  rapl : Option LinuxRapl
  gpu : Option LinuxGpu
  aspm : Option LinuxAspm
  backlight : Option LinuxBacklight
  brightnessctl : Brightnessctl

/-- The values a profile drives the controllers to. -/
structure ProfileValues where
  cores : LinuxCpuGovernor → ℕ
  /-- Which end of a discovered range is applied. -/
  pick : ℕ × ℕ → ℕ
  turbo : Bool
  epp : String
  aspm : String
  brightness : ℕ
  kbdOff : Bool
  powerSave : Bool
  watchdog : Bool
  writebackSeconds : ℕ

namespace LinuxBackend

def withRoot (host : Host) (t : Tree) : LinuxBackend where
  battery := LinuxBattery.withRoot t
  cpu := LinuxCpuGovernor.withRoot t host.availableParallelism host.parallelism_pos
  rapl := LinuxRapl.withRoot t
  gpu := LinuxGpu.withRoot t
  aspm := LinuxAspm.withRoot t
  backlight := LinuxBacklight.withRoot t
  brightnessctl := host.brightnessctl

/-- `load_average`: the first word of `proc/loadavg`, the idle step when it does not parse. -/
def loadAverage (F : Type) [FloatLike F] (t : Tree) : F :=
  (((splitWhitespace (SysfsRoot.read t loadavgPath)).head?).bind FloatLike.parse).getD ((0 : ℕ) : F)

/-- The cores, the frequency limit and turbo of a profile. -/
def applyCpuLimits (b : LinuxBackend) (v : ProfileValues) (s : SysfsRoot) : SysfsRoot :=
  let s := b.cpu.setOnlineCores s (v.cores b.cpu)
  let s := match b.cpu.discoveredFreqBounds s.tree with
    | some bounds => b.cpu.setFreqLimit s (v.pick bounds)
    | none => s
  LinuxCpuGovernor.setTurboEnabled s v.turbo

/-- The CPU part of a profile. -/
def applyCpu (b : LinuxBackend) (v : ProfileValues) (s : SysfsRoot) : SysfsRoot :=
  b.cpu.setEnergyPerformancePreference (applyCpuLimits b v s) v.epp

/-- The RAPL part of a profile. -/
def applyRapl (b : LinuxBackend) (v : ProfileValues) (s : SysfsRoot) : SysfsRoot :=
  match b.rapl with
  | none => s
  | some rapl =>
      let s := match rapl.pl1BoundsWatts s.tree with
        | some bounds => rapl.setPl1Watts s (v.pick bounds)
        | none => s
      match rapl.pl2BoundsWatts s.tree with
      | some bounds => rapl.setPl2Watts s (v.pick bounds)
      | none => s

/-- The GPU part of a profile. -/
def applyGpu (b : LinuxBackend) (v : ProfileValues) (s : SysfsRoot) : SysfsRoot :=
  match b.gpu with
  | none => s
  | some gpu =>
      match gpu.discoveredGpuBounds s.tree with
      | some bounds => gpu.setGpuFreq s (v.pick bounds)
      | none => s

/-- The rest of a profile. -/
def applyRest (b : LinuxBackend) (v : ProfileValues) (s : SysfsRoot) : SysfsRoot :=
  let s := if b.aspm.isSome then LinuxAspm.setAspmPolicy s v.aspm else s
  let s := if b.backlight.isSome then
    LinuxBacklight.setBrightnessPercent b.brightnessctl s v.brightness else s
  let s := if v.kbdOff then setKbdBacklight s false else s
  let s := Tweaks.setWifiPowerSave s v.powerSave
  let s := Tweaks.setAudioPowerSave s v.powerSave
  let s := Tweaks.setAutosuspend s v.powerSave
  let s := Tweaks.setNmiWatchdog s v.watchdog
  Tweaks.setVmWritebackSeconds s v.writebackSeconds

def applyValues (b : LinuxBackend) (v : ProfileValues) (s : SysfsRoot) : SysfsRoot :=
  applyRest b v (applyGpu b v (applyRapl b v (applyCpu b v s)))

/-- The values of `PowerProfile::Performance`. -/
def performanceValues : ProfileValues where
  cores cpu := cpu.numCpus
  pick := Prod.snd
  turbo := true
  epp := "performance"
  aspm := "performance"
  brightness := 100
  kbdOff := false
  powerSave := false
  watchdog := true
  writebackSeconds := 5

/-- The values of `PowerProfile::Extreme`. -/
def extremeValues : ProfileValues where
  cores cpu := min 2 cpu.numCpus
  pick := Prod.fst
  turbo := false
  epp := "power"
  aspm := "powersave"
  brightness := 10
  kbdOff := true
  powerSave := true
  watchdog := false
  writebackSeconds := 60

/-- The values of `PowerProfile::Normal`. -/
def normalValues : ProfileValues where
  cores cpu := cpu.numCpus
  pick := Prod.snd
  turbo := true
  epp := "default"
  aspm := "default"
  brightness := 100
  kbdOff := false
  powerSave := false
  watchdog := true
  writebackSeconds := 5

/-- `apply_profile`.  It always returns `Ok`; `AutoExtreme` only sets the EPP. -/
def applyProfile (b : LinuxBackend) (s : SysfsRoot) : PowerProfile → SysfsRoot
  | .performance => b.applyValues performanceValues s
  | .extreme => b.applyValues extremeValues s
  | .normal => b.applyValues normalValues s
  | .autoExtreme => b.cpu.setEnergyPerformancePreference s "balance_power"

end LinuxBackend

/-! ### What the backend can write -/

/-- Writes to the nodes that carry a profile or a ladder step. -/
inductive HardwareWrite (b : LinuxBackend) (t : Tree) (w : Write Actor) : Prop
  | cpu : CpuWrite b.cpu t w → HardwareWrite b t w
  | rapl {rapl : LinuxRapl} : b.rapl = some rapl → RaplWrite rapl t w → HardwareWrite b t w
  | gpu {gpu : LinuxGpu} : b.gpu = some gpu → GpuWrite gpu t w → HardwareWrite b t w

/-- Writes to peripherals other than the panel. -/
inductive PeripheralWrite (w : Write Actor) : Prop
  | aspm : AspmWrite w → PeripheralWrite w
  | kbd : KbdWrite w → PeripheralWrite w
  | tweak : TweakWrite w → PeripheralWrite w

/-- Everything a profile can write. -/
inductive ProfileWrite (b : LinuxBackend) (t : Tree) (w : Write Actor) : Prop
  | hardware : HardwareWrite b t w → ProfileWrite b t w
  | peripheral : PeripheralWrite w → ProfileWrite b t w
  | backlight : BacklightWrite w → ProfileWrite b t w

/-- The subsystems that carry a profile or a ladder step. -/
def IsHardware (p : Path) : Prop := subsystem p ∈ [Subsystem.cpu, .powercap, .drm]

instance (p : Path) : Decidable (IsHardware p) := inferInstanceAs (Decidable (_ ∈ _))

/-- Which controller a hardware write comes from, with the subsystem it writes in. -/
theorem HardwareWrite.cases_subsystem {b : LinuxBackend} {t : Tree} {w : Write Actor}
    (h : HardwareWrite b t w) :
    (subsystem w.path = .cpu ∧ CpuWrite b.cpu t w) ∨
    (subsystem w.path = .powercap ∧ ∃ rapl, b.rapl = some rapl ∧ RaplWrite rapl t w) ∨
    (subsystem w.path = .drm ∧ ∃ gpu, b.gpu = some gpu ∧ GpuWrite gpu t w) := by
  rcases h with h | ⟨hrapl, h⟩ | ⟨hgpu, h⟩
  · exact .inl ⟨by cases h <;> rfl, h⟩
  · exact .inr (.inl ⟨by cases h; rfl, _, hrapl, h⟩)
  · exact .inr (.inr ⟨by cases h <;> exact subsystem_gpuNode _ _, _, hgpu, h⟩)

theorem HardwareWrite.isHardware {b : LinuxBackend} {t : Tree} {w : Write Actor}
    (h : HardwareWrite b t w) : IsHardware w.path := by
  rcases h.cases_subsystem with ⟨hsub, -⟩ | ⟨hsub, -⟩ | ⟨hsub, -⟩ <;> simp [IsHardware, hsub]

theorem HardwareWrite.not_isRange {b : LinuxBackend} {t : Tree} {w : Write Actor}
    (h : HardwareWrite b t w) : ¬IsRange w.path := by
  rcases h with h | ⟨-, h⟩ | ⟨-, h⟩
  · exact h.not_isRange
  · exact h.not_isRange
  · exact h.not_isRange

/-- A description lies in a hardware subsystem. -/
theorem IsRange.isHardware {p : Path} (h : IsRange p) : IsHardware p := by
  rcases h with ⟨h, -⟩ | ⟨h, -⟩ | ⟨h, -⟩ <;> simp [IsHardware, h]

theorem PeripheralWrite.subsystem_mem {w : Write Actor} (h : PeripheralWrite w) :
    subsystem w.path ∈ [Subsystem.module, .leds, .bus, .proc] := by
  rcases h with h | h | h
  · cases h
    simp [subsystem, aspmPolicyPath]
  · cases h
    simp [subsystem, ledNode, ledsBase]
  · cases h <;> simp [subsystem, iwlwifiPowerSave, sndHdaPowerSave, sndHdaPowerSaveController,
      usbDevices, pciDevices, nmiWatchdogPath, dirtyWriteback]

theorem BacklightWrite.subsystem_eq {w : Write Actor} (h : BacklightWrite w) :
    subsystem w.path = .backlight := by
  cases h <;> rfl

theorem PeripheralWrite.not_isHardware {w : Write Actor} (h : PeripheralWrite w) :
    ¬IsHardware w.path := by
  have hmem := h.subsystem_mem
  rw [IsHardware]
  generalize subsystem w.path = sub at hmem
  revert sub
  decide

theorem BacklightWrite.not_isHardware {w : Write Actor} (h : BacklightWrite w) :
    ¬IsHardware w.path := by
  rw [IsHardware, h.subsystem_eq]
  decide

/-- On a hardware node a profile makes hardware writes only. -/
theorem ProfileWrite.hardwareWrite {b : LinuxBackend} {t : Tree} {w : Write Actor}
    (h : ProfileWrite b t w) (hhard : IsHardware w.path) : HardwareWrite b t w := by
  rcases h with h | h | h
  · exact h
  · exact absurd hhard h.not_isHardware
  · exact absurd hhard h.not_isHardware

theorem ProfileWrite.not_isRange {b : LinuxBackend} {t : Tree} {w : Write Actor}
    (h : ProfileWrite b t w) : ¬IsRange w.path := fun hrange =>
  (h.hardwareWrite hrange.isHardware).not_isRange hrange

/-- Where a profile writes: never among the power supplies or the platform devices. -/
theorem ProfileWrite.not_supply {b : LinuxBackend} {t : Tree} {w : Write Actor}
    (h : ProfileWrite b t w) :
    ¬(subsystem w.path = .powerSupply ∨ subsystem w.path = .platformDevice) := by
  have hsub : subsystem w.path ∈
      [Subsystem.cpu, .powercap, .drm, .module, .leds, .bus, .proc, .backlight] := by
    rcases h with h | h | h
    · exact List.mem_append_left [Subsystem.module, .leds, .bus, .proc, .backlight] h.isHardware
    · exact List.mem_append_right [Subsystem.cpu, .powercap, .drm]
        (List.mem_append_left [Subsystem.backlight] h.subsystem_mem)
    · rw [h.subsystem_eq]
      decide
  revert hsub
  generalize subsystem w.path = sub
  revert sub
  decide

section Extends

variable {b : LinuxBackend} {P : Write Actor → Prop} {s₀ s : SysfsRoot}
variable (hfix : ∀ w, P w → ¬IsRange w.path)

include hfix

theorem applyCpuLimits_extends (hP : ∀ w, CpuWrite b.cpu s₀.tree w → P w) (h : Extends P s₀ s)
    (v : ProfileValues) : Extends P s₀ (b.applyCpuLimits v s) := by
  have hcores := setOnlineCores_extends hP hfix h (v.cores b.cpu)
  apply setTurboEnabled_extends hP
  show Extends P s₀ (match b.cpu.discoveredFreqBounds _ with | some bounds => _ | none => _)
  split
  · exact setFreqLimit_extends hP hfix hcores _
  · exact hcores

theorem applyCpu_extends (hP : ∀ w, CpuWrite b.cpu s₀.tree w → P w) (h : Extends P s₀ s)
    (v : ProfileValues) : Extends P s₀ (b.applyCpu v s) :=
  setEpp_extends hP (applyCpuLimits_extends hfix hP h v) v.epp

theorem applyRapl_extends
    (hP : ∀ rapl, b.rapl = some rapl → ∀ w, RaplWrite rapl s₀.tree w → P w) (h : Extends P s₀ s)
    (v : ProfileValues) : Extends P s₀ (b.applyRapl v s) := by
  rw [LinuxBackend.applyRapl]
  split
  · exact h
  · rename_i rapl hrapl
    have hpl1 : Extends P s₀ (match rapl.pl1BoundsWatts s.tree with
        | some bounds => rapl.setPl1Watts s (v.pick bounds) | none => s) := by
      split
      · exact setPl1Watts_extends (hP rapl hrapl) hfix h _
      · exact h
    show Extends P s₀ (match rapl.pl2BoundsWatts _ with | some bounds => _ | none => _)
    split
    · exact setPl2Watts_extends (hP rapl hrapl) hfix hpl1 _
    · exact hpl1

theorem applyGpu_extends
    (hP : ∀ gpu, b.gpu = some gpu → ∀ w, GpuWrite gpu s₀.tree w → P w) (h : Extends P s₀ s)
    (v : ProfileValues) : Extends P s₀ (b.applyGpu v s) := by
  rw [LinuxBackend.applyGpu]
  split
  · exact h
  · rename_i gpu hgpu
    split
    · exact setGpuFreq_extends (hP gpu hgpu) hfix h _
    · exact h

omit hfix in
theorem applyRest_extends (hper : ∀ w, PeripheralWrite w → P w)
    (hlight : ∀ w, BacklightWrite w → P w) (h : Extends P s₀ s) (v : ProfileValues) :
    Extends P s₀ (b.applyRest v s) := by
  have htweak : ∀ w, TweakWrite w → P w := fun w hw => hper w (.tweak hw)
  have haspm : Extends P s₀ (if b.aspm.isSome then LinuxAspm.setAspmPolicy s v.aspm else s) := by
    split
    · exact setAspmPolicy_extends (fun w hw => hper w (.aspm hw)) h _
    · exact h
  rw [LinuxBackend.applyRest]
  apply setVmWritebackSeconds_extends htweak
  apply setNmiWatchdog_extends htweak
  apply setAutosuspend_extends htweak
  apply setAudioPowerSave_extends htweak
  apply setWifiPowerSave_extends htweak
  have hpanel : Extends P s₀ (if b.backlight.isSome then
      LinuxBacklight.setBrightnessPercent b.brightnessctl
        (if b.aspm.isSome then LinuxAspm.setAspmPolicy s v.aspm else s) v.brightness
      else if b.aspm.isSome then LinuxAspm.setAspmPolicy s v.aspm else s) := by
    split
    · exact setBrightnessPercent_extends hlight haspm _ _
    · exact haspm
  show Extends P s₀ (if v.kbdOff then _ else _)
  split
  · exact setKbdBacklight_extends (fun w hw => hper w (.kbd hw)) hpanel false
  · exact hpanel

/-- **A profile stays inside its footprint.** -/
theorem applyProfile_extends (hP : ∀ w, ProfileWrite b s₀.tree w → P w) (h : Extends P s₀ s)
    (p : PowerProfile) : Extends P s₀ (b.applyProfile s p) := by
  have hcpu : ∀ w, CpuWrite b.cpu s₀.tree w → P w := fun w hw => hP w (.hardware (.cpu hw))
  have hvalues : ∀ v, Extends P s₀ (b.applyValues v s) := by
    intro v
    apply applyRest_extends (fun w hw => hP w (.peripheral hw)) (fun w hw => hP w (.backlight hw))
    apply applyGpu_extends hfix fun gpu hgpu w hw => hP w (.hardware (.gpu hgpu hw))
    apply applyRapl_extends hfix fun rapl hrapl w hw => hP w (.hardware (.rapl hrapl hw))
    exact applyCpu_extends hfix hcpu h v
  cases p with
  | performance => exact hvalues _
  | extreme => exact hvalues _
  | normal => exact hvalues _
  | autoExtreme => exact setEpp_extends hcpu h "balance_power"

end Extends

end WattWarden
