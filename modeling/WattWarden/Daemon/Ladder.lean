import WattWarden.Platform.Backend

/-!
# The adaptive ladder

`DaemonRunner::apply_logic_step`: the load and the level pick one step of a four-step ladder, the
step is scaled into every discovered range, and the controllers are driven there.  The float
arithmetic is that of any `FloatLike` type.

* `coreCeiling` / `coreRampCores` / `scaleWithin` — the arithmetic of one step;
* `ladderTargets` — every target of a step, a function of ranges, load and level;
* `applyLogicStep` — the step, its writes in the source's order, and its `LogicStepResult`;
* `LadderWrite` — what a step can write; `applyLogicStep_extends` — **PROVED**: it writes nothing
  else, and nothing at all when the ladder is off.
-/

namespace WattWarden

open Library.FileTree Library.Journaling Library.Floats Library.Numerals

structure LogicStepResult (F : Type) where
  isCharging : Bool
  applied : Bool
  discretePower : F
  targetCores : ℕ
  targetFreq : ℕ
  targetGpu : ℕ
  targetRapl : ℕ
  targetTurbo : Bool
  targetEpp : String

section Arithmetic

variable {F : Type} [FloatLike F]

/-- `as u32`. -/
def asU32 (x : F) : ℕ := FloatLike.toUnsigned (2 ^ 32) x

/-- `as usize`. -/
def asUsize (x : F) : ℕ := FloatLike.toUnsigned (2 ^ 64) x

/-- Ceiling of online cores for a level, at least 2 as soon as there are 2. -/
def coreCeiling (ncpu : ℕ) (levelCeiling : F) : ℕ :=
  if ncpu ≤ 1 then 1 else clamp 2 ncpu (asUsize (FloatLike.ceil ((ncpu : F) * levelCeiling)))

/-- `clamp(round(1 + discrete_power * (ceiling - 1)), 1, ceiling)`. -/
def coreRampCores (ncpu : ℕ) (levelCeiling discretePower : F) : ℕ :=
  let ceiling := coreCeiling ncpu levelCeiling
  clamp 1 ceiling
    (asUsize (FloatLike.round ((1.0 : F) + discretePower * ((ceiling - 1 : ℕ) : F))))

/-- `discrete_power` inside `[min, max]`, capped by the level ceiling. -/
def scaleWithin (lo hi : ℕ) (levelCeiling discretePower : F) : ℕ :=
  let ceiling := (lo : F) + ((hi - lo : ℕ) : F) * levelCeiling
  let value := (lo : F) + discretePower * (ceiling - (lo : F))
  min (asU32 value) hi

/-- The load per CPU, capped at 1 and quantised into four steps. -/
def discretePowerOf (load : F) (ncpu : ℕ) : F :=
  let powerLevel := min (load / (ncpu : F)) (1.0 : F)
  FloatLike.round (powerLevel * (3.0 : F)) / (3.0 : F)

def levelCeiling : AutoExtremeLevel → F
  | .high => 0.4
  | .medium => 0.7
  | .low => 1.0

/-- The target of the CPU and GPU limits: the truncated level ceiling, then the step below it. -/
def rampTarget (range : ℕ × ℕ) (ceiling discretePower : F) : ℕ :=
  let top := asU32 ((range.1 : F) + ((range.2 : F) - (range.1 : F)) * ceiling)
  asU32 ((range.1 : F) + discretePower * ((top : F) - (range.1 : F)))

/-- Turbo thresholds per level. -/
def turboTarget (level : AutoExtremeLevel) (discretePower : F) : Bool :=
  match level with
  | .high => FloatLike.ge discretePower (0.8 : F)
  | .medium => FloatLike.ge discretePower ((2.0 : F) / (3.0 : F))
  | .low => FloatLike.ge discretePower ((1.0 : F) / (3.0 : F))

def eppTarget (level : AutoExtremeLevel) (discretePower : F) : String :=
  match level with
  | .high => "power"
  | .medium => "power"
  | .low => if FloatLike.lt discretePower (0.5 : F) then "balance_power" else "balance_performance"

end Arithmetic

/-- What a step aims at, RAPL apart. -/
structure LadderTargets (F : Type) where
  ceiling : F
  discretePower : F
  cores : ℕ
  freq : ℕ
  gpu : ℕ
  turbo : Bool
  epp : String

variable {F : Type} [FloatLike F]

/-- The targets of one step.  An undiscovered range counts as `(0, 0)`; the setter it goes to is
gated on the same discovery. -/
def ladderTargets (F : Type) [FloatLike F] (b : LinuxBackend) (t : Tree)
    (level : AutoExtremeLevel) : LadderTargets F :=
  let ncpu := max b.cpu.numCpus 1
  let discretePower := discretePowerOf (LinuxBackend.loadAverage F t) ncpu
  let ceiling : F := levelCeiling level
  let cpuRange := (b.cpu.discoveredFreqBounds t).getD (0, 0)
  let gpuRange := (b.gpu.bind fun gpu => gpu.discoveredGpuBounds t).getD (0, 0)
  { ceiling
    discretePower
    cores := coreRampCores ncpu ceiling discretePower
    freq := rampTarget cpuRange ceiling discretePower
    gpu := rampTarget gpuRange ceiling discretePower
    turbo := turboTarget level discretePower
    epp := eppTarget level discretePower }

/-- The long-term limit of a step, and the target it reports. -/
def ladderPl1 (rapl : LinuxRapl) (ceiling discretePower : F) (s : SysfsRoot) : SysfsRoot × ℕ :=
  match rapl.pl1BoundsWatts s.tree with
  | some (minW, maxW) =>
      let target := scaleWithin minW maxW ceiling discretePower
      (rapl.setPl1Watts s target, target)
  | none => (s, 0)

/-- The short-term limit of a step. -/
def ladderPl2 (rapl : LinuxRapl) (ceiling discretePower : F) (s : SysfsRoot) : SysfsRoot :=
  match rapl.pl2BoundsWatts s.tree with
  | some (minW, maxW) => rapl.setPl2Watts s (scaleWithin minW maxW ceiling discretePower)
  | none => s

/-- The RAPL part of a step, and the PL1 target it reports. -/
def ladderRapl (b : LinuxBackend) (ceiling discretePower : F) (s : SysfsRoot) : SysfsRoot × ℕ :=
  match b.rapl with
  | none => (s, 0)
  | some rapl =>
      let pl1 := ladderPl1 rapl ceiling discretePower s
      (ladderPl2 rapl ceiling discretePower pl1.1, pl1.2)

/-- Cores, frequency and GPU, in this order. -/
def ladderClocks (b : LinuxBackend) (targets : LadderTargets F) (s : SysfsRoot) : SysfsRoot :=
  let s := b.cpu.setOnlineCores s targets.cores
  let s := b.cpu.setFreqLimit s targets.freq
  b.gpu.elim s fun gpu => gpu.setGpuFreq s targets.gpu

/-- The clocks, then EPP and turbo. -/
def ladderLimits (b : LinuxBackend) (targets : LadderTargets F) (s : SysfsRoot) : SysfsRoot :=
  let s := b.cpu.setEnergyPerformancePreference (ladderClocks b targets s) targets.epp
  LinuxCpuGovernor.setTurboEnabled s targets.turbo

/-- The peripherals, touched on battery power only. -/
def ladderPeripherals (b : LinuxBackend) (s : SysfsRoot) : SysfsRoot :=
  let s := if b.aspm.isSome then LinuxAspm.setAspmPolicy s "powersave" else s
  let s := Tweaks.setWifiPowerSave s true
  let s := setKbdBacklight s false
  let s := Tweaks.setAudioPowerSave s true
  let s := Tweaks.setAutosuspend s true
  let s := Tweaks.setNmiWatchdog s false
  Tweaks.setVmWritebackSeconds s 60

/-- `apply_logic_step`. -/
def applyLogicStep (F : Type) [FloatLike F] (b : LinuxBackend) (s : SysfsRoot) (config : Config) :
    SysfsRoot × LogicStepResult F :=
  let isCharging := b.battery.isCharging s.tree
  let ncpu := max b.cpu.numCpus 1
  if !config.autoExtremeEnabled then
    (s, {
      isCharging
      applied := false
      discretePower := 1.0
      targetCores := ncpu
      targetFreq := 0
      targetGpu := 0
      targetRapl := 0
      targetTurbo := true
      targetEpp := "performance" })
  else
    let targets := ladderTargets F b s.tree config.autoExtremeLevel
    let rapl := ladderRapl b targets.ceiling targets.discretePower s
    let s := ladderLimits b targets rapl.1
    let s := if !isCharging then ladderPeripherals b s else s
    (s, {
      isCharging
      applied := true
      discretePower := targets.discretePower
      targetCores := targets.cores
      targetFreq := targets.freq
      targetGpu := targets.gpu
      targetRapl := rapl.2
      targetTurbo := targets.turbo
      targetEpp := targets.epp })

/-! ### What a step can write -/

/-- Everything a ladder step can write. -/
inductive LadderWrite (b : LinuxBackend) (t : Tree) (w : Write Actor) : Prop
  | hardware : HardwareWrite b t w → LadderWrite b t w
  | peripheral : PeripheralWrite w → LadderWrite b t w

theorem LadderWrite.profileWrite {b : LinuxBackend} {t : Tree} {w : Write Actor}
    (h : LadderWrite b t w) : ProfileWrite b t w := by
  cases h with
  | hardware h => exact .hardware h
  | peripheral h => exact .peripheral h

/-- **Opt-in.**  A step with the ladder off returns the tree it got. -/
theorem applyLogicStep_off (b : LinuxBackend) (s : SysfsRoot) {config : Config}
    (h : config.autoExtremeEnabled = false) : (applyLogicStep F b s config).1 = s := by
  rw [applyLogicStep]
  rw [h]
  rfl

/-- The tree a step with the ladder on leaves. -/
theorem applyLogicStep_sysfs (b : LinuxBackend) (s : SysfsRoot) {config : Config}
    (h : config.autoExtremeEnabled = true) :
    let targets := ladderTargets F b s.tree config.autoExtremeLevel
    let limits := ladderLimits b targets (ladderRapl b targets.ceiling targets.discretePower s).1
    (applyLogicStep F b s config).1
      = if !b.battery.isCharging s.tree then ladderPeripherals b limits else limits := by
  rw [applyLogicStep]
  rw [h]
  rfl

/-- The result a step with the ladder on returns. -/
theorem applyLogicStep_result (b : LinuxBackend) (s : SysfsRoot) {config : Config}
    (h : config.autoExtremeEnabled = true) :
    let targets := ladderTargets F b s.tree config.autoExtremeLevel
    (applyLogicStep F b s config).2 = {
      isCharging := b.battery.isCharging s.tree
      applied := true
      discretePower := targets.discretePower
      targetCores := targets.cores
      targetFreq := targets.freq
      targetGpu := targets.gpu
      targetRapl := (ladderRapl b targets.ceiling targets.discretePower s).2
      targetTurbo := targets.turbo
      targetEpp := targets.epp } := by
  rw [applyLogicStep]
  rw [h]
  rfl

section Extends

variable {b : LinuxBackend} {P : Write Actor → Prop} {s₀ s : SysfsRoot}
variable (hP : ∀ w, HardwareWrite b s₀.tree w → P w) (hfix : ∀ w, P w → ¬IsRange w.path)

include hP hfix

omit hP in
theorem ladderRapl_extends
    (hP : ∀ rapl, b.rapl = some rapl → ∀ w, RaplWrite rapl s₀.tree w → P w) (h : Extends P s₀ s)
    (ceiling discretePower : F) : Extends P s₀ (ladderRapl b ceiling discretePower s).1 := by
  rw [ladderRapl]
  split
  · exact h
  · rename_i rapl hrapl
    have hpl1 : Extends P s₀ (ladderPl1 rapl ceiling discretePower s).1 := by
      unfold ladderPl1
      split
      · exact setPl1Watts_extends (hP rapl hrapl) hfix h _
      · exact h
    show Extends P s₀ (ladderPl2 rapl ceiling discretePower _)
    unfold ladderPl2
    split
    · exact setPl2Watts_extends (hP rapl hrapl) hfix hpl1 _
    · exact hpl1

omit [FloatLike F] in
theorem ladderClocks_extends (h : Extends P s₀ s) (targets : LadderTargets F) :
    Extends P s₀ (ladderClocks b targets s) := by
  have hcpu : ∀ w, CpuWrite b.cpu s₀.tree w → P w := fun w hw => hP w (.cpu hw)
  have hfreq := setFreqLimit_extends hcpu hfix
    (setOnlineCores_extends hcpu hfix h targets.cores) targets.freq
  rw [ladderClocks]
  cases hgpu : b.gpu with
  | none => exact hfreq
  | some gpu => exact setGpuFreq_extends (fun w hw => hP w (.gpu hgpu hw)) hfix hfreq targets.gpu

omit [FloatLike F] in
theorem ladderLimits_extends (h : Extends P s₀ s) (targets : LadderTargets F) :
    Extends P s₀ (ladderLimits b targets s) := by
  have hcpu : ∀ w, CpuWrite b.cpu s₀.tree w → P w := fun w hw => hP w (.cpu hw)
  apply setTurboEnabled_extends hcpu
  apply setEpp_extends hcpu
  exact ladderClocks_extends hP hfix h targets

omit hP hfix in
theorem ladderPeripherals_extends (hper : ∀ w, PeripheralWrite w → P w) (h : Extends P s₀ s) :
    Extends P s₀ (ladderPeripherals b s) := by
  have htweak : ∀ w, TweakWrite w → P w := fun w hw => hper w (.tweak hw)
  rw [ladderPeripherals]
  apply setVmWritebackSeconds_extends htweak
  apply setNmiWatchdog_extends htweak
  apply setAutosuspend_extends htweak
  apply setAudioPowerSave_extends htweak
  apply setKbdBacklight_extends fun w hw => hper w (.kbd hw)
  apply setWifiPowerSave_extends htweak
  show Extends P s₀ (if _ then _ else _)
  split
  · exact setAspmPolicy_extends (fun w hw => hper w (.aspm hw)) h _
  · exact h

/-- **A ladder step stays inside its footprint.** -/
theorem applyLogicStep_extends (hper : ∀ w, PeripheralWrite w → P w) (h : Extends P s₀ s)
    (config : Config) : Extends P s₀ (applyLogicStep F b s config).1 := by
  rw [applyLogicStep]
  simp only
  split
  · exact h
  · have hrapl := ladderRapl_extends hfix (fun rapl hrapl w hw => hP w (.rapl hrapl hw)) h
      (ladderTargets F b s.tree config.autoExtremeLevel).ceiling
      (ladderTargets F b s.tree config.autoExtremeLevel).discretePower
    have hlimits := ladderLimits_extends hP hfix hrapl
      (ladderTargets F b s.tree config.autoExtremeLevel)
    simp only
    split
    · exact ladderPeripherals_extends hper hlimits
    · exact hlimits

end Extends

end WattWarden
