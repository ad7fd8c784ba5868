import WattWarden.Daemon.Runner
import WattWarden.FrontEnds.Settings
import WattWarden.Library.Runs

/-!
# Does a chosen profile stay in force?

A profile is chosen on the command line or on the dashboard; then the daemon ticks under the
configuration that was saved, with any loads.  The dashboard clears the flag that lets the ladder
run, the command line does not.

* `choose` — both front ends, on the tree and on the file;
* `hardware_kept` — **PROVED**: with the flag cleared, no tick touches a hardware node;
* `performance_lost` — **PROVED**: with the flag set, on every machine with an EPP node and no
  advertised list, one tick undoes the Performance profile, at every level and load;
* `profile_staysInForce_iff` — **PROVED**: so every profile stays in force on every machine if and
  only if it was chosen on the dashboard, or the flag was already cleared.
-/

namespace WattWarden

open Library.FileTree Library.Journaling Library.Floats Library.Numerals Library.Runs Threshold

/-- Where a profile is chosen: on the command line, or on a dashboard with its backend and its copy
of the configuration, however old. -/
inductive FrontEnd where
  | cli (host : Host)
  | dashboard (backend : LinuxBackend) (config : Config)

/-- The argument `set_profile` gets for a profile: `normal` clears the setting. -/
def cliArgument : PowerProfile → Option PowerProfile
  | .normal => none
  | profile => some profile

/-- A profile is chosen: the tree and the file afterwards. -/
def choose (s : SysfsRoot) (file : ConfigFile) (profile : PowerProfile) :
    FrontEnd → SysfsRoot × ConfigFile
  | .cli host => RealRuntime.setProfile host s file (cliArgument profile)
  | .dashboard backend config => App.applyProfile backend s config profile

/-- The outside world changes, then the daemon ticks. -/
def logicTick (F : Type) [FloatLike F] (b : LinuxBackend) (config : Config) (s : SysfsRoot)
    (changes : List (Path × String)) : SysfsRoot :=
  applyLogic F b config (ambient s changes)

/-! ### With the ladder off -/

theorem enforceSysfs_keeps_hardware (config : Config) (s : SysfsRoot) {p : Path}
    (hp : IsHardware p) : (enforceSysfs config s).tree.content p = s.tree.content p := by
  have h : Extends (ThresholdWrite s.tree) s (enforceSysfs config s) :=
    enforceSysfs_extends (fun _ _ _ hw => hw) (fun _ hw _ => hw.pathExists) (Extends.refl _ _)
  exact h.content_eq_on (fun _ hw => thresholdWrite_not_isHardware hw) hp

theorem ambient_keeps_hardware (s : SysfsRoot) (changes : List (Path × String)) {p : Path}
    (hp : IsHardware p) : (ambient s changes).tree.content p = s.tree.content p :=
  content_ambient s changes fun h => h.not_isHardware hp

/-- **One tick** with the ladder off leaves every hardware node alone. -/
theorem logicTick_keeps_hardware (F : Type) [FloatLike F] (b : LinuxBackend) {config : Config}
    (hoff : config.autoExtremeEnabled = false) (s : SysfsRoot) (changes : List (Path × String))
    {p : Path} (hp : IsHardware p) :
    (logicTick F b config s changes).tree.content p = s.tree.content p := by
  rw [logicTick, applyLogic, enforceSysfs_keeps_hardware _ _ hp, applyLogicStep_off b _ hoff,
    ambient_keeps_hardware _ _ hp]

/-- **Any number of ticks** with the ladder off leaves every hardware node alone. -/
theorem hardware_kept (F : Type) [FloatLike F] (b : LinuxBackend) {config : Config}
    (hoff : config.autoExtremeEnabled = false) (s : SysfsRoot)
    (ticks : List (List (Path × String))) {p : Path} (hp : IsHardware p) :
    (run (logicTick F b config) s ticks).tree.content p = s.tree.content p := by
  induction ticks generalizing s with
  | nil => rfl
  | cons changes ticks ih => rw [run_cons, ih, logicTick_keeps_hardware F b hoff s changes hp]

/-! ### With the ladder on -/

/-- A CPU the controller drives has an EPP node, and no preference is advertised. -/
structure FreeEpp (cpu : LinuxCpuGovernor) (t : Tree) (id : ℕ) : Prop where
  mem : id ∈ cpu.cpuIds
  isFile : t.isFile (cpufreqNode id "energy_performance_preference") = true
  free : availableEpp t = []

theorem FreeEpp.of_extends {cpu : LinuxCpuGovernor} {id : ℕ} {P : Write Actor → Prop}
    {s₀ s : SysfsRoot} (h : FreeEpp cpu s₀.tree id) (hfix : ∀ w, P w → ¬IsRange w.path)
    (hext : Extends P s₀ s) : FreeEpp cpu s.tree id where
  mem := h.mem
  isFile := hext.isFile_mono h.isFile
  free := by
    have hread := SysfsRoot.read_congr (sameRanges_of_extends hfix hext _
      (isRange_cpufreqNode 0 "energy_performance_available_preferences" (by decide)))
    rw [availableEpp, hread]
    exact h.free

/-- Writes that leave the CPU subsystem and every description alone. -/
def OffCpu (w : Write Actor) : Prop := subsystem w.path ≠ .cpu ∧ ¬IsRange w.path

theorem offCpu_of_not_isHardware {w : Write Actor} (h : ¬IsHardware w.path) : OffCpu w := by
  refine ⟨fun hcpu => h ?_, fun hrange => h hrange.isHardware⟩
  simp [IsHardware, hcpu]

theorem RaplWrite.offCpu {rapl : LinuxRapl} {t : Tree} {w : Write Actor} (h : RaplWrite rapl t w) :
    OffCpu w := by
  refine ⟨?_, h.not_isRange⟩
  have hcap : subsystem w.path = .powercap := by cases h; rfl
  rw [hcap]
  decide

theorem GpuWrite.offCpu {gpu : LinuxGpu} {t : Tree} {w : Write Actor} (h : GpuWrite gpu t w) :
    OffCpu w := by
  refine ⟨?_, h.not_isRange⟩
  have hdrm : subsystem w.path = .drm := by cases h <;> exact subsystem_gpuNode _ _
  rw [hdrm]
  decide

theorem cpu_content_eq {s₀ s : SysfsRoot} (h : Extends OffCpu s₀ s) {p : Path}
    (hp : subsystem p = .cpu) : s.tree.content p = s₀.tree.content p :=
  h.content_eq_on (R := fun q => subsystem q = .cpu) (fun _ hw => hw.1) hp

/-- After its CPU values, a profile leaves the CPU alone. -/
theorem applyValues_afterCpu (b : LinuxBackend) (v : ProfileValues) (s : SysfsRoot) :
    Extends OffCpu (b.applyCpu v s) (b.applyValues v s) := by
  have hrapl : Extends OffCpu (b.applyCpu v s) (b.applyRapl v (b.applyCpu v s)) :=
    applyRapl_extends (fun w hw => hw.2) (fun rapl _ w hw => hw.offCpu) (Extends.refl _ _) v
  have hgpu : Extends OffCpu (b.applyCpu v s) (b.applyGpu v (b.applyRapl v (b.applyCpu v s))) :=
    applyGpu_extends (fun w hw => hw.2) (fun gpu _ w hw => hw.offCpu) hrapl v
  exact applyRest_extends (fun w hw => offCpu_of_not_isHardware hw.not_isHardware)
    (fun w hw => offCpu_of_not_isHardware hw.not_isHardware) hgpu v

/-- **The profile's preference is in the node.** -/
theorem performance_content {b : LinuxBackend} {s : SysfsRoot} {id : ℕ}
    (h : FreeEpp b.cpu s.tree id) :
    (b.applyProfile s .performance).tree.content (cpufreqNode id "energy_performance_preference")
      = some "performance" := by
  have hlimits : FreeEpp b.cpu (b.applyCpuLimits LinuxBackend.performanceValues s).tree id :=
    h.of_extends (fun w (hw : CpuWrite b.cpu s.tree w) => hw.not_isRange)
      (applyCpuLimits_extends (fun w hw => hw.not_isRange) (fun _ hw => hw) (Extends.refl _ _) _)
  have hcpu := setEpp_content hlimits.mem hlimits.isFile hlimits.free "performance"
  show (b.applyValues LinuxBackend.performanceValues s).tree.content _ = _
  rw [cpu_content_eq (applyValues_afterCpu b LinuxBackend.performanceValues s) rfl]
  exact hcpu

/-- **So is the ladder's**, after one tick. -/
theorem logicTick_content (F : Type) [FloatLike F] {b : LinuxBackend} {config : Config}
    (hon : config.autoExtremeEnabled = true) {s : SysfsRoot} {id : ℕ}
    (h : FreeEpp b.cpu s.tree id) (changes : List (Path × String)) :
    ∃ discretePower : F, (logicTick F b config s changes).tree.content
        (cpufreqNode id "energy_performance_preference")
      = some (eppTarget config.autoExtremeLevel discretePower) := by
  have hhard : IsHardware (cpufreqNode id "energy_performance_preference") := by
    have hsub : subsystem (cpufreqNode id "energy_performance_preference") = .cpu := rfl
    rw [IsHardware, hsub]
    decide
  have hambient : FreeEpp b.cpu (ambient s changes).tree id :=
    h.of_extends (fun w (hw : AmbientWrite s.tree w) hrange => hw.not_isHardware hrange.isHardware)
      (ambient_extends (fun _ hw => hw) (fun _ hw hsupply => hw.exists_of_supply hsupply)
        (Extends.refl _ _) changes)
  let targets := ladderTargets F b (ambient s changes).tree config.autoExtremeLevel
  let rapl := (ladderRapl b targets.ceiling targets.discretePower (ambient s changes)).1
  have hclocks : FreeEpp b.cpu (ladderClocks b targets rapl).tree id :=
    hambient.of_extends
      (fun w (hw : HardwareWrite b (ambient s changes).tree w) => hw.not_isRange)
      (ladderClocks_extends (fun _ hw => hw) (fun w hw => hw.not_isRange)
        (ladderRapl_extends (fun w hw => hw.not_isRange) (fun _ hrapl _ hw => .rapl hrapl hw)
          (Extends.refl _ _) _ _) targets)
  have hepp := setEpp_content hclocks.mem hclocks.isFile hclocks.free targets.epp
  have hlimits : (ladderLimits b targets rapl).tree.content
      (cpufreqNode id "energy_performance_preference") = some targets.epp := by
    have hturbo : cpufreqNode id "energy_performance_preference" ≠ noTurboNode :=
      ne_of_leaf_ne (by simp [cpufreqNode, leaf, noTurboNode, cpuBase])
    have hboost : cpufreqNode id "energy_performance_preference" ≠ boostNode :=
      ne_of_leaf_ne (by simp [cpufreqNode, leaf, boostNode, cpuBase])
    rw [ladderLimits, setTurboEnabled_content _ _ hturbo hboost]
    exact hepp
  have hper : (ladderPeripherals b (ladderLimits b targets rapl)).tree.content
      (cpufreqNode id "energy_performance_preference") = some targets.epp := by
    rw [← hlimits]
    have hext : Extends OffCpu (ladderLimits b targets rapl)
        (ladderPeripherals b (ladderLimits b targets rapl)) :=
      ladderPeripherals_extends (fun w hw => offCpu_of_not_isHardware hw.not_isHardware)
        (Extends.refl _ _)
    exact cpu_content_eq hext rfl
  refine ⟨targets.discretePower, ?_⟩
  rw [logicTick, applyLogic, enforceSysfs_keeps_hardware _ _ hhard, applyLogicStep, hon]
  show (if _ then ladderPeripherals b (ladderLimits b targets rapl)
    else ladderLimits b targets rapl : SysfsRoot).tree.content _ = some targets.epp
  split
  · exact hper
  · exact hlimits

/-- No level and no load asks for the Performance profile's preference. -/
theorem eppTarget_ne_performance {F : Type} [FloatLike F] (level : AutoExtremeLevel)
    (discretePower : F) : eppTarget level discretePower ≠ "performance" := by
  cases level with
  | high => simp [eppTarget]
  | medium => simp [eppTarget]
  | low =>
    rw [eppTarget]
    split <;> decide

/-- **The command line loses the profile.**  With the ladder's flag set, the Performance profile
chosen on the command line is gone from every EPP node after the first tick, whatever the loads. -/
theorem performance_lost (F : Type) [FloatLike F] (host : Host) {b : LinuxBackend} {s : SysfsRoot}
    {id : ℕ} (hcli : FreeEpp (LinuxBackend.withRoot host s.tree).cpu s.tree id)
    (hdaemon : id ∈ b.cpu.cpuIds) {file : ConfigFile}
    (hon : file.loadOrDefault.autoExtremeEnabled = true) (changes : List (Path × String)) :
    let r := RealRuntime.setProfile host s file (some .performance)
    r.1.tree.content (cpufreqNode id "energy_performance_preference") = some "performance" ∧
    (logicTick F b r.2.loadOrDefault r.1 changes).tree.content
      (cpufreqNode id "energy_performance_preference") ≠ some "performance" := by
  simp only [RealRuntime.setProfile_sysfs, RealRuntime.setProfile_file, loadOrDefault_save,
    Option.getD_some]
  have hfree : FreeEpp b.cpu
      ((LinuxBackend.withRoot host s.tree).applyProfile s .performance).tree id := by
    have hext : Extends (ProfileWrite (LinuxBackend.withRoot host s.tree) s.tree) s
        ((LinuxBackend.withRoot host s.tree).applyProfile s .performance) :=
      applyProfile_extends (fun w hw => hw.not_isRange) (fun _ hw => hw) (Extends.refl _ _) _
    have hkept := hcli.of_extends (fun w hw => hw.not_isRange) hext
    exact ⟨hdaemon, hkept.isFile, hkept.free⟩
  have hflag : (Setting.apply file.loadOrDefault (.profile (some .performance))).autoExtremeEnabled
      = true := hon
  obtain ⟨discretePower, htick⟩ := logicTick_content F hflag hfree changes
  refine ⟨performance_content hcli, fun heq => ?_⟩
  exact eppTarget_ne_performance _ _ (Option.some.inj (htick.symm.trans heq))

/-! ### Both together -/

/-- **A chosen profile stays in force**: on every machine, with every daemon and every load, every
hardware node keeps what the profile left there. -/
def StaysInForce (F : Type) [FloatLike F] (file : ConfigFile) (frontEnd : FrontEnd) : Prop :=
  ∀ (s : SysfsRoot) (profile : PowerProfile), profile ≠ .autoExtreme →
    ∀ (b : LinuxBackend) (ticks : List (List (Path × String))) (p : Path), IsHardware p →
      let r := choose s file profile frontEnd
      (run (logicTick F b r.2.loadOrDefault) r.1 ticks).tree.content p = r.1.tree.content p

/-- The ladder's flag after a profile was chosen. -/
theorem choose_autoExtremeEnabled (s : SysfsRoot) (file : ConfigFile) (profile : PowerProfile)
    (frontEnd : FrontEnd) :
    (choose s file profile frontEnd).2.loadOrDefault.autoExtremeEnabled =
      match frontEnd with
      | .cli _ => file.loadOrDefault.autoExtremeEnabled
      | .dashboard _ _ => false := by
  cases frontEnd with
  | cli host => rfl
  | dashboard backend config => rfl

/-- A machine with one CPU that has an EPP node. -/
def oneCpu : Tree := .ofFiles
  [(cpufreqNode 0 "energy_performance_preference", "balance_performance\n"),
    (loadavgPath, "0.52 0.58 0.59 1/467 12345\n")]

theorem oneCpu_freeEpp (host : Host) :
    FreeEpp (LinuxBackend.withRoot host oneCpu).cpu oneCpu 0 where
  mem := by
    have hdiscover : LinuxCpuGovernor.discover oneCpu = [0] := by decide +kernel
    show 0 ∈ (LinuxCpuGovernor.withRoot oneCpu _ _).cpuIds
    simp [LinuxCpuGovernor.cpuIds, LinuxCpuGovernor.withRoot, hdiscover]
  isFile := by decide +kernel
  free := by decide +kernel

/-- **Profiles in force, exactly.**  Whatever the arithmetic of the floats: a profile stays in force
on every machine if and only if it was not chosen on the command line, or the persisted
configuration had the ladder off already. -/
theorem profile_staysInForce_iff (F : Type) [FloatLike F] (file : ConfigFile)
    (frontEnd : FrontEnd) : StaysInForce F file frontEnd ↔
      ∀ host, frontEnd = .cli host → file.loadOrDefault.autoExtremeEnabled = false := by
  constructor
  · intro hstays host hcli
    subst hcli
    cases hflag : file.loadOrDefault.autoExtremeEnabled with
    | false => rfl
    | true =>
      have hlost := performance_lost F host (s := .start oneCpu) (oneCpu_freeEpp host)
        (oneCpu_freeEpp host).mem hflag []
      have hkept := hstays (.start oneCpu) .performance (by decide)
        (LinuxBackend.withRoot host oneCpu) [[]]
        (cpufreqNode 0 "energy_performance_preference") (by decide +kernel)
      exact absurd (hkept.trans hlost.1) hlost.2
  · intro hoff s profile _ b ticks p hp
    apply hardware_kept F b _ _ ticks hp
    rw [choose_autoExtremeEnabled]
    cases frontEnd with
    | cli host => exact hoff host rfl
    | dashboard backend config => rfl

/-- The ladder is on, the user chooses Performance on the command line, and the next tick replaces
`performance` by `power`. -/
theorem cli_performance_replaced :
    let r := choose (.start oneCpu) (.holds { Config.default with autoExtremeEnabled := true })
      .performance (.cli .plain)
    let tick := logicTick ℚ (LinuxBackend.withRoot .plain oneCpu) r.2.loadOrDefault r.1 []
    r.1.tree.content (cpufreqNode 0 "energy_performance_preference") = some "performance" ∧
    tick.tree.content (cpufreqNode 0 "energy_performance_preference") = some "power" := by
  decide +kernel

end WattWarden
