import WattWarden.Daemon.Supervisor
import WattWarden.Results.Memoryless
import WattWarden.Results.ProfileInForce

/-!
# Does a manual adjustment stay?

An adjustment signals the daemon so that the user's value stays, and leaves the persisted flags
alone.  The supervisor starts a new daemon, which reads those flags: it applies the configured
profile, and drives the ladder when that is on.

* `IsLimit` — the core, frequency, turbo, RAPL and GPU nodes;
* `LeavesLimitsAlone` — a configuration under which no daemon writes any of them;
* `backgroundStep_keeps` — **PROVED**: under such a configuration no background event changes one;
* `applyValues_noTurbo`, `applyLogic_noTurbo` — **PROVED**: a profile and a ladder step leave in the
  turbo node a value that does not depend on what was there;
* `adjustmentsStay_iff` — **PROVED**: so adjustments stay, in every interleaving on every machine, if
  and only if the configuration leaves the limits alone.
-/

namespace WattWarden

open Library.FileTree Library.Journaling Library.Floats Library.Runs Threshold

/-- The CPU nodes that carry a limit. -/
def limitLeaves : List String :=
  ["online", "scaling_min_freq", "scaling_max_freq", "no_turbo", "boost"]

/-- A CPU core, frequency, turbo, RAPL or GPU node. -/
def IsLimit (p : Path) : Prop :=
  (subsystem p = .cpu ∧ leaf p ∈ limitLeaves) ∨ subsystem p = .powercap ∨ subsystem p = .drm

/-- No profile that sets limits is configured, and the ladder is off. -/
def LeavesLimitsAlone (config : Config) : Prop :=
  config.autoExtremeEnabled = false ∧
    (config.profile = none ∨ config.profile = some .autoExtreme)

/-- **Adjustments stay.**  On every machine and after any interleaving of both sides, a limit node
an adjustment writes keeps its content in every state until the user does something else. -/
def AdjustmentsStay (F : Type) [FloatLike F] (file : ConfigFile) : Prop :=
  ∀ (host : Host) (d : Installation), d.file = file →
    ∀ (before : List (UserEvent ⊕ BackgroundEvent)) (e : UserEvent)
      (after : List BackgroundEvent),
      let d₁ := run (systemStep F host) d before
      let d₂ := userStep d₁ e
      ∀ p, IsLimit p →
        (∃ w ∈ (App.handle d₁.dashboard e.tools e.direction (.start d₁.sysfs.tree) e.row).1.log,
          w.path = p) →
        Always (fun d => d.sysfs.tree.content p = d₂.sysfs.tree.content p)
          (backgroundStep F host) d₂ after

theorem IsLimit.isHardware {p : Path} (h : IsLimit p) : IsHardware p := by
  rcases h with ⟨h, -⟩ | h | h <;> simp [IsHardware, h]

/-! ### Under a configuration that leaves the limits alone -/

/-- EPP and governor are not limits. -/
theorem setEpp_keeps_limits (cpu : LinuxCpuGovernor) (s : SysfsRoot) (pref : String) {p : Path}
    (hp : IsLimit p) :
    (cpu.setEnergyPerformancePreference s pref).tree.content p = s.tree.content p := by
  have hloop : ∀ (name value : String) (s : SysfsRoot), name ∉ limitLeaves →
      (cpu.cpuIds.foldl (writeExisting name value) s).tree.content p = s.tree.content p := by
    intro name value s hname
    have hext : Extends (fun w => ∃ id, w.path = cpufreqNode id name) s
        (cpu.cpuIds.foldl (writeExisting name value) s) :=
      writeExisting_loop_extends (fun id _ => ⟨id, rfl⟩) (Extends.refl _ _)
    apply hext.content_eq
    rintro w ⟨id, hw⟩ heq
    have hcpu : subsystem p = .cpu := by rw [← heq, hw]; rfl
    have hleaf : leaf p = name := by rw [← heq, hw, cpufreqNode, leaf_append]
    rcases hp with ⟨-, hmem⟩ | hcap | hdrm
    · exact hname (hleaf ▸ hmem)
    · rw [hcpu] at hcap
      cases hcap
    · rw [hcpu] at hdrm
      cases hdrm
  rw [LinuxCpuGovernor.setEnergyPerformancePreference]
  split
  · rfl
  · rename_i epp _
    have hepp := hloop "energy_performance_preference" epp s (by decide)
    dsimp only
    split
    · exact hepp
    · exact (hloop _ _ _ (by decide)).trans hepp

/-- **One background event** leaves every limit alone. -/
theorem backgroundStep_keeps {F : Type} [FloatLike F] {host : Host} {d : Installation}
    (hquiet : LeavesLimitsAlone d.file.loadOrDefault) (e : BackgroundEvent) {p : Path}
    (hp : IsLimit p) :
    (backgroundStep F host d e).sysfs.tree.content p = d.sysfs.tree.content p := by
  have hhard := hp.isHardware
  have hcases : (backgroundStep F host d e).sysfs = d.sysfs ∨ _ := backgroundStep_sysfs e
  rcases hcases with h | ⟨b, h⟩ | ⟨b, h⟩ | ⟨b, activeClass, last, h⟩ | ⟨changes, h⟩
  · rw [h]
  · rw [h, applyBootSettings, enforceSysfs_keeps_hardware _ _ hhard]
    rcases hquiet.2 with hprofile | hprofile
    · rw [hprofile]
    · rw [hprofile]
      exact setEpp_keeps_limits b.cpu d.sysfs _ hp
  · rw [h, applyLogic, enforceSysfs_keeps_hardware _ _ hhard, applyLogicStep_off b _ hquiet.1]
  · rw [h]
    have hext := applyBrightnessStep_extends (P := BacklightWrite) (fun _ hw => hw)
      (d := ⟨d.sysfs, last⟩) (Extends.refl _ _) b d.file.loadOrDefault activeClass
    exact hext.content_eq_on (fun _ hw => hw.not_isHardware) hhard
  · rw [h, ambient_keeps_hardware _ _ hhard]

/-- **Any run of background events** leaves every limit alone. -/
theorem background_keeps {F : Type} [FloatLike F] {host : Host} {d : Installation}
    (hquiet : LeavesLimitsAlone d.file.loadOrDefault) (after : List BackgroundEvent) {p : Path}
    (hp : IsLimit p) :
    Always (fun d' => d'.sysfs.tree.content p = d.sysfs.tree.content p) (backgroundStep F host) d
      after := by
  refine always_of_inv (fun d' : Installation => d'.file = d.file ∧
    d'.sysfs.tree.content p = d.sysfs.tree.content p) ⟨rfl, rfl⟩ ?_ (fun _ h => h.2) stepsMeet_true
  rintro d' e ⟨hfile, hcontent⟩ -
  refine ⟨(backgroundStep_file e).trans hfile, ?_⟩
  rw [backgroundStep_keeps (hfile ▸ hquiet) e hp, hcontent]

/-! ### What a profile and a ladder step leave in the turbo node -/

theorem noTurbo_isLimit : IsLimit noTurboNode := .inl ⟨rfl, by decide⟩

/-- What the turbo node holds. -/
def turboText (enabled : Bool) : String := if enabled then "0" else "1"

theorem setTurboEnabled_lands {s : SysfsRoot} (h : s.tree.isFile noTurboNode = true)
    (enabled : Bool) : (LinuxCpuGovernor.setTurboEnabled s enabled).tree.content noTurboNode
      = some (turboText enabled) := by
  have hexists : s.tree.pathExists noTurboNode = true := by rw [Tree.pathExists, h, Bool.true_or]
  rw [LinuxCpuGovernor.setTurboEnabled, if_pos hexists]
  exact Tree.content_write_self _ (Tree.writable_of_isFile h)

/-- **A profile decides the turbo node.** -/
theorem applyValues_noTurbo (b : LinuxBackend) {s : SysfsRoot}
    (hfile : s.tree.isFile noTurboNode = true) (v : ProfileValues) :
    (b.applyValues v s).tree.content noTurboNode = some (turboText v.turbo) := by
  have hlimits : (b.applyCpuLimits v s).tree.content noTurboNode = some (turboText v.turbo) := by
    have hcores : Extends (CpuWrite b.cpu s.tree) s (b.cpu.setOnlineCores s (v.cores b.cpu)) :=
      setOnlineCores_extends (fun _ hw => hw) (fun _ hw => hw.not_isRange) (Extends.refl _ _) _
    rw [LinuxBackend.applyCpuLimits]
    apply setTurboEnabled_lands
    split
    · exact (setFreqLimit_extends (fun _ hw => hw) (fun _ hw => hw.not_isRange) hcores _).isFile_mono
        hfile
    · exact hcores.isFile_mono hfile
  have hcpu : (b.applyCpu v s).tree.content noTurboNode = some (turboText v.turbo) :=
    (setEpp_keeps_limits b.cpu _ v.epp noTurbo_isLimit).trans hlimits
  rw [cpu_content_eq (applyValues_afterCpu b v s) rfl, hcpu]

/-- **So does a ladder step**: the load and the level decide, not what the node held. -/
theorem applyLogic_noTurbo (F : Type) [FloatLike F] (b : LinuxBackend) {config : Config}
    (hon : config.autoExtremeEnabled = true) {s : SysfsRoot}
    (hfile : s.tree.isFile noTurboNode = true) :
    (applyLogic F b config s).tree.content noTurboNode
      = some (turboText (turboTarget config.autoExtremeLevel
          (discretePowerOf (LinuxBackend.loadAverage F s.tree) (max b.cpu.numCpus 1)))) := by
  let targets := ladderTargets F b s.tree config.autoExtremeLevel
  let rapl := (ladderRapl b targets.ceiling targets.discretePower s).1
  have hclocks : Extends (HardwareWrite b s.tree) s (ladderClocks b targets rapl) :=
    ladderClocks_extends (fun _ hw => hw) (fun _ hw => hw.not_isRange)
      (ladderRapl_extends (fun _ hw => hw.not_isRange) (fun _ hrapl _ hw => .rapl hrapl hw)
        (Extends.refl _ _) _ _) targets
  have hepp : Extends (HardwareWrite b s.tree) s
      (b.cpu.setEnergyPerformancePreference (ladderClocks b targets rapl) targets.epp) :=
    setEpp_extends (fun _ hw => .cpu hw) hclocks targets.epp
  have hlimits : (ladderLimits b targets rapl).tree.content noTurboNode
      = some (turboText targets.turbo) :=
    setTurboEnabled_lands (hepp.isFile_mono hfile) targets.turbo
  have hper : (ladderPeripherals b (ladderLimits b targets rapl)).tree.content noTurboNode
      = (ladderLimits b targets rapl).tree.content noTurboNode := by
    have hext : Extends PeripheralWrite (ladderLimits b targets rapl)
        (ladderPeripherals b (ladderLimits b targets rapl)) :=
      ladderPeripherals_extends (fun _ hw => hw) (Extends.refl _ _)
    exact hext.content_eq_on (fun _ hw => hw.not_isHardware) noTurbo_isLimit.isHardware
  rw [applyLogic, enforceSysfs_keeps_hardware _ _ noTurbo_isLimit.isHardware,
    applyLogicStep_sysfs b s hon]
  show (if _ then ladderPeripherals b (ladderLimits b targets rapl)
    else ladderLimits b targets rapl : SysfsRoot).tree.content _ = _
  split
  · exact hper.trans hlimits
  · exact hlimits

/-! ### A machine on which they do not -/

/-- A machine with a turbo node. -/
def turboMachine (v : String) : Tree := .ofFiles [(noTurboNode, v)]

/-- Its installation: the unit is active and the daemon runs. -/
def turboInstallation (file : ConfigFile) (v : String) : Installation where
  sysfs := .start (turboMachine v)
  file := file
  process := some { DaemonProcess.start .plain (turboMachine v) with booted := true }
  unitActive := true
  dashboard := .withRoot .plain (turboMachine v)

/-- The user toggles turbo. -/
def toggleTurbo : UserEvent := ⟨.turbo, .right, ⟨false, false, false⟩⟩

/-- The signalled daemon exits and the supervisor starts the next one. -/
def respawn : List BackgroundEvent := [.daemonExits, .supervisorRestarts, .startUp]

/-- The tree after the toggle. -/
def toggledMachine (v : String) : SysfsRoot :=
  (App.handle (.withRoot .plain (turboMachine v)) toggleTurbo.tools .right (.start (turboMachine v))
    .turbo).1

/-- What the next daemon finds. -/
def nextBackend (v : String) : LinuxBackend := .withRoot .plain (toggledMachine v).tree

/-- The toggle writes the node, whichever value was there, and nothing else differs between the two
machines. -/
theorem toggled_spec :
    (toggledMachine "0").tree.content noTurboNode = some (turboText false) ∧
    (toggledMachine "1").tree.content noTurboNode = some (turboText true) ∧
    (toggledMachine "0").tree.content loadavgPath
      = (toggledMachine "1").tree.content loadavgPath ∧
    (nextBackend "0").cpu.numCpus = (nextBackend "1").cpu.numCpus ∧
    ∀ v ∈ ["0", "1"], ∃ w ∈ (toggledMachine v).log, w.path = noTurboNode := by
  decide +kernel

theorem toggled_isFile {v : String} (hv : v ∈ ["0", "1"]) :
    (toggledMachine v).tree.isFile noTurboNode = true := by
  rw [Tree.isFile]
  rcases List.mem_pair.mp hv with rfl | rfl
  · rw [toggled_spec.1]
    rfl
  · rw [toggled_spec.2.1]
    rfl

section Overridden

variable {F : Type} [FloatLike F] {file : ConfigFile}

/-- Where adjustments stay, the toggled node survives the next daemon's start-up … -/
theorem AdjustmentsStay.boot (h : AdjustmentsStay F file) {v : String} (hv : v ∈ ["0", "1"]) :
    (applyBootSettings (nextBackend v) file.loadOrDefault (toggledMachine v)).tree.content
      noTurboNode = (toggledMachine v).tree.content noTurboNode :=
  (h .plain (turboInstallation file v) rfl [] toggleTurbo respawn noTurboNode noTurbo_isLimit
    (toggled_spec.2.2.2.2 v hv)).run

/-- … and its first tick. -/
theorem AdjustmentsStay.tick (h : AdjustmentsStay F file) {v : String} (hv : v ∈ ["0", "1"]) :
    (applyLogic F (nextBackend v) file.loadOrDefault
      (applyBootSettings (nextBackend v) file.loadOrDefault (toggledMachine v))).tree.content
      noTurboNode = (toggledMachine v).tree.content noTurboNode :=
  (h .plain (turboInstallation file v) rfl [] toggleTurbo (respawn ++ [BackgroundEvent.logicTick]) noTurboNode
    noTurbo_isLimit (toggled_spec.2.2.2.2 v hv)).run

/-- **A profile with values overrides one of the two toggles.** -/
theorem AdjustmentsStay.no_values (h : AdjustmentsStay F file) {profile : PowerProfile}
    (hprofile : file.loadOrDefault.profile = some profile) : profile = .autoExtreme := by
  have hvalues : ∀ v : ProfileValues,
      ¬∀ (b : LinuxBackend) (s : SysfsRoot), b.applyProfile s profile = b.applyValues v s := by
    intro v happly
    have hboot : ∀ old ∈ ["0", "1"], some (turboText v.turbo)
        = (toggledMachine old).tree.content noTurboNode := by
      intro old hold
      rw [← h.boot hold, applyBootSettings, hprofile,
        enforceSysfs_keeps_hardware _ _ noTurbo_isLimit.isHardware]
      show _ = ((nextBackend old).applyProfile (toggledMachine old) profile).tree.content _
      rw [happly, applyValues_noTurbo _ (toggled_isFile hold)]
    have hsame := (hboot "0" (by simp)).symm.trans (hboot "1" (by simp))
    rw [toggled_spec.1, toggled_spec.2.1] at hsame
    revert hsame
    decide
  cases profile with
  | performance => exact absurd (fun _ _ => rfl) (hvalues LinuxBackend.performanceValues)
  | extreme => exact absurd (fun _ _ => rfl) (hvalues LinuxBackend.extremeValues)
  | normal => exact absurd (fun _ _ => rfl) (hvalues LinuxBackend.normalValues)
  | autoExtreme => rfl

/-- Start-up without a profile that sets limits keeps the load. -/
theorem boot_keeps_load (b : LinuxBackend) {config : Config} (s : SysfsRoot)
    (hprofile : config.profile = none ∨ config.profile = some .autoExtreme) :
    (applyBootSettings b config s).tree.content loadavgPath = s.tree.content loadavgPath := by
  have henforce : ∀ s : SysfsRoot,
      (enforceSysfs config s).tree.content loadavgPath = s.tree.content loadavgPath := by
    intro s
    have hext : Extends (ThresholdWrite s.tree) s (enforceSysfs config s) :=
      enforceSysfs_extends (fun _ _ _ hw => hw) (fun _ hw _ => hw.pathExists) (Extends.refl _ _)
    apply hext.content_eq
    intro w hw heq
    have hsub := hw.subsystem_mem
    rw [heq] at hsub
    revert hsub
    decide
  rw [applyBootSettings]
  rcases hprofile with hprofile | hprofile
  · rw [hprofile]
    exact henforce s
  · rw [hprofile]
    have hext : Extends (CpuWrite b.cpu s.tree) s (b.applyProfile s .autoExtreme) :=
      setEpp_extends (fun _ hw => hw) (Extends.refl _ _) _
    refine (henforce _).trans (hext.content_eq fun w hw => ?_)
    exact (LadderWrite.hardware (HardwareWrite.cpu hw)).path_ne_loadavg

/-- **The ladder overrides one of the two toggles**, whatever the arithmetic: what it aims at does
not depend on which of them was made. -/
theorem AdjustmentsStay.ladder_off (h : AdjustmentsStay F file)
    (hprofile : file.loadOrDefault.profile = none ∨
      file.loadOrDefault.profile = some .autoExtreme) :
    file.loadOrDefault.autoExtremeEnabled = false := by
  by_contra hne
  have hon : file.loadOrDefault.autoExtremeEnabled = true := by simpa using hne
  let target (load : F) (ncpu : ℕ) : String :=
    turboText (turboTarget file.loadOrDefault.autoExtremeLevel (discretePowerOf load (max ncpu 1)))
  have htick : ∀ v ∈ ["0", "1"],
      some (target (LinuxBackend.loadAverage F (toggledMachine v).tree) (nextBackend v).cpu.numCpus)
        = (toggledMachine v).tree.content noTurboNode := by
    intro v hv
    have hboot := h.boot hv
    have hfile : (applyBootSettings (nextBackend v) file.loadOrDefault
        (toggledMachine v)).tree.isFile noTurboNode = true := by
      rw [Tree.isFile, hboot]
      exact toggled_isFile hv
    have hload : LinuxBackend.loadAverage F (applyBootSettings (nextBackend v) file.loadOrDefault
        (toggledMachine v)).tree = LinuxBackend.loadAverage F (toggledMachine v).tree := by
      rw [LinuxBackend.loadAverage, LinuxBackend.loadAverage,
        SysfsRoot.read_congr (boot_keeps_load (nextBackend v) (toggledMachine v) hprofile)]
    rw [← h.tick hv, applyLogic_noTurbo F _ hon hfile, hload]
  have hload : LinuxBackend.loadAverage F (toggledMachine "0").tree
      = LinuxBackend.loadAverage F (toggledMachine "1").tree := by
    rw [LinuxBackend.loadAverage, LinuxBackend.loadAverage, SysfsRoot.read_congr toggled_spec.2.2.1]
  have hzero := htick "0" (by simp)
  rw [hload, toggled_spec.2.2.2.1, htick "1" (by simp), toggled_spec.1, toggled_spec.2.1] at hzero
  revert hzero
  decide

end Overridden

/-- **Manual adjustments, exactly.**  Whatever the arithmetic of the floats: they stay, on every
machine and in every interleaving of the dashboard, the daemon and its supervisor, if and only if
the persisted configuration has the ladder off and no profile that sets limits. -/
theorem adjustmentsStay_iff (F : Type) [FloatLike F] (file : ConfigFile) :
    AdjustmentsStay F file ↔ LeavesLimitsAlone file.loadOrDefault := by
  constructor
  · intro h
    have hprofile : file.loadOrDefault.profile = none ∨
        file.loadOrDefault.profile = some .autoExtreme := by
      cases hcase : file.loadOrDefault.profile with
      | none => exact .inl rfl
      | some profile => exact .inr (congrArg some (h.no_values hcase))
    exact ⟨h.ladder_off hprofile, hprofile⟩
  · intro hquiet host d hfile before e after d₁ d₂ p hp _
    apply background_keeps _ after hp
    have hkept : d₂.file = file := (systemRun_file before).trans hfile
    rw [hkept]
    exact hquiet

/-- The Performance profile is configured, the user turns turbo off, and three seconds later it is
on again. -/
theorem turbo_overridden :
    let file := ConfigFile.holds { Config.default with profile := some .performance }
    let adjusted := userStep (turboInstallation file "0") toggleTurbo
    let later := run (backgroundStep ℚ .plain) adjusted respawn
    (adjusted.sysfs.tree.content noTurboNode = some "1" ∧
      later.sysfs.tree.content noTurboNode = some "0") ∧ ¬AdjustmentsStay ℚ file := by
  refine ⟨by decide +kernel, fun h => ?_⟩
  have hprofile : PowerProfile.performance = .autoExtreme := h.no_values rfl
  cases hprofile

end WattWarden
