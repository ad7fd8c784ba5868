import WattWarden.Results.Limits
import WattWarden.Results.NewNodes

/-!
# Discovering the hardware again

A daemon, a dashboard and a command discover the hardware when they start, on the tree the others
have left.  They all find the same, since nobody creates a node that hardware is discovered by.

* `DiscoveredOn host t b` — the backend is the one discovered on `t`, its battery apart if that is
  only found by its type;
* `discoveredOn_of_machine` — **PROVED**: so is what is discovered on any tree of the machine `t`;
* `Kept t s₀ s` — between two trees of the machine, only writes that keep its description;
  `Kept.follows`, `Kept.handle`, `kept_perform`, … — **PROVED**: keys and calls make such writes;
* `ComputerFound` / `computerStep_found` — **PROVED**: every event leaves the machine and what each
  process has discovered of it;
* `rediscovered` — **PROVED**: whatever runs, all processes have the same hardware.
-/

namespace WattWarden

open Library.FileTree Library.Floats Library.Journaling Library.Numerals Library.Runs Threshold

/-! ### What is discovered on a machine -/

/-- A battery under one of the names that are tried first. -/
def StandardBattery (t : Tree) : Prop :=
  ∃ name ∈ ["BAT0", "BAT1", "BAT2", "BATT"], t.pathExists (powerSupplyBase ++ [name]) = true

/-- The backend is the one discovered on `t`.  Without a standard battery the machine may have
changed the types its supplies are told by. -/
structure DiscoveredOn (host : Host) (t : Tree) (b : LinuxBackend) : Prop where
  hardware : b = { LinuxBackend.withRoot host t with battery := b.battery }
  battery : StandardBattery t → b.battery = LinuxBattery.withRoot t

section Discovery

variable {t t' : Tree}

theorem mem_discover_cpu {m : ℕ} : m ∈ LinuxCpuGovernor.discover t ↔
    ∃ n digits, t.pathExists (cpuBase ++ [n]) = true ∧ stripPrefix "cpu" n = some digits ∧
      parseUnsigned (2 ^ 32) digits = some m := by
  rw [LinuxCpuGovernor.discover, List.mem_dedup, List.mem_insertionSort, List.mem_filterMap]
  simp only [List.mem_filterMap, Tree.mem_names]
  constructor
  · rintro ⟨digits, ⟨n, hn, hdigits⟩, hm⟩
    exact ⟨n, digits, hn, hdigits, hm⟩
  · rintro ⟨n, digits, hn, hdigits, hm⟩
    exact ⟨digits, ⟨n, hn, hdigits⟩, hm⟩

/-- The directory of a CPU is probed. -/
theorem not_unprobed_cpuEntry {n digits : String} (h : stripPrefix "cpu" n = some digits) :
    ¬Unprobed (cpuBase ++ [n]) := by
  apply not_unprobed_cpu rfl
  rw [leaf_append]
  intro hmem
  have hnone : ∀ name ∈ ["online", "scaling_min_freq", "scaling_max_freq"],
      stripPrefix "cpu" name = none := by decide
  rw [hnone n hmem] at h
  cases h

theorem discover_cpu_eq (h : SameMachine t t') :
    LinuxCpuGovernor.discover t' = LinuxCpuGovernor.discover t := by
  have hmem : ∀ m, m ∈ LinuxCpuGovernor.discover t' ↔ m ∈ LinuxCpuGovernor.discover t := by
    intro m
    rw [mem_discover_cpu, mem_discover_cpu]
    refine exists_congr fun n => exists_congr fun digits => ?_
    refine and_congr_left fun hgiven => ?_
    rw [h.exists_eq _ (not_unprobed_cpuEntry hgiven.1)]
  have hperm : (LinuxCpuGovernor.discover t').Perm (LinuxCpuGovernor.discover t) := by
    exact (List.perm_ext_iff_of_nodup (List.nodup_dedup _) (List.nodup_dedup _)).mpr hmem
  have hsorted : ∀ u, (LinuxCpuGovernor.discover u).Pairwise (· ≤ ·) := fun u =>
    (List.pairwise_insertionSort _ _).sublist (List.dedup_sublist _)
  exact hperm.eq_of_pairwise' (hsorted t') (hsorted t)

theorem discover_rapl_eq (h : SameMachine t t') : LinuxRapl.withRoot t' = LinuxRapl.withRoot t := by
  have hsub : ∀ n, subsystem (powercapBase ++ [n]) = .powercap := fun _ => rfl
  have hnames : t'.names powercapBase = t.names powercapBase :=
    h.names_eq fun n => not_unprobed_of_subsystem (hsub n) (by decide)
  have hslot : ∀ zone, t'.pathExists (constraintNode zone 0 "_name")
      = t.pathExists (constraintNode zone 0 "_name") := fun zone =>
    h.exists_eq _ (not_unprobed_of_subsystem (subsystem_constraintNode zone 0 "_name") (by decide))
  have hdomains : LinuxRapl.discoverDomains t' = LinuxRapl.discoverDomains t := by
    simp only [LinuxRapl.discoverDomains, hnames, hslot]
  simp only [LinuxRapl.withRoot, hdomains]

theorem discover_gpu_eq (h : SameMachine t t') : LinuxGpu.withRoot t' = LinuxGpu.withRoot t := by
  have hnames : t'.names drmBase = t.names drmBase := h.names_eq fun n =>
    not_unprobed_of_subsystem (show subsystem (drmBase ++ [n]) = .drm from rfl) (by decide)
  have hnode : ∀ gpu : LinuxGpu, t'.pathExists (gpu.node gtMaxFreq)
      = t.pathExists (gpu.node gtMaxFreq) := fun gpu =>
    h.exists_eq _ (not_unprobed_of_subsystem (subsystem_gpuNode gpu gtMaxFreq) (by decide))
  simp only [LinuxGpu.withRoot, LinuxGpu.discover, LinuxGpu.orderedCards, hnames, hnode]

theorem discover_aspm_eq (h : SameMachine t t') : LinuxAspm.withRoot t' = LinuxAspm.withRoot t := by
  rw [LinuxAspm.withRoot, h.exists_eq aspmPolicyPath (by decide), LinuxAspm.withRoot]

theorem discover_backlight_eq (h : SameMachine t t') :
    LinuxBacklight.withRoot t' = LinuxBacklight.withRoot t := by
  have hnames : t'.names backlightBase = t.names backlightBase :=
    h.names_eq fun n => by simp [Unprobed, subsystem, backlightBase]
  rw [LinuxBacklight.withRoot, hnames, LinuxBacklight.withRoot]

theorem discover_battery_eq (h : SameMachine t t') (hstandard : StandardBattery t) :
    LinuxBattery.withRoot t' = LinuxBattery.withRoot t := by
  obtain ⟨name, hname, hexists⟩ := hstandard
  have hpaths : ∀ name, t'.pathExists (powerSupplyBase ++ [name])
      = t.pathExists (powerSupplyBase ++ [name]) := fun name =>
    h.exists_eq _ (not_unprobed_of_subsystem
      (show subsystem (powerSupplyBase ++ [name]) = .powerSupply from rfl) (by decide))
  have hfound : (["BAT0", "BAT1", "BAT2", "BATT"].find? fun name =>
      t.pathExists (powerSupplyBase ++ [name])).isSome = true :=
    List.find?_isSome.mpr ⟨name, hname, hexists⟩
  obtain ⟨first, hfirst⟩ := Option.isSome_iff_exists.mp hfound
  simp only [LinuxBattery.withRoot, LinuxBattery.discover, hpaths, hfirst]

/-- **The same machine, the same hardware.** -/
theorem discoveredOn_of_machine (host : Host) (h : SameMachine t t') :
    DiscoveredOn host t (.withRoot host t') where
  hardware := by
    have hcpu : LinuxCpuGovernor.withRoot t' host.availableParallelism host.parallelism_pos
        = LinuxCpuGovernor.withRoot t host.availableParallelism host.parallelism_pos := by
      rw [LinuxCpuGovernor.withRoot, discover_cpu_eq h, LinuxCpuGovernor.withRoot]
    simp only [LinuxBackend.withRoot, hcpu, discover_rapl_eq h, discover_gpu_eq h,
      discover_aspm_eq h, discover_backlight_eq h]
  battery hstandard := discover_battery_eq h hstandard

theorem hasPolicyNode_of_machine (host : Host) (h : SameMachine t t') :
    HasPolicyNode (.withRoot host t') t := by
  intro haspm
  rw [← h.exists_eq aspmPolicyPath (by decide)]
  exact hasPolicyNode_withRoot host t' haspm

theorem DiscoveredOn.hasPolicyNode {host : Host} {b : LinuxBackend} (h : DiscoveredOn host t b) :
    HasPolicyNode b t := by
  intro haspm
  rw [h.hardware] at haspm
  exact hasPolicyNode_withRoot host t haspm

end Discovery

/-! ### Operations that keep the description -/

/-- From `s₀` to `s`, both trees of the machine `t`, only writes that keep its description. -/
structure Kept (t : Tree) (s₀ s : SysfsRoot) : Prop where
  before : SameMachine t s₀.tree
  extends_safe : Extends (SafeWrite t) s₀ s

section Kept

variable {t : Tree} {s₀ s s' : SysfsRoot}

theorem Kept.refl (h : SameMachine t s.tree) : Kept t s s := ⟨h, Extends.refl _ s⟩

theorem Kept.machine (h : Kept t s₀ s) : SameMachine t s.tree :=
  SameMachine.extends_safe h.extends_safe h.before

theorem Kept.writeAll (h : Kept t s₀ s) {ws : List (Write Actor)} (hws : ∀ w ∈ ws, SafeWrite t w) :
    Kept t s₀ (s.writeAll ws) :=
  ⟨h.before, Journal.writeAll_extends h.extends_safe hws⟩

/-- Cut off anywhere. -/
theorem Kept.cutShort (h : Kept t s₀ s) (n : ℕ) : Kept t s₀ (Library.Journaling.cutShort s₀ s n) :=
  ⟨h.before, h.extends_safe.cutShort n⟩

/-- An operation that follows a plan. -/
theorem Kept.follows (h : Kept t s₀ s) {f : SysfsRoot → SysfsRoot}
    {plan : Tree → List (Write Actor)} (hf : Follows t f plan) : Kept t s₀ (f s) := by
  rw [hf.eq s h.machine]
  exact h.writeAll (hf.safe s.tree)

theorem safe_of_threshold (h : SameMachine t s.tree) {w : Write Actor}
    (hw : ThresholdWrite s.tree w) : SafeWrite t w where
  not_range hrange := thresholdWrite_not_isHardware hw hrange.isHardware
  not_panel device heq := by
    cases hw with
    | node hnode hp =>
      have hsub := subsystem_of_mem_discover hnode hp
      change _ = backlightNode device "max_brightness" at heq
      subst heq
      rcases hsub with hsub | hsub <;> cases hsub
  probed := by
    by_cases hprobed : Unprobed w.path
    · exact .inl hprobed
    · right
      rw [← h.exists_eq _ hprobed]
      exact hw.pathExists

/-- The writes of a charge-limit controller. -/
theorem Kept.threshold (h : Kept t s₀ s) (hext : Extends (ThresholdWrite s.tree) s s') :
    Kept t s₀ s' :=
  ⟨h.before, h.extends_safe.trans (hext.mono fun _ hw => safe_of_threshold h.machine hw)⟩

theorem Kept.setChargeThreshold (h : Kept t s₀ s) (threshold : ℕ) :
    Kept t s₀ (Threshold.setChargeThreshold s threshold).1 :=
  h.threshold (setChargeThreshold_extends (fun _ hw => hw) (fun _ _ => rfl) (Extends.refl _ s)
    threshold)

theorem Kept.enforce (h : Kept t s₀ s) (config : Config) : Kept t s₀ (enforceSysfs config s) := by
  apply h.threshold
  exact enforceSysfs_extends (fun _ _ _ hw => hw) (fun w hw _ => hw.pathExists) (Extends.refl _ s)

theorem IsAmbient.not_unprobed {p : Path} (h : IsAmbient p) : ¬Unprobed p := by
  rcases h with hload | hsupply
  · rw [hload]
    decide
  · exact not_unprobed_of_subsystem hsupply (by decide)

theorem IsAmbient.ne_maxBrightness {p : Path} (h : IsAmbient p) (device : String) :
    p ≠ backlightNode device "max_brightness" := by
  intro heq
  rw [heq] at h
  rcases h with hload | hsupply
  · simp [backlightNode, backlightBase, loadavgPath] at hload
  · cases hsupply

theorem safe_of_ambient (h : SameMachine t s.tree) {w : Write Actor} (hambient : IsAmbient w.path)
    (hfile : s.tree.isFile w.path = true) : SafeWrite t w where
  not_range hrange := hambient.not_isHardware hrange.isHardware
  not_panel := hambient.ne_maxBrightness
  probed := by
    right
    rw [← h.exists_eq _ hambient.not_unprobed, Tree.pathExists, hfile]
    rfl

/-- The load and the power supplies change. -/
theorem Kept.ambient (h : Kept t s₀ s) (changes : List (Path × String)) :
    Kept t s₀ (WattWarden.ambient s changes) := by
  refine ⟨h.before, h.extends_safe.foldl fun e _ s hs => ?_⟩
  split
  · rename_i he
    obtain ⟨hambient, hfile⟩ := he
    have hmachine : SameMachine t s.tree := SameMachine.extends_safe hs h.before
    exact hs.write (safe_of_ambient hmachine hambient hfile)
  · exact hs

theorem Kept.applyProfile (h : Kept t s₀ s) {b : LinuxBackend} (hb : HasPolicyNode b t)
    (profile : PowerProfile) : Kept t s₀ (b.applyProfile s profile) :=
  h.follows (follows_applyProfile hb profile)

theorem Kept.logicStep (F : Type) [FloatLike F] (h : Kept t s₀ s) {b : LinuxBackend}
    (hb : HasPolicyNode b t) (config : Config) : Kept t s₀ (applyLogicStep F b s config).1 := by
  cases henabled : config.autoExtremeEnabled with
  | false =>
    rw [applyLogicStep_off b s henabled]
    exact h
  | true =>
    rw [applyLogicStep_eq hb h.machine henabled]
    exact h.writeAll (ladderPlan_safe hb s.tree _)

theorem safe_of_backlight {w : Write Actor} (hw : BacklightWrite w) : SafeWrite t w := by
  cases hw with
  | brightness => exact panelBrightness_safe _ _ _
  | tool => exact panelBrightness_safe _ _ _

theorem Kept.setBrightnessPercent (h : Kept t s₀ s) (tool : Brightnessctl) (percent : ℕ) :
    Kept t s₀ (LinuxBacklight.setBrightnessPercent tool s percent) :=
  ⟨h.before, setBrightnessPercent_extends (fun _ hw => safe_of_backlight hw) h.extends_safe tool
    percent⟩

theorem Kept.brightnessStep {d : DaemonState} (h : Kept t s₀ d.sysfs) (b : LinuxBackend)
    (config : Config) (activeClass : String) :
    Kept t s₀ (applyBrightnessStep b config activeClass d).1.sysfs :=
  ⟨h.before, applyBrightnessStep_extends (fun _ hw => safe_of_backlight hw) h.extends_safe b config
    activeClass⟩

theorem Kept.writeNode (h : Kept t s₀ s) {p : Path} (hp : TweakNode p) (v : String) :
    Kept t s₀ (Tweaks.writeNode s p v) := by
  rw [tweakWrite_eq h.machine hp v]
  exact h.writeAll (hp.safe v)

/-- **Left and right on a row.** -/
theorem Kept.handle (h : Kept t s₀ s) (b : LinuxBackend) (tools : RadioTools)
    (direction : Direction) (row : HardwareRow) :
    Kept t s₀ (App.handle b tools direction s row).1 := by
  have hconstraint : ∀ (rapl : LinuxRapl) name watts,
      Kept t s₀ (rapl.writeConstraint s name watts).1 := by
    intro rapl name watts
    rw [writeConstraint_eq h.machine rapl name watts]
    exact h.writeAll (raplPlan_safe rapl name watts)
  cases row with
  | cores => exact h.follows (follows_cores b _)
  | freqLimit => exact h.follows (follows_freq b _)
  | gpuFreq =>
    rw [App.handle]
    split
    · exact h
    · rename_i gpu hgpu
      dsimp only
      rw [setGpuFreq_eq h.machine gpu]
      exact h.writeAll (gpuPlan_safe gpu _)
  | raplPl1 =>
    rw [App.handle, App.handleRapl]
    split
    · exact h
    · rename_i rapl hrapl
      exact hconstraint rapl longTerm _
  | raplPl2 =>
    rw [App.handle, App.handleRapl]
    split
    · exact h
    · rename_i rapl hrapl
      exact hconstraint rapl shortTerm _
  | turbo => exact h.follows (follows_turbo _)
  | kbdBacklight =>
    refine ⟨h.before, setKbdBacklight_extends (fun w hw => ?_) h.extends_safe _⟩
    cases hw with
    | brightness => exact kbdBrightness_safe _ _
  | bluetooth => exact h
  | wifiEnable => exact h
  | wifiPowerSave => exact h.writeNode (by simp [TweakNode, subsystem, iwlwifiPowerSave]) _
  | audioPowerSave =>
    have hnode : TweakNode sndHdaPowerSave := by simp [TweakNode, subsystem, sndHdaPowerSave]
    exact (h.writeNode hnode _).writeNode
      (by simp [TweakNode, subsystem, sndHdaPowerSaveController]) _
  | autosuspend =>
    show Kept t s₀ (Tweaks.setAutosuspend s _)
    rw [setAutosuspend_eq h.machine]
    exact h.writeAll (controlPlan_safe _)
  | watchdog => exact h.writeNode (by simp [TweakNode, subsystem, nmiWatchdogPath]) _
  | vmWriteback => exact h.writeNode (by simp [TweakNode, subsystem, dirtyWriteback]) _

theorem Kept.handleBrightness (h : Kept t s₀ s) (b : LinuxBackend) (config : Config)
    (direction : Direction) : Kept t s₀ (App.handleBrightness b config direction s).1 := by
  rw [App.handleBrightness]
  split
  · exact h.setBrightnessPercent _ _
  · exact h

/-- **A call of the daemon.** -/
theorem kept_perform (F : Type) [FloatLike F] {r : DaemonRunner} (hr : HasPolicyNode r.backend t)
    {site : Site} (h : SameMachine t site.sysfs.tree) (w : Work) :
    Kept t site.sysfs (r.perform F site w).2.sysfs := by
  have hstart : Kept t site.sysfs site.sysfs := .refl h
  cases w with
  | bootSettings clock =>
    show Kept t _ (enforceLogged linuxChargeThreshold site.file.loadOrDefault clock _ _).1
    rw [enforceLogged_fst]
    refine Kept.enforce ?_ _
    split
    · exact hstart.applyProfile hr _
    · exact hstart
  | logic clock =>
    show Kept t _ (enforceLogged linuxChargeThreshold site.file.loadOrDefault clock _ _).1
    rw [enforceLogged_fst]
    exact (hstart.logicStep F hr _).enforce _
  | brightness activeClass =>
    exact Kept.brightnessStep (d := ⟨site.sysfs, r.lastAppliedBrightness⟩) hstart _ _ _
  | sample clock outcome => exact hstart

/-- **An operation of a command line**, with the hardware it has discovered. -/
theorem operation_machine {w : World} (h : SameMachine t w.sysfs.tree) (o : Circumstances)
    (hdaemon : ∀ w, (o.daemonRuns w).2 = w) (hdashboard : ∀ w, (o.dashboardRuns w).2 = w)
    (r : CliRequest) :
    SameMachine t (RealRuntime.operation o (fun w => (none, w)) r w).2.sysfs.tree := by
  have hstart : Kept t w.sysfs w.sysfs := .refl h
  apply operation_preserves (P := fun s => SameMachine t s.tree) h _ hdaemon hdashboard
  · exact fun n => (hstart.setChargeThreshold n).machine
  · exact fun profile => (hstart.applyProfile (hasPolicyNode_of_machine o.host h) profile).machine
  · exact fun percent => (hstart.setBrightnessPercent _ percent).machine

end Kept

/-! ### What every process has discovered -/

/-- What a daemon has discovered. -/
def DaemonProgram.backend : DaemonProgram → LinuxBackend
  | discovered backend => backend
  | running r => r.backend

/-- The tree is one of the machine, and each daemon has the hardware discovered on it. -/
structure DaemonsFound (host : Host) (t : Tree) (daemons : Daemons) : Prop where
  machine : SameMachine t daemons.site.sysfs.tree
  programs : ∀ pid program, daemons.programs pid = some program →
    DiscoveredOn host t program.backend

section Daemons

variable {F : Type} [FloatLike F] {host : Host} {t : Tree} {daemons : Daemons}

theorem perform_backend (r : DaemonRunner) (site : Site) (w : Work) :
    (r.perform F site w).1.backend = r.backend := by
  cases w <;> rfl

theorem DaemonsFound.put (h : DaemonsFound host t daemons) (pid : ℕ)
    {program : Option DaemonProgram}
    (hprogram : ∀ p, program = some p → DiscoveredOn host t p.backend) :
    DaemonsFound host t (daemons.put pid program) where
  machine := h.machine
  programs := (Function.forall_update_iff daemons.programs fun _ program =>
    ∀ p, program = some p → DiscoveredOn host t p.backend).mpr ⟨hprogram, fun q _ => h.programs q⟩

/-- A process that is gone. -/
theorem DaemonsFound.gone (h : DaemonsFound host t daemons) (pid : ℕ) :
    DaemonsFound host t (daemons.put pid none) :=
  h.put pid fun _ hp => by cases hp

theorem DaemonsFound.runner (h : DaemonsFound host t daemons) {pid : ℕ} {r : DaemonRunner}
    (hr : daemons.runner pid = some r) : DiscoveredOn host t r.backend := by
  obtain ⟨program, hprogram, hrunner⟩ := Option.bind_eq_some_iff.mp hr
  have hfound := h.programs pid program hprogram
  cases program with
  | discovered backend => cases hrunner
  | running r' =>
    obtain rfl : r' = r := Option.some.inj hrunner
    exact hfound

/-- The next call of a runner. -/
theorem DaemonsFound.step (h : DaemonsFound host t daemons) {pid : ℕ} {r : DaemonRunner}
    (hr : daemons.runner pid = some r) {w : Work} {x : DaemonRunner × Site}
    (hstep : r.step F daemons.site w = some x) :
    x.1.backend = r.backend ∧ Kept t daemons.site.sysfs x.2.sysfs := by
  obtain ⟨stage, -, rfl⟩ := Option.map_eq_some_iff.mp hstep
  refine ⟨perform_backend { r with stage := stage } daemons.site w, ?_⟩
  exact kept_perform F (r := { r with stage := stage }) (h.runner hr).hasPolicyNode h.machine w

/-- **An event of the daemons.** -/
theorem daemonsStep_found (h : DaemonsFound host t daemons) (e : DaemonsEvent) (hown : e.Own) :
    DaemonsFound host t (daemonsStep F host daemons e) := by
  cases e with
  | spawn pid => exact ⟨h.machine, h.programs⟩
  | probeLock pid => exact ⟨h.machine, h.programs⟩
  | probeUnlock pid => exact ⟨h.machine, h.programs⟩
  | exit pid => exact ⟨h.machine, (h.gone pid).programs⟩
  | outside site => cases hown
  | discover pid =>
    rw [daemonsStep]
    split
    · apply h.put pid
      intro p hp
      obtain rfl := Option.some.inj hp
      exact discoveredOn_of_machine host h.machine
    · exact h
  | acquire pid =>
    rw [daemonsStep]
    split
    · rename_i backend hbackend
      refine ⟨h.machine, (h.put pid fun p hp => ?_).programs⟩
      have hfound : DiscoveredOn host t backend := h.programs pid _ hbackend
      split at hp
      · obtain rfl := Option.some.inj hp
        exact hfound
      · cases hp
    · exact h
  | work pid w =>
    rw [daemonsStep]
    split
    · rename_i x hx
      obtain ⟨r, hr, hstep⟩ := Option.bind_eq_some_iff.mp hx
      obtain ⟨hbackend, hkept⟩ := h.step hr hstep
      refine ⟨hkept.machine, (h.put pid fun p hp => ?_).programs⟩
      obtain rfl := Option.some.inj hp
      rw [DaemonProgram.backend, hbackend]
      exact h.runner hr
    · exact h
  | killed pid w writes =>
    rw [daemonsStep]
    split
    · rename_i site hcut
      obtain ⟨r, hr, hcut⟩ := Option.bind_eq_some_iff.mp hcut
      obtain ⟨x, hstep, rfl⟩ := Option.map_eq_some_iff.mp hcut
      exact ⟨((h.step hr hstep).2.cutShort writes).machine, (h.gone pid).programs⟩
    · exact h
  | shutdown pid =>
    rw [daemonsStep]
    split
    · exact ⟨h.machine, (h.gone pid).programs⟩
    · exact h

end Daemons

/-- Each daemon and each dashboard has the hardware of the machine. -/
structure ComputerFound (host : Host) (t : Tree) (c : Computer) : Prop where
  daemons : DaemonsFound host t c.daemons
  dashboards : ∀ id b, c.dashboards id = some b → DiscoveredOn host t b

section Computer

variable {F : Type} [FloatLike F] {host : Host} {t : Tree} {c : Computer}

theorem computerFound_start (host : Host) (t : Tree) (file : ConfigFile) (healthLog : String)
    (state : Calibrate.StateFile) : ComputerFound host t (.start t file healthLog state) where
  daemons := ⟨SameMachine.refl t, fun _ _ hp => by cases hp⟩
  dashboards _ _ hb := by cases hb

theorem ComputerFound.start_kept (h : ComputerFound host t c) : Kept t c.sysfs c.sysfs :=
  .refl h.daemons.machine

theorem ComputerFound.putWorld (h : ComputerFound host t c) {w : World}
    (hw : SameMachine t w.sysfs.tree) : ComputerFound host t (c.putWorld w) :=
  ⟨⟨hw, h.daemons.programs⟩, h.dashboards⟩

theorem ComputerFound.onDashboard (h : ComputerFound host t c) (id : ℕ)
    {f : LinuxBackend → SysfsRoot} (hf : ∀ b, DiscoveredOn host t b → Kept t c.sysfs (f b)) :
    ComputerFound host t (c.onDashboard id f) := by
  rw [Computer.onDashboard]
  split
  · rename_i backend hbackend
    exact h.putWorld (hf backend (h.dashboards id backend hbackend)).machine
  · exact h

/-- A dashboard is opened or closed. -/
theorem ComputerFound.putDashboard (h : ComputerFound host t c) (id : ℕ)
    {dashboard : Option LinuxBackend} (hfound : ∀ b, dashboard = some b → DiscoveredOn host t b) :
    ComputerFound host t { c with dashboards := Function.update c.dashboards id dashboard } where
  daemons := h.daemons
  dashboards := (Function.forall_update_iff c.dashboards fun _ dashboard =>
    ∀ b, dashboard = some b → DiscoveredOn host t b).mpr ⟨hfound, fun id' _ => h.dashboards id'⟩

theorem ComputerFound.calibrates (h : ComputerFound host t c) (id : ℕ)
    {f : LinuxBackend → Calibrate.Outcome SysfsRoot} (hf : ∀ b, Kept t c.sysfs (f b).device) :
    ComputerFound host t (c.calibrates id f) := by
  rw [Computer.calibrates]
  split
  · rename_i backend _
    exact h.putWorld (hf backend).machine
  · exact h

/-- **One event.** -/
theorem computerStep_found (F : Type) [FloatLike F] (e : ComputerEvent)
    (h : ComputerFound host t c) : ComputerFound host t (computerStep F host c e) := by
  have hstart := h.start_kept
  cases e with
  | daemons e hown => exact ⟨daemonsStep_found h.daemons e hown, h.dashboards⟩
  | operates o r =>
    exact h.putWorld (operation_machine (w := c.world) h.daemons.machine _ (fun _ => rfl)
      (fun _ => rfl) r)
  | opens id =>
    apply h.putDashboard id
    intro b hb
    obtain rfl := Option.some.inj hb
    exact discoveredOn_of_machine host h.daemons.machine
  | closes id =>
    apply h.putDashboard id
    intro b hb
    cases hb
  | adjusts id tools direction row =>
    exact h.onDashboard id fun b _ => hstart.handle b tools direction row
  | brightens id config direction =>
    exact h.onDashboard id fun b _ => hstart.handleBrightness b config direction
  | applies id profile =>
    exact h.onDashboard id fun b hb => hstart.applyProfile hb.hasPolicyNode profile
  | limits id limit =>
    apply h.onDashboard id
    intro b _
    split
    · exact hstart.setChargeThreshold limit
    · exact hstart
  | calibrates id outcome =>
    apply h.calibrates id
    intro b
    split
    · rw [Calibrate.status_device]
      exact hstart
    · exact start_preserves hstart hstart.setChargeThreshold c.state outcome
  | finishes id =>
    exact h.calibrates id fun _ => finish_preserves hstart hstart.setChargeThreshold c.state
  | purges id =>
    exact h.onDashboard id fun _ _ =>
      hstart.writeNode (by simp [TweakNode, subsystem, dropCaches]) _
  | saves file => exact h.putWorld h.daemons.machine
  | ambient changes => exact h.putWorld (hstart.ambient changes).machine

/-- **Discovering the hardware again.**  Whatever any number of daemons, dashboards and command
lines do on one machine, in any order, killed or not, with cores taken offline, limits set and the
power supplies changing meanwhile: what a dashboard or a daemon discovered when it started, and what
one would discover that starts now, is the hardware discovered at the start, the battery included
where there is a standard one, and so are the nodes of the charge limit. -/
theorem rediscovered (F : Type) [FloatLike F] (host : Host) (t : Tree) (file : ConfigFile)
    (healthLog : String) (state : Calibrate.StateFile) (events : List ComputerEvent) :
    let c := run (computerStep F host) (.start t file healthLog state) events
    (∀ id b, c.dashboards id = some b → DiscoveredOn host t b) ∧
    (∀ pid program, c.daemons.programs pid = some program → DiscoveredOn host t program.backend) ∧
    DiscoveredOn host t (.withRoot host c.sysfs.tree) ∧ discover c.sysfs.tree = discover t := by
  intro c
  have hfound : ComputerFound host t c := run_inv (ComputerFound host t)
    (computerFound_start host t file healthLog state) (fun _ e h => computerStep_found F e h) events
  have hinv : ComputerInv t c := run_inv (ComputerInv t) (computerInv_start t file healthLog state)
    (fun _ e h => computerStep_inv F host e h) events
  refine ⟨hfound.dashboards, hfound.daemons.programs, ?_, ?_⟩
  · exact discoveredOn_of_machine host hfound.daemons.machine
  · exact discover_congr (sameSupplies_of_system hinv.sysfs)

end Computer

end WattWarden
