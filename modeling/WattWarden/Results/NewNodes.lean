import WattWarden.Daemon.Plans
import WattWarden.Library.Runs

/-!
# Which nodes the program creates

A write to a missing file of an existing directory creates it.  Every setter but five probes for
the node it writes; the five are the `online` nodes, the two frequency limits, the panels and the
keyboard lights.

* `QuietPlan t ws` — a plan that creates nothing on `t`; the probing plans are quiet;
* `OnlineQuiet`, `FreqQuiet`, `PanelQuiet`, `KbdQuiet` — for each unprobed family: every node of it
  the program would write exists, or its directory does not;
* `Operation` / `operate` — boot settings, ladder steps, brightness steps, the charge limit,
  profiles, and what happens outside;
* `operate_paths_iff` — **PROVED**: one operation keeps the set of paths exactly when the families
  it writes are quiet;
* `operations_paths_iff` — **PROVED**: the same for any sequence of operations.
-/

namespace WattWarden

open Library.FileTree Library.Journaling Library.Floats Library.Numerals Library.Runs

/-! ### Quiet plans -/

/-- The plan creates nothing. -/
def QuietPlan (t : Tree) (ws : List (Write Actor)) : Prop := ∀ w ∈ ws, Quiet t w.path

section Quiet

variable {t : Tree}

@[simp] theorem quietPlan_nil : QuietPlan t [] := by simp [QuietPlan]

@[simp] theorem quietPlan_cons {w : Write Actor} {ws : List (Write Actor)} :
    QuietPlan t (w :: ws) ↔ Quiet t w.path ∧ QuietPlan t ws := by
  rw [QuietPlan, List.forall_mem_cons]
  rfl

@[simp] theorem quietPlan_append {ws ws' : List (Write Actor)} :
    QuietPlan t (ws ++ ws') ↔ QuietPlan t ws ∧ QuietPlan t ws' := by
  rw [QuietPlan, List.forall_mem_append]
  rfl

theorem quietPlan_flatMap {β : Type*} {l : List β} {plan : β → List (Write Actor)} :
    QuietPlan t (l.flatMap plan) ↔ ∀ b ∈ l, QuietPlan t (plan b) := by
  simp only [QuietPlan, List.mem_flatMap]
  constructor
  · intro h b hb w hw
    exact h w ⟨b, hb, hw⟩
  · intro h w ⟨b, hb, hw⟩
    exact h b hb w hw

/-! ### The setters that probe -/

@[simp] theorem quietPlan_existing (p : Path) (v : String) : QuietPlan t (existingPlan t p v) := by
  intro w hw
  obtain ⟨hexists, rfl⟩ := mem_existingPlan.mp hw
  exact quiet_of_pathExists hexists

@[simp] theorem quietPlan_leaves (cpu : LinuxCpuGovernor) (name value : String) :
    QuietPlan t (leavesPlan cpu t name value) :=
  quietPlan_flatMap.mpr fun _ _ => quietPlan_existing _ _

@[simp] theorem quietPlan_turbo (enabled : Bool) : QuietPlan t (turboPlan t enabled) := by
  rw [turboPlan]
  split
  · rename_i hexists
    simpa using quiet_of_pathExists hexists
  · exact quietPlan_existing _ _

@[simp] theorem quietPlan_epp (cpu : LinuxCpuGovernor) (pref : String) :
    QuietPlan t (eppPlan cpu t pref) := by
  rw [eppPlan]
  split
  · simp
  · split <;> simp

theorem quietPlan_rapl (rapl : LinuxRapl) (name : String) (watts : ℕ) :
    QuietPlan t (raplPlan rapl t name watts) := by
  apply quietPlan_flatMap.mpr
  intro zone _
  rw [zonePlan]
  split
  · simp
  · split <;> simp

@[simp] theorem quietPlan_gpu (gpu : LinuxGpu) (mhz : ℕ) : QuietPlan t (gpuPlan gpu t mhz) := by
  rw [gpuPlan]
  split <;> simp

@[simp] theorem quietPlan_wifi (enabled : Bool) : QuietPlan t (wifiPlan t enabled) :=
  quietPlan_existing _ _

@[simp] theorem quietPlan_tweaks (powerSave watchdog : Bool) (seconds : ℕ) :
    QuietPlan t (tweaksPlan t powerSave watchdog seconds) := by
  simp [tweaksPlan, quietPlan_flatMap]

@[simp] theorem quietPlan_package (b : LinuxBackend) (pick : ℕ × ℕ → ℕ) :
    QuietPlan t (packagePlan b t pick) := by
  have hconstraint : ∀ rapl name, QuietPlan t (constraintPlan t name pick rapl) := by
    intro rapl name
    rw [constraintPlan]
    split
    · exact quietPlan_rapl rapl name _
    · simp
  rw [packagePlan]
  cases b.rapl with
  | none => simp
  | some rapl => simp [hconstraint]

@[simp] theorem quietPlan_graphics (b : LinuxBackend) (pick : ℕ × ℕ → ℕ) :
    QuietPlan t (graphicsPlan b t pick) := by
  rw [graphicsPlan]
  cases b.gpu with
  | none => simp
  | some gpu =>
    rw [Option.elim_some]
    split <;> simp

@[simp] theorem quietPlan_ladderGpu (b : LinuxBackend) (mhz : ℕ) :
    QuietPlan t (ladderGpuPlan b t mhz) := by
  rw [ladderGpuPlan]
  cases b.gpu <;> simp

theorem quietPlan_policy {b : LinuxBackend} (h : HasPolicyNode b t) (now : Tree)
    (policy : String) : QuietPlan t (policyPlan b now policy) := by
  rw [policyPlan]
  split
  · rename_i haspm
    intro w hw
    obtain ⟨v, -, rfl⟩ := List.mem_map.mp hw
    exact quiet_of_pathExists (h haspm)
  · simp

/-! ### The setters that do not -/

/-- The `online` nodes the program writes exist, or cannot be created. -/
def OnlineQuiet (cpu : LinuxCpuGovernor) (t : Tree) : Prop :=
  ∀ id ∈ cpu.cpuIds.drop 1, Quiet t (onlineNode id)

/-- When there is a frequency range: both limits of every CPU with a `cpufreq` directory. -/
def FreqQuiet (cpu : LinuxCpuGovernor) (t : Tree) : Prop :=
  (cpu.discoveredFreqBounds t).isSome = true → ∀ id ∈ cpu.cpuIds,
    t.pathExists (cpufreqDir id) = true →
      Quiet t (cpufreqNode id "scaling_min_freq") ∧ Quiet t (cpufreqNode id "scaling_max_freq")

/-- The panels with a maximum. -/
def PanelQuiet (t : Tree) : Prop :=
  ∀ device ∈ LinuxBacklight.devices t, 0 < LinuxBacklight.maxBrightness t device →
    Quiet t (backlightNode device "brightness")

/-- The keyboard lights. -/
def KbdQuiet (t : Tree) : Prop := ∀ led ∈ kbdLeds t, Quiet t (ledNode led "brightness")

theorem quietPlan_online (cpu : LinuxCpuGovernor) (n : ℕ) :
    QuietPlan t (onlinePlan cpu n) ↔ OnlineQuiet cpu t := by
  have hids : (cpu.cpuIds.zipIdx.drop 1).map Prod.fst = cpu.cpuIds.drop 1 := by
    rw [List.map_drop, List.zipIdx_map_fst]
  rw [OnlineQuiet, ← hids, QuietPlan, onlinePlan, List.forall_mem_map, List.forall_mem_map]
  rfl

theorem quietPlan_freq (cpu : LinuxCpuGovernor) (mhz : ℕ) :
    QuietPlan t (freqPlan cpu t mhz) ↔ FreqQuiet cpu t := by
  rw [freqPlan, FreqQuiet]
  cases cpu.discoveredFreqBounds t with
  | none => simp
  | some bounds =>
    simp only [quietPlan_flatMap, Option.isSome_some, forall_const]
    refine forall₂_congr fun id _ => ?_
    rw [scalingPlan]
    split <;> simp_all

theorem quietPlan_cores (cpu : LinuxCpuGovernor) (limit count : ℕ) :
    QuietPlan t (coresPlan cpu t limit count) ↔
      OnlineQuiet cpu t ∧ (0 < limit → FreqQuiet cpu t) := by
  rw [coresPlan, quietPlan_append, quietPlan_online]
  split
  · simp_all [quietPlan_freq]
  · simp_all

theorem quietPlan_panels (p : ℕ) : QuietPlan t (panelPlan t p) ↔ PanelQuiet t := by
  rw [panelPlan, quietPlan_flatMap, PanelQuiet]
  refine forall₂_congr fun device _ => ?_
  split <;> simp_all

theorem quietPlan_kbd : QuietPlan t (kbdPlan t) ↔ KbdQuiet t := by
  rw [QuietPlan, kbdPlan, List.forall_mem_map]
  rfl

/-- The external tool only sets devices that are there, or that the plan before it created. -/
theorem quietPlan_tool {ws : List (Write Actor)} (hws : QuietPlan t ws) (tool : Brightnessctl)
    (p : ℕ) : QuietPlan t (toolPlan tool (afterPlan t ws) p) := by
  apply quietPlan_flatMap.mpr
  intro e _
  split
  · rename_i hfile
    have hcases := ((Journal.start t).isFile_writeAll ws _).mp hfile
    rw [quietPlan_cons]
    refine ⟨?_, quietPlan_nil⟩
    intro hwritable
    rcases hcases with hfile | ⟨-, w, hw, hpath⟩
    · exact hfile
    · have hquiet := hws w hw
      rw [hpath] at hquiet
      exact hquiet hwritable
  · exact quietPlan_nil

theorem quietPlan_brightness {ws : List (Write Actor)} (hws : QuietPlan t ws) (b : LinuxBackend)
    (percent : ℕ) : QuietPlan t (brightnessPlan b t (afterPlan t ws) percent) ↔
      (b.backlight.isSome = true → PanelQuiet t) := by
  rw [brightnessPlan]
  split
  · rename_i hsome
    dsimp only
    rw [afterPlan_append, quietPlan_append, quietPlan_panels]
    constructor
    · intro h _
      exact h.1
    · intro h
      have hpanels := (quietPlan_panels (clamp 1 100 percent)).mpr (h hsome)
      exact ⟨h hsome, quietPlan_tool (quietPlan_append.mpr ⟨hws, hpanels⟩) _ _⟩
  · rename_i hnone
    exact iff_of_true quietPlan_nil fun h => absurd h hnone

end Quiet

/-! ### Profiles and ladder steps -/

section Operations

variable {b : LinuxBackend} {t : Tree}

/-- The unprobed nodes of the CPUs. -/
def CoresQuiet (cpu : LinuxCpuGovernor) (t : Tree) : Prop := OnlineQuiet cpu t ∧ FreqQuiet cpu t

/-- Setting the cores writes the limits too, but no others than setting the limit does. -/
theorem coresQuiet_iff {cpu : LinuxCpuGovernor} {limit : ℕ} :
    (OnlineQuiet cpu t ∧ (0 < limit → FreqQuiet cpu t)) ∧ FreqQuiet cpu t ↔ CoresQuiet cpu t := by
  constructor
  · intro h
    obtain ⟨⟨honline, -⟩, hfreq⟩ := h
    exact ⟨honline, hfreq⟩
  · intro h
    obtain ⟨honline, hfreq⟩ := h
    exact ⟨⟨honline, fun _ => hfreq⟩, hfreq⟩

theorem quietPlan_pickedFreq (v : ProfileValues) :
    QuietPlan t (pickedFreqPlan b t v) ↔ FreqQuiet b.cpu t := by
  rw [pickedFreqPlan]
  cases hbounds : b.cpu.discoveredFreqBounds t with
  | none => simp [FreqQuiet, hbounds]
  | some bounds => exact quietPlan_freq b.cpu _

theorem quietPlan_hardware (v : ProfileValues) :
    QuietPlan t (hardwarePlan b t v t) ↔ CoresQuiet b.cpu t := by
  simp only [hardwarePlan, cpuPlan, quietPlan_append, quietPlan_cores, quietPlan_pickedFreq,
    quietPlan_turbo, quietPlan_epp, quietPlan_package, quietPlan_graphics, and_true, coresQuiet_iff]

theorem quietPlan_rest (v : ProfileValues) :
    QuietPlan t (restPlan t v) ↔ (v.kbdOff = true → KbdQuiet t) := by
  simp only [restPlan, quietPlan_append, quietPlan_wifi, quietPlan_tweaks, and_true]
  split
  · rename_i hoff
    simp [hoff, quietPlan_kbd]
  · rename_i hoff
    simp [hoff]

/-- **Profiles at given values.** -/
theorem quietPlan_values (hpolicy : HasPolicyNode b t) (v : ProfileValues) :
    QuietPlan t (valuesPlan b t v t) ↔ CoresQuiet b.cpu t ∧
      (b.backlight.isSome = true → PanelQuiet t) ∧ (v.kbdOff = true → KbdQuiet t) := by
  have hpol : ∀ now, QuietPlan t (policyPlan b now v.aspm) := fun now =>
    quietPlan_policy hpolicy now v.aspm
  rw [valuesPlan]
  simp only [quietPlan_append, hpol, and_true, quietPlan_hardware, quietPlan_rest, and_assoc]
  refine and_congr_right fun hcores => and_congr_left fun _ => ?_
  apply quietPlan_brightness
  exact quietPlan_append.mpr ⟨(quietPlan_hardware v).mpr hcores, hpol _⟩

/-- The nodes a profile writes without probing are quiet. -/
def ProfileQuiet (b : LinuxBackend) (t : Tree) : PowerProfile → Prop
  | .autoExtreme => True
  | .extreme => CoresQuiet b.cpu t ∧ (b.backlight.isSome = true → PanelQuiet t) ∧ KbdQuiet t
  | .performance | .normal => CoresQuiet b.cpu t ∧ (b.backlight.isSome = true → PanelQuiet t)

theorem quietPlan_profile (hpolicy : HasPolicyNode b t) (p : PowerProfile) :
    QuietPlan t (profilePlan b t t p) ↔ ProfileQuiet b t p := by
  cases p with
  | performance => simp [profilePlan, quietPlan_values hpolicy, ProfileQuiet,
      LinuxBackend.performanceValues]
  | extreme => simp [profilePlan, quietPlan_values hpolicy, ProfileQuiet,
      LinuxBackend.extremeValues]
  | normal => simp [profilePlan, quietPlan_values hpolicy, ProfileQuiet,
      LinuxBackend.normalValues]
  | autoExtreme => simp [profilePlan, ProfileQuiet]

/-- The nodes a ladder step writes without probing are quiet; off the charger it turns the keyboard
light off. -/
def LadderQuiet (b : LinuxBackend) (t : Tree) : Prop :=
  CoresQuiet b.cpu t ∧ (b.battery.isCharging t = false → KbdQuiet t)

theorem quietPlan_ladder (F : Type) [FloatLike F] (hpolicy : HasPolicyNode b t)
    (level : AutoExtremeLevel) : QuietPlan t (ladderPlan b t F t level) ↔ LadderQuiet b t := by
  have hlimits : ∀ targets : LadderTargets F,
      QuietPlan t (limitsPlan b t targets t) ↔ CoresQuiet b.cpu t := by
    intro targets
    simp only [limitsPlan, quietPlan_append, quietPlan_cores, quietPlan_freq, quietPlan_turbo,
      quietPlan_epp, quietPlan_package, quietPlan_ladderGpu, and_true, true_and, coresQuiet_iff]
  have hbattery : ∀ now, QuietPlan t (batteryPlan b t now) ↔ KbdQuiet t := by
    intro now
    simp only [batteryPlan, quietPlan_append, quietPlan_policy hpolicy, quietPlan_wifi,
      quietPlan_kbd, quietPlan_tweaks, and_true, true_and]
  rw [ladderPlan, LadderQuiet]
  simp only [quietPlan_append, hlimits]
  refine and_congr_right fun _ => ?_
  split
  · simp_all
  · simp_all

end Operations

/-! ### The set of paths -/

/-- The paths that exist. -/
def existing (t : Tree) : Set Path := {p | t.pathExists p = true}

theorem existing_eq_iff {t t' : Tree} :
    existing t' = existing t ↔ ∀ p, t'.pathExists p = t.pathExists p := by
  rw [Set.ext_iff]
  refine forall_congr' fun p => ?_
  rw [Bool.eq_iff_iff]
  rfl

theorem existing_mono {P : Write Actor → Prop} {s₀ s : SysfsRoot} (h : Extends P s₀ s) :
    existing s₀.tree ⊆ existing s.tree := fun _ hp => h.pathExists_mono hp

/-- Writes to what exists create nothing. -/
theorem existing_eq_of_exists {P : Write Actor → Prop} {s₀ s : SysfsRoot} (h : Extends P s₀ s)
    (hP : ∀ w, P w → s₀.tree.pathExists w.path = true) : existing s.tree = existing s₀.tree := by
  apply existing_eq_iff.mpr
  intro p
  apply h.pathExists_eq_of_exists
  intro w hw hpath
  exact hpath ▸ hP w hw

/-- **A plan keeps the set of paths exactly when it is quiet.** -/
theorem existing_writeAll_iff (s : SysfsRoot) (ws : List (Write Actor)) :
    existing (s.writeAll ws).tree = existing s.tree ↔ QuietPlan s.tree ws := by
  rw [existing_eq_iff, pathExists_writeAll_iff]
  rfl

/-- What a charge-limit controller writes exists. -/
theorem existing_enforceSysfs (config : Config) (s : SysfsRoot) :
    existing (enforceSysfs config s).tree = existing s.tree := by
  have hexists : ∀ w, Threshold.ThresholdWrite s.tree w → s.tree.pathExists w.path = true :=
    fun w hw => hw.pathExists
  apply existing_eq_of_exists (P := Threshold.ThresholdWrite s.tree) ?_ hexists
  exact enforceSysfs_extends (fun _ _ _ hw => hw) (fun w hw _ => hexists w hw) (Extends.refl _ _)

theorem existing_ambient (s : SysfsRoot) (changes : List (Path × String)) :
    existing (ambient s changes).tree = existing s.tree := by
  rw [ambient]
  induction changes generalizing s with
  | nil => rfl
  | cons e changes ih =>
    rw [List.foldl_cons, ih]
    split
    · rename_i he
      apply existing_eq_iff.mpr
      intro p
      simp only [Tree.pathExists, Journal.tree_write, Tree.isDir_write,
        Tree.isFile_write_of_isFile _ he.2]
    · rfl

/-! ### Runs of operations -/

/-- The operations of the program on the tree, each under a configuration of its own, and what
happens outside between them. -/
inductive Operation where
  | bootSettings (config : Config)
  | logicStep (config : Config)
  | brightnessStep (config : Config) (activeClass : String)
  | enforceLimit (config : Config)
  | profile (p : PowerProfile)
  | outside (changes : List (Path × String))

/-- One operation. -/
def operate (F : Type) [FloatLike F] (b : LinuxBackend) (d : DaemonState) :
    Operation → DaemonState
  | .bootSettings config => { d with sysfs := applyBootSettings b config d.sysfs }
  | .logicStep config => { d with sysfs := (applyLogicStep F b d.sysfs config).1 }
  | .brightnessStep config activeClass => (applyBrightnessStep b config activeClass d).1
  | .enforceLimit config => { d with sysfs := enforceSysfs config d.sysfs }
  | .profile p => { d with sysfs := b.applyProfile d.sysfs p }
  | .outside changes => { d with sysfs := ambient d.sysfs changes }

/-- The nodes an operation writes without probing exist, or cannot be created. -/
def UnprobedQuiet (b : LinuxBackend) (d : DaemonState) : Operation → Prop
  | .bootSettings config => ∀ p, config.profile = some p → ProfileQuiet b d.sysfs.tree p
  | .logicStep config => config.autoExtremeEnabled = true → LadderQuiet b d.sysfs.tree
  | .brightnessStep config activeClass =>
      BrightnessDue b config activeClass d → PanelQuiet d.sysfs.tree
  | .profile p => ProfileQuiet b d.sysfs.tree p
  | .enforceLimit _ | .outside _ => True

section Runs

variable {F : Type} [FloatLike F] {b : LinuxBackend}

theorem existing_profile_iff {s : SysfsRoot} (hpolicy : HasPolicyNode b s.tree)
    (p : PowerProfile) :
    existing (b.applyProfile s p).tree = existing s.tree ↔ ProfileQuiet b s.tree p := by
  rw [(follows_applyProfile hpolicy p).eq s (SameMachine.refl s.tree), existing_writeAll_iff,
    quietPlan_profile hpolicy]

theorem existing_logicStep_iff {s : SysfsRoot} (hpolicy : HasPolicyNode b s.tree)
    (config : Config) : existing (applyLogicStep F b s config).1.tree = existing s.tree ↔
      (config.autoExtremeEnabled = true → LadderQuiet b s.tree) := by
  cases hladder : config.autoExtremeEnabled with
  | false => simp [applyLogicStep_off b s hladder]
  | true =>
    rw [applyLogicStep_eq hpolicy (SameMachine.refl s.tree) hladder, existing_writeAll_iff,
      quietPlan_ladder F hpolicy]
    simp

theorem existing_brightnessStep_iff (config : Config) (activeClass : String) (d : DaemonState) :
    existing (applyBrightnessStep b config activeClass d).1.sysfs.tree = existing d.sysfs.tree ↔
      (BrightnessDue b config activeClass d → PanelQuiet d.sysfs.tree) := by
  have hset : ∀ percent, existing (LinuxBacklight.setBrightnessPercent b.brightnessctl d.sysfs
      percent).tree = existing d.sysfs.tree ↔ PanelQuiet d.sysfs.tree := by
    intro percent
    rw [setBrightnessPercent_eq (SameMachine.refl _), ← Journal.writeAll_append,
      existing_writeAll_iff, quietPlan_append, quietPlan_panels, ← afterPlan_tree]
    constructor
    · intro h
      exact h.1
    · intro h
      exact ⟨h, quietPlan_tool ((quietPlan_panels _).mpr h) _ _⟩
  rw [applyBrightnessStep, BrightnessDue]
  split
  · simp_all
  · rename_i hauto
    dsimp only
    split
    · rename_i hsome
      split
      · rename_i hdue
        simp_all
      · rename_i hdue
        simp_all
    · simp_all

/-- No operation removes a path. -/
theorem existing_subset_operate (d : DaemonState) (op : Operation) :
    existing d.sysfs.tree ⊆ existing (operate F b d op).sysfs.tree := by
  have hprofile : ∀ p, existing d.sysfs.tree ⊆ existing (b.applyProfile d.sysfs p).tree :=
    fun p => existing_mono (applyProfile_extends (P := ProfileWrite b d.sysfs.tree)
      (fun _ hw => hw.not_isRange) (fun _ hw => hw) (Extends.refl _ _) p)
  cases op with
  | bootSettings config =>
    rw [operate, applyBootSettings]
    dsimp only
    rw [existing_enforceSysfs]
    cases config.profile with
    | none => exact subset_rfl
    | some p => exact hprofile p
  | logicStep config =>
    exact existing_mono (applyLogicStep_extends (P := ProfileWrite b d.sysfs.tree)
      (fun _ hw => .hardware hw) (fun _ hw => hw.not_isRange) (fun _ hw => .peripheral hw)
      (Extends.refl _ _) config)
  | brightnessStep config activeClass =>
    exact existing_mono (applyBrightnessStep_extends (P := BacklightWrite) (fun _ hw => hw)
      (Extends.refl _ _) b config activeClass)
  | enforceLimit config => exact (existing_enforceSysfs config d.sysfs).ge
  | profile p => exact hprofile p
  | outside changes => exact (existing_ambient d.sysfs changes).ge

theorem HasPolicyNode.operate {d : DaemonState} (h : HasPolicyNode b d.sysfs.tree)
    (op : Operation) : HasPolicyNode b (operate F b d op).sysfs.tree := fun haspm =>
  existing_subset_operate d op (h haspm)

/-- **One operation.** -/
theorem operate_paths_iff {d : DaemonState} (hpolicy : HasPolicyNode b d.sysfs.tree)
    (op : Operation) : existing (operate F b d op).sysfs.tree = existing d.sysfs.tree ↔
      UnprobedQuiet b d op := by
  cases op with
  | bootSettings config =>
    rw [operate, applyBootSettings, UnprobedQuiet]
    dsimp only
    rw [existing_enforceSysfs]
    cases config.profile with
    | none => simp
    | some p => simpa using existing_profile_iff hpolicy p
  | logicStep config => exact existing_logicStep_iff hpolicy config
  | brightnessStep config activeClass => exact existing_brightnessStep_iff config activeClass d
  | enforceLimit config => exact iff_of_true (existing_enforceSysfs config d.sysfs) trivial
  | profile p => exact existing_profile_iff hpolicy p
  | outside changes => exact iff_of_true (existing_ambient d.sysfs changes) trivial

end Runs

theorem hasPolicyNode_withRoot (host : Host) (t : Tree) :
    HasPolicyNode (LinuxBackend.withRoot host t) t := by
  intro haspm
  rw [LinuxBackend.withRoot, LinuxAspm.withRoot] at haspm
  by_contra h
  simp [h] at haspm

/-- **Exactly the unprobed nodes are created.**  A sequence of operations keeps the set of paths of
the tree the backend was built on if and only if, at every operation, the nodes it writes without
probing exist or cannot be created. -/
theorem operations_paths_iff (F : Type) [FloatLike F] (host : Host) (t : Tree)
    (ops : List Operation) :
    let step := operate F (LinuxBackend.withRoot host t)
    existing (run step ⟨.start t, -1⟩ ops).sysfs.tree = existing t ↔
      StepsMeet (UnprobedQuiet (LinuxBackend.withRoot host t)) step ⟨.start t, -1⟩ ops := by
  intro step
  refine Iff.trans (run_eq_iff_stepsMeet (fun d : DaemonState => existing d.sysfs.tree)
    existing_subset_operate) ?_
  refine stepsMeet_iff (fun d : DaemonState =>
    HasPolicyNode (LinuxBackend.withRoot host t) d.sysfs.tree) ?_ ?_ ?_
  · exact hasPolicyNode_withRoot host t
  · intro d op h
    exact h.operate op
  · intro d op h
    exact operate_paths_iff h op

/-- Two CPUs whose directories show nothing but `uevent`. -/
def bareCpus : Tree :=
  .ofFiles [(cpuRel 0 ++ ["uevent"], ""), (cpuRel 1 ++ ["uevent"], "")]

/-- The normal profile creates the `online` node of the second one. -/
theorem normal_creates_online : ¬∀ (host : Host) (t : Tree) (ops : List Operation),
    existing (run (operate ℚ (LinuxBackend.withRoot host t)) ⟨.start t, -1⟩ ops).sysfs.tree
      = existing t := by
  intro h
  have hpaths := existing_eq_iff.mp (h .plain bareCpus [.profile .normal]) (onlineNode 1)
  revert hpaths
  decide +kernel

end WattWarden
