import WattWarden.Daemon.Runner
import WattWarden.Platform.Plans

/-!
# What a profile and a ladder step write, as plans

The plans of the setters put together in the order of the source.  A plan is made on a reference
tree `t`; what it takes from the tree of the moment, `now`, is the frequency limit in force, the
ASPM policies listed, and what `brightnessctl` decides to set.

* `valuesPlan` / `profilePlan` / `ladderPlan` — the plans;
* `Follows t f plan` — on every tree of the machine `t` the operation `f` makes the writes of
  `plan`, and they are safe; its rule for sequences is `Follows.seq`;
* `follows_applyProfile`, `applyLogicStep_eq` — **PROVED**: on every tree of the machine, a profile
  and a ladder step follow their plans.
-/

namespace WattWarden

open Library.FileTree Library.Journaling Library.Floats Library.Numerals

/-- The tree a plan leaves. -/
def afterPlan (now : Tree) (ws : List (Write Actor)) : Tree := ((Journal.start now).writeAll ws).tree

theorem afterPlan_tree (s : SysfsRoot) (ws : List (Write Actor)) :
    afterPlan s.tree ws = (s.writeAll ws).tree := by
  have hfold : ∀ (ws : List (Write Actor)) (s₁ s₂ : SysfsRoot), s₁.tree = s₂.tree →
      (s₁.writeAll ws).tree = (s₂.writeAll ws).tree := by
    intro ws
    induction ws with
    | nil => exact fun _ _ h => h
    | cons w ws ih =>
      intro s₁ s₂ h
      apply ih
      rw [Journal.tree_write, Journal.tree_write, h]
  exact hfold ws _ _ rfl

theorem afterPlan_append (now : Tree) (ws ws' : List (Write Actor)) :
    afterPlan (afterPlan now ws) ws' = afterPlan now (ws ++ ws') := by
  have h := afterPlan_tree ((Journal.start now).writeAll ws) ws'
  rwa [← Journal.writeAll_append] at h

/-- On every tree of the machine `t`, the operation `f` makes the writes of `plan`, safe ones. -/
structure Follows (t : Tree) (f : SysfsRoot → SysfsRoot) (plan : Tree → List (Write Actor)) :
    Prop where
  eq : ∀ s, SameMachine t s.tree → f s = s.writeAll (plan s.tree)
  safe : ∀ now, ∀ w ∈ plan now, SafeWrite t w

namespace Follows

variable {t : Tree} {f g : SysfsRoot → SysfsRoot} {p q : Tree → List (Write Actor)}

/-- Doing nothing. -/
theorem skip (t : Tree) : Follows t (fun s => s) fun _ => [] := ⟨fun _ _ => rfl, by simp⟩

/-- **Sequencing.**  The second plan is made on the tree the first one leaves. -/
theorem seq (hf : Follows t f p) (hg : Follows t g q) :
    Follows t (fun s => g (f s)) fun now => p now ++ q (afterPlan now (p now)) where
  eq s hs := by
    have hmid := hs.writeAll (hf.safe s.tree)
    rw [hf.eq s hs, hg.eq _ hmid, Journal.writeAll_append, afterPlan_tree]
  safe now := safe_append (hf.safe now) (hg.safe _)

/-- An operation that only runs under a condition known beforehand. -/
theorem ite (c : Prop) [Decidable c] (hf : Follows t f p) :
    Follows t (fun s => if c then f s else s) fun now => if c then p now else [] := by
  by_cases hc : c
  · simpa only [hc, if_true] using hf
  · simpa only [hc, if_false] using skip t

end Follows

section Profile

variable (b : LinuxBackend) (t : Tree) (v : ProfileValues)

/-- The frequency limit of a profile. -/
def pickedFreqPlan : List (Write Actor) :=
  match b.cpu.discoveredFreqBounds t with
  | some bounds => freqPlan b.cpu t (v.pick bounds)
  | none => []

/-- The cores, the frequency limit, turbo and EPP of a profile. -/
def cpuPlan (now : Tree) : List (Write Actor) :=
  coresPlan b.cpu t (LinuxCpuGovernor.freqLimit now) (v.cores b.cpu) ++ pickedFreqPlan b t v ++
    turboPlan t v.turbo ++ eppPlan b.cpu t v.epp

/-- One constraint of a profile or a ladder step, at a value picked from its range. -/
def constraintPlan (name : String) (pick : ℕ × ℕ → ℕ) (rapl : LinuxRapl) : List (Write Actor) :=
  match rapl.boundsOf t name with
  | some bounds => raplPlan rapl t name (pick bounds)
  | none => []

/-- Both package limits. -/
def packagePlan (pick : ℕ × ℕ → ℕ) : List (Write Actor) :=
  b.rapl.elim [] fun rapl =>
    constraintPlan t longTerm pick rapl ++ constraintPlan t shortTerm pick rapl

/-- The GPU limit. -/
def graphicsPlan (pick : ℕ × ℕ → ℕ) : List (Write Actor) :=
  b.gpu.elim [] fun gpu =>
    match gpu.discoveredGpuBounds t with
    | some bounds => gpuPlan gpu t (pick bounds)
    | none => []

/-- The hardware part of a profile. -/
def hardwarePlan (now : Tree) : List (Write Actor) :=
  cpuPlan b t v now ++ packagePlan b t v.pick ++ graphicsPlan b t v.pick

/-- ASPM, when there is a controller. -/
def policyPlan (now : Tree) (policy : String) : List (Write Actor) :=
  if b.aspm.isSome then aspmPlan now policy else []

/-- The panels, when there is a controller, and then what the external tool sets. -/
def brightnessPlan (now : Tree) (percent : ℕ) : List (Write Actor) :=
  if b.backlight.isSome then
    let panels := panelPlan t (clamp 1 100 percent)
    panels ++ toolPlan b.brightnessctl (afterPlan now panels) (clamp 1 100 percent)
  else []

/-- What a profile does last: the keyboard light if it is to go off, and the tweaks. -/
def restPlan : List (Write Actor) :=
  (if v.kbdOff then kbdPlan t else []) ++ wifiPlan t v.powerSave ++
    tweaksPlan t v.powerSave v.watchdog v.writebackSeconds

/-- `apply_profile` at given values. -/
def valuesPlan (now : Tree) : List (Write Actor) :=
  let hardware := hardwarePlan b t v now
  let policy := policyPlan b (afterPlan now hardware) v.aspm
  let brightness := brightnessPlan b t (afterPlan now (hardware ++ policy)) v.brightness
  hardware ++ policy ++ brightness ++ restPlan t v

end Profile

/-- `apply_profile`. -/
def profilePlan (b : LinuxBackend) (t now : Tree) : PowerProfile → List (Write Actor)
  | .performance => valuesPlan b t LinuxBackend.performanceValues now
  | .extreme => valuesPlan b t LinuxBackend.extremeValues now
  | .normal => valuesPlan b t LinuxBackend.normalValues now
  | .autoExtreme => eppPlan b.cpu t "balance_power"

/-! ### Profiles follow their plans -/

section Follow

variable {t : Tree} (b : LinuxBackend) (v : ProfileValues)

/-- The limit of a setter gated on a discovered range. -/
theorem follows_freq (mhz : ℕ) :
    Follows t (fun s => b.cpu.setFreqLimit s mhz) fun _ => freqPlan b.cpu t mhz :=
  ⟨fun _ hs => setFreqLimit_eq b.cpu hs mhz, fun _ => freqPlan_safe b.cpu mhz⟩

theorem follows_pickedFreq :
    Follows t (fun s => match b.cpu.discoveredFreqBounds s.tree with
        | some bounds => b.cpu.setFreqLimit s (v.pick bounds)
        | none => s)
      fun _ => pickedFreqPlan b t v where
  eq s hs := by
    rw [discoveredFreqBounds_congr b.cpu hs.ranges, pickedFreqPlan]
    cases b.cpu.discoveredFreqBounds t with
    | none => rfl
    | some bounds => exact setFreqLimit_eq b.cpu hs _
  safe _ := by
    rw [pickedFreqPlan]
    split
    · exact freqPlan_safe b.cpu _
    · simp

theorem follows_cores (count : ℕ) :
    Follows t (fun s => b.cpu.setOnlineCores s count)
      fun now => coresPlan b.cpu t (LinuxCpuGovernor.freqLimit now) count :=
  ⟨fun _ hs => setOnlineCores_eq b.cpu hs count, fun _ => coresPlan_safe b.cpu _ count⟩

theorem follows_turbo (enabled : Bool) :
    Follows t (fun s => LinuxCpuGovernor.setTurboEnabled s enabled) fun _ => turboPlan t enabled :=
  ⟨fun _ hs => setTurboEnabled_eq hs enabled, fun _ => turboPlan_safe enabled⟩

theorem follows_epp (pref : String) :
    Follows t (fun s => b.cpu.setEnergyPerformancePreference s pref)
      fun _ => eppPlan b.cpu t pref :=
  ⟨fun _ hs => setEpp_eq b.cpu hs pref, fun _ => eppPlan_safe b.cpu pref⟩

theorem follows_applyCpu : Follows t (b.applyCpu v) (cpuPlan b t v) :=
  (((follows_cores b (v.cores b.cpu)).seq (follows_pickedFreq b v)).seq
    (follows_turbo v.turbo)).seq (follows_epp b v.epp)

theorem follows_constraint (rapl : LinuxRapl) (name : String) (pick : ℕ × ℕ → ℕ) :
    Follows t (fun s => match rapl.boundsOf s.tree name with
        | some bounds => (rapl.writeConstraint s name (pick bounds)).1
        | none => s)
      fun _ => constraintPlan t name pick rapl where
  eq s hs := by
    rw [boundsOf_congr rapl hs.ranges, constraintPlan]
    cases rapl.boundsOf t name with
    | none => rfl
    | some bounds => exact writeConstraint_eq hs rapl name _
  safe _ := by
    rw [constraintPlan]
    split
    · exact raplPlan_safe rapl name _
    · simp

theorem follows_package (pick : ℕ × ℕ → ℕ) (rapl : LinuxRapl) :
    Follows t (fun s =>
        let s := match rapl.boundsOf s.tree longTerm with
          | some bounds => (rapl.writeConstraint s longTerm (pick bounds)).1
          | none => s
        match rapl.boundsOf s.tree shortTerm with
        | some bounds => (rapl.writeConstraint s shortTerm (pick bounds)).1
        | none => s)
      fun _ => constraintPlan t longTerm pick rapl ++ constraintPlan t shortTerm pick rapl :=
  (follows_constraint rapl longTerm pick).seq (follows_constraint rapl shortTerm pick)

theorem follows_applyRapl : Follows t (b.applyRapl v) fun _ => packagePlan b t v.pick where
  eq s hs := by
    rw [LinuxBackend.applyRapl, packagePlan]
    cases b.rapl with
    | none => rfl
    | some rapl => exact (follows_package v.pick rapl).eq s hs
  safe now := by
    rw [packagePlan]
    cases b.rapl with
    | none => simp
    | some rapl => exact (follows_package v.pick rapl).safe now

theorem follows_applyGpu : Follows t (b.applyGpu v) fun _ => graphicsPlan b t v.pick where
  eq s hs := by
    rw [LinuxBackend.applyGpu, graphicsPlan]
    cases b.gpu with
    | none => rfl
    | some gpu =>
      dsimp only
      rw [discoveredGpuBounds_congr gpu hs.ranges]
      cases hbounds : gpu.discoveredGpuBounds t with
      | none => simp [hbounds]
      | some bounds => simpa [hbounds] using setGpuFreq_eq hs gpu (v.pick bounds)
  safe _ := by
    rw [graphicsPlan]
    cases b.gpu with
    | none => simp
    | some gpu =>
      rw [Option.elim_some]
      split
      · exact gpuPlan_safe gpu _
      · simp

theorem follows_hardware :
    Follows t (fun s => b.applyGpu v (b.applyRapl v (b.applyCpu v s))) (hardwarePlan b t v) :=
  ((follows_applyCpu b v).seq (follows_applyRapl b v)).seq (follows_applyGpu b v)

/-- The machine has a policy node if the backend has an ASPM controller. -/
def HasPolicyNode (b : LinuxBackend) (t : Tree) : Prop :=
  b.aspm.isSome = true → t.pathExists aspmPolicyPath = true

variable {b}

theorem follows_policy (hpolicy : HasPolicyNode b t) (policy : String) :
    Follows t (fun s => if b.aspm.isSome then LinuxAspm.setAspmPolicy s policy else s)
      fun now => policyPlan b now policy where
  eq s _ := by
    rw [policyPlan]
    split
    · exact setAspmPolicy_eq s policy
    · rfl
  safe now := by
    rw [policyPlan]
    split
    · rename_i haspm
      exact aspmPlan_safe (hpolicy haspm) now policy
    · simp

variable (b)

theorem follows_brightness (percent : ℕ) :
    Follows t (fun s => if b.backlight.isSome then
        LinuxBacklight.setBrightnessPercent b.brightnessctl s percent else s)
      fun now => brightnessPlan b t now percent where
  eq s hs := by
    rw [brightnessPlan]
    split
    · rw [setBrightnessPercent_eq hs b.brightnessctl percent, Journal.writeAll_append,
        afterPlan_tree]
    · rfl
  safe now := by
    rw [brightnessPlan]
    split
    · exact safe_append (panelPlan_safe _) (toolPlan_safe _ _ _)
    · simp

theorem follows_kbd : Follows t (fun s => setKbdBacklight s false) fun _ => kbdPlan t :=
  ⟨fun _ hs => setKbdBacklight_eq hs, fun _ => kbdPlan_safe⟩

theorem follows_wifi (enabled : Bool) :
    Follows t (fun s => Tweaks.setWifiPowerSave s enabled) fun _ => wifiPlan t enabled :=
  ⟨fun _ hs => setWifiPowerSave_eq hs enabled, fun _ => wifiPlan_safe enabled⟩

theorem follows_tweaks (powerSave watchdog : Bool) (seconds : ℕ) :
    Follows t (fun s => setTweaks s powerSave watchdog seconds)
      fun _ => tweaksPlan t powerSave watchdog seconds :=
  ⟨fun _ hs => setTweaks_eq hs powerSave watchdog seconds,
    fun _ => tweaksPlan_safe powerSave watchdog seconds⟩

variable {b}

/-- **A profile at given values follows its plan.** -/
theorem follows_applyValues (hpolicy : HasPolicyNode b t) :
    Follows t (b.applyValues v) (valuesPlan b t v) := by
  have hkbd := Follows.ite (v.kbdOff = true) (follows_kbd (t := t))
  have hrest := (hkbd.seq (follows_wifi v.powerSave)).seq
    (follows_tweaks v.powerSave v.watchdog v.writebackSeconds)
  have hall := (((follows_hardware b v).seq (follows_policy hpolicy v.aspm)).seq
    (follows_brightness b v.brightness)).seq hrest
  constructor
  · intro s hs
    rw [LinuxBackend.applyValues, valuesPlan]
    exact hall.eq s hs
  · intro now
    rw [valuesPlan]
    exact hall.safe now

/-- **A profile follows its plan.** -/
theorem follows_applyProfile (hpolicy : HasPolicyNode b t) (p : PowerProfile) :
    Follows t (fun s => b.applyProfile s p) fun now => profilePlan b t now p := by
  cases p with
  | performance => exact follows_applyValues _ hpolicy
  | extreme => exact follows_applyValues _ hpolicy
  | normal => exact follows_applyValues _ hpolicy
  | autoExtreme => exact follows_epp b "balance_power"

end Follow

/-! ### The ladder -/

section Ladder

variable {F : Type} [FloatLike F] (b : LinuxBackend) (t : Tree)

/-- What a ladder step scales into a range of watts. -/
def scalePick (targets : LadderTargets F) (range : ℕ × ℕ) : ℕ :=
  scaleWithin range.1 range.2 targets.ceiling targets.discretePower

/-- The GPU limit of a ladder step. -/
def ladderGpuPlan (mhz : ℕ) : List (Write Actor) := b.gpu.elim [] fun gpu => gpuPlan gpu t mhz

/-- The hardware part of a ladder step. -/
def limitsPlan (targets : LadderTargets F) (now : Tree) : List (Write Actor) :=
  let package := packagePlan b t (scalePick targets)
  package ++
    coresPlan b.cpu t (LinuxCpuGovernor.freqLimit (afterPlan now package)) targets.cores ++
    freqPlan b.cpu t targets.freq ++ ladderGpuPlan b t targets.gpu ++ eppPlan b.cpu t targets.epp ++
    turboPlan t targets.turbo

/-- The peripherals of a ladder step on battery power. -/
def batteryPlan (now : Tree) : List (Write Actor) :=
  policyPlan b now "powersave" ++ wifiPlan t true ++ kbdPlan t ++ tweaksPlan t true false 60

/-- A ladder step with the ladder on. -/
def ladderPlan (F : Type) [FloatLike F] (now : Tree) (level : AutoExtremeLevel) :
    List (Write Actor) :=
  let limits := limitsPlan b t (ladderTargets F b now level) now
  limits ++ if !b.battery.isCharging now then batteryPlan b t (afterPlan now limits) else []

variable {t}

theorem follows_ladderRapl (targets : LadderTargets F) :
    Follows t (fun s => (ladderRapl b targets.ceiling targets.discretePower s).1)
      fun _ => packagePlan b t (scalePick targets) where
  eq s hs := by
    rw [packagePlan]
    cases hrapl : b.rapl with
    | none => simp [ladderRapl, hrapl]
    | some rapl =>
      have hpl1 : ∀ s, (ladderPl1 rapl targets.ceiling targets.discretePower s).1
          = match rapl.boundsOf s.tree longTerm with
            | some bounds => (rapl.writeConstraint s longTerm (scalePick targets bounds)).1
            | none => s := by
        intro s
        rw [ladderPl1, LinuxRapl.pl1BoundsWatts]
        cases rapl.boundsOf s.tree longTerm <;> rfl
      have hpl2 : ∀ s, ladderPl2 rapl targets.ceiling targets.discretePower s
          = match rapl.boundsOf s.tree shortTerm with
            | some bounds => (rapl.writeConstraint s shortTerm (scalePick targets bounds)).1
            | none => s := by
        intro s
        rw [ladderPl2, LinuxRapl.pl2BoundsWatts]
        cases rapl.boundsOf s.tree shortTerm <;> rfl
      have hpackage := (follows_package (t := t) (scalePick targets) rapl).eq s hs
      rw [ladderRapl, hrapl, Option.elim_some, ← hpackage]
      dsimp only
      rw [hpl1, hpl2]
  safe now := by
    rw [packagePlan]
    cases b.rapl with
    | none => simp
    | some rapl => exact (follows_package (scalePick targets) rapl).safe now

theorem follows_ladderGpu (mhz : ℕ) :
    Follows t (fun s => b.gpu.elim s fun gpu => gpu.setGpuFreq s mhz)
      fun _ => ladderGpuPlan b t mhz where
  eq s hs := by
    rw [ladderGpuPlan]
    cases b.gpu with
    | none => rfl
    | some gpu => exact setGpuFreq_eq hs gpu mhz
  safe _ := by
    rw [ladderGpuPlan]
    cases b.gpu with
    | none => simp
    | some gpu => exact gpuPlan_safe gpu mhz

theorem follows_limits (targets : LadderTargets F) :
    Follows t (fun s => ladderLimits b targets
        (ladderRapl b targets.ceiling targets.discretePower s).1)
      (limitsPlan b t targets) :=
  (((((follows_ladderRapl b targets).seq (follows_cores b targets.cores)).seq
    (follows_freq b targets.freq)).seq (follows_ladderGpu b targets.gpu)).seq
    (follows_epp b targets.epp)).seq (follows_turbo targets.turbo)

variable {b}

theorem follows_battery (hpolicy : HasPolicyNode b t) :
    Follows t (ladderPeripherals b) (batteryPlan b t) := by
  have hall := (((follows_policy hpolicy "powersave").seq (follows_wifi true)).seq follows_kbd).seq
    (follows_tweaks true false 60)
  exact hall

/-- **A ladder step follows its plan.** -/
theorem applyLogicStep_eq (hpolicy : HasPolicyNode b t) {s : SysfsRoot}
    (hs : SameMachine t s.tree) {config : Config} (h : config.autoExtremeEnabled = true) :
    (applyLogicStep F b s config).1
      = s.writeAll (ladderPlan b t F s.tree config.autoExtremeLevel) := by
  have hlimits := follows_limits (t := t) b (ladderTargets F b s.tree config.autoExtremeLevel)
  rw [applyLogicStep_sysfs b s h, ladderPlan]
  split
  · exact (hlimits.seq (follows_battery hpolicy)).eq s hs
  · rw [List.append_nil]
    exact hlimits.eq s hs

theorem ladderPlan_safe (hpolicy : HasPolicyNode b t) (now : Tree) (level : AutoExtremeLevel) :
    ∀ w ∈ ladderPlan b t F now level, SafeWrite t w := by
  rw [ladderPlan]
  apply safe_append ((follows_limits b _).safe now)
  split
  · exact (follows_battery hpolicy).safe _
  · simp

end Ladder

end WattWarden
