import WattWarden.Daemon.Plans

/-!
# Which nodes a profile and a ladder step write

The values a profile or a ladder step drives the hardware to decide what is written, never where.
So every profile but AutoExtreme writes the same hardware nodes, and a ladder step writes the same
ones again.

* `written_epp` — **PROVED**: whether preferences and governors can be resolved depends on what the
  machine advertises, not on which known preference is asked for;
* `written_hardware_subset`, `written_limits_subset` — **PROVED**: a profile's hardware nodes cover
  those of any other profile and of any ladder step;
* `planned_hardware` — **PROVED**: what a profile leaves in a hardware node does not depend on the
  frequency limit it found;
* `isHardware_of_written`, `tweakNode_of_written`, … — **PROVED**: in which part of the tree each
  piece of a profile writes.
-/

namespace WattWarden

open Library.FileTree Library.Journaling Library.Floats Library.Numerals

section WriteSets

variable {t : Tree}

@[simp] theorem written_existing (t : Tree) (p : Path) (v : String) :
    written (existingPlan t p v) = if t.pathExists p then [p] else [] := by
  rw [existingPlan]
  split <;> rfl

/-! ### CPU -/

theorem written_online (cpu : LinuxCpuGovernor) (n n' : ℕ) :
    written (onlinePlan cpu n) = written (onlinePlan cpu n') := by
  simp [written, onlinePlan, Function.comp_def]

theorem written_freq (cpu : LinuxCpuGovernor) (mhz mhz' : ℕ) :
    written (freqPlan cpu t mhz) = written (freqPlan cpu t mhz') := by
  have hscaling : ∀ lo hi id, written (scalingPlan t lo hi id) =
      if t.pathExists (cpufreqDir id) then
        [cpufreqNode id "scaling_min_freq", cpufreqNode id "scaling_max_freq"] else [] := by
    intro lo hi id
    rw [scalingPlan]
    split <;> rfl
  rw [freqPlan, freqPlan]
  cases cpu.discoveredFreqBounds t with
  | none => rfl
  | some bounds => simp only [written_flatMap, hscaling]

theorem written_pickedFreq (b : LinuxBackend) (v : ProfileValues) (mhz : ℕ) :
    written (pickedFreqPlan b t v) = written (freqPlan b.cpu t mhz) := by
  rw [pickedFreqPlan]
  cases hbounds : b.cpu.discoveredFreqBounds t with
  | none => simp [freqPlan, hbounds]
  | some bounds => exact written_freq b.cpu _ _

theorem written_cores_subset (cpu : LinuxCpuGovernor) (limit count n mhz : ℕ) :
    written (coresPlan cpu t limit count)
      ⊆ written (onlinePlan cpu n) ++ written (freqPlan cpu t mhz) := by
  rw [coresPlan, written_append, written_online cpu _ n]
  split
  · rw [written_freq cpu limit mhz]
    exact List.Subset.refl _
  · rw [written_nil, List.append_nil]
    exact List.subset_append_left _ _

theorem written_turbo (enabled enabled' : Bool) :
    written (turboPlan t enabled) = written (turboPlan t enabled') := by
  rw [turboPlan, turboPlan]
  split
  · rfl
  · rw [written_existing, written_existing]

theorem written_leaves (cpu : LinuxCpuGovernor) (name value value' : String) :
    written (leavesPlan cpu t name value) = written (leavesPlan cpu t name value') := by
  simp only [leavesPlan, written_flatMap, written_existing]

/-- No preference is advertised, or a known one is. -/
def EppResolvable (t : Tree) : Prop :=
  availableEpp t = [] ∨ ∃ a ∈ availableEpp t, (eppRank a).isSome = true

theorem resolveEpp_isSome {pref : String} (h : pref ∈ eppOrder) :
    (resolveEpp t pref).isSome = true ↔ EppResolvable t := by
  have hrank : ∀ pref ∈ eppOrder, (eppRank pref).isSome = true := by decide
  obtain ⟨r, hr⟩ := Option.isSome_iff_exists.mp (hrank pref h)
  rw [resolveEpp, EppResolvable]
  by_cases hdirect : (availableEpp t).isEmpty ∨ pref ∈ availableEpp t
  · rw [if_pos hdirect]
    refine iff_of_true rfl ?_
    rcases hdirect with hempty | hmem
    · exact .inl (List.isEmpty_iff.mp hempty)
    · exact .inr ⟨pref, hmem, hrank pref h⟩
  · have hne : availableEpp t ≠ [] := fun hnil => hdirect (.inl (List.isEmpty_iff.mpr hnil))
    rw [if_neg hdirect, hr, Option.bind_some, Option.isSome_map, Option.isSome_iff_ne_none, ne_eq,
      List.argmin_eq_none, List.filterMap_eq_nil_iff, or_iff_right hne]
    push Not
    refine exists_congr fun a => and_congr_right fun _ => ?_
    rw [Option.isSome_iff_ne_none, ne_eq, ne_eq, Option.map_eq_none_iff]

/-- No governor is advertised, or one the program falls back to is. -/
def GovernorResolvable (t : Tree) : Prop :=
  availableGovernors t = [] ∨
    ∃ g ∈ ["powersave", "performance", "schedutil", "ondemand"], g ∈ availableGovernors t

theorem resolveGovernor_isSome {gov : String} (h : gov ∈ ["powersave", "performance"]) :
    (resolveGovernor t gov).isSome = true ↔ GovernorResolvable t := by
  have hfall : gov ∈ ["powersave", "performance", "schedutil", "ondemand"] := by
    simp only [List.mem_cons, List.not_mem_nil, or_false] at h ⊢
    tauto
  rw [resolveGovernor, GovernorResolvable]
  by_cases hdirect : (availableGovernors t).isEmpty ∨ gov ∈ availableGovernors t
  · rw [if_pos hdirect]
    refine iff_of_true rfl ?_
    rcases hdirect with hempty | hmem
    · exact .inl (List.isEmpty_iff.mp hempty)
    · exact .inr ⟨gov, hfall, hmem⟩
  · have hne : availableGovernors t ≠ [] := fun hnil => hdirect (.inl (List.isEmpty_iff.mpr hnil))
    rw [if_neg hdirect, or_iff_right hne, List.find?_isSome]
    simp only [decide_eq_true_eq]

/-- **Where EPP and governor are written** is the same for every known preference. -/
theorem written_epp (cpu : LinuxCpuGovernor) {pref pref' : String} (h : pref ∈ eppOrder)
    (h' : pref' ∈ eppOrder) :
    written (eppPlan cpu t pref) = written (eppPlan cpu t pref') := by
  have hgov : ∀ epp epp' : String,
      (resolveGovernor t (if epp = "performance" then "performance" else "powersave")).isSome = true
      ↔ (resolveGovernor t (if epp' = "performance" then "performance" else "powersave")).isSome
        = true := by
    have hmem : ∀ epp : String, (if epp = "performance" then "performance" else "powersave")
        ∈ ["powersave", "performance"] := by
      intro epp
      split <;> simp
    intro epp epp'
    rw [resolveGovernor_isSome (hmem epp), resolveGovernor_isSome (hmem epp')]
  have hsame := (resolveEpp_isSome (t := t) h).trans (resolveEpp_isSome h').symm
  rw [eppPlan, eppPlan]
  revert hsame
  cases resolveEpp t pref with
  | none => cases resolveEpp t pref' <;> simp
  | some epp =>
    cases resolveEpp t pref' with
    | none => simp
    | some epp' =>
      intro _
      have hboth := hgov epp epp'
      dsimp only
      rw [written_append, written_append,
        written_leaves cpu "energy_performance_preference" epp epp']
      congr 1
      split
      · rename_i hnone
        rw [hnone] at hboth
        split
        · rfl
        · rename_i gov' hsome
          rw [hsome] at hboth
          exact absurd (hboth.mpr rfl) Bool.false_ne_true
      · rename_i gov hsome
        rw [hsome] at hboth
        split
        · rename_i hnone
          rw [hnone] at hboth
          exact absurd (hboth.mp rfl) Bool.false_ne_true
        · exact written_leaves cpu "scaling_governor" _ _

/-! ### RAPL and GPU -/

theorem written_rapl (rapl : LinuxRapl) (name : String) (watts watts' : ℕ) :
    written (raplPlan rapl t name watts) = written (raplPlan rapl t name watts') := by
  have hzone : ∀ zone, written (zonePlan t name watts zone)
      = written (zonePlan t name watts' zone) := by
    intro zone
    rw [zonePlan, zonePlan]
    cases constraintIndexIn t zone name with
    | none => rfl
    | some i =>
      dsimp only
      cases constraintBoundsWattsIn t zone i with
      | none => rfl
      | some bounds => simp
  simp only [raplPlan, written_flatMap, hzone]

theorem written_package (b : LinuxBackend) (pick pick' : ℕ × ℕ → ℕ) :
    written (packagePlan b t pick) = written (packagePlan b t pick') := by
  have hconstraint : ∀ rapl name, written (constraintPlan t name pick rapl)
      = written (constraintPlan t name pick' rapl) := by
    intro rapl name
    rw [constraintPlan, constraintPlan]
    cases rapl.boundsOf t name with
    | none => rfl
    | some bounds => exact written_rapl rapl name _ _
  rw [packagePlan, packagePlan]
  cases b.rapl with
  | none => rw [Option.elim_none, Option.elim_none]
  | some rapl =>
    rw [Option.elim_some, Option.elim_some, written_append, written_append,
      hconstraint rapl longTerm, hconstraint rapl shortTerm]

theorem written_gpu (gpu : LinuxGpu) (mhz mhz' : ℕ) :
    written (gpuPlan gpu t mhz) = written (gpuPlan gpu t mhz') := by
  rw [gpuPlan, gpuPlan]
  cases gpu.discoveredGpuBounds t with
  | none => rfl
  | some bounds => simp

theorem written_graphics (b : LinuxBackend) (pick : ℕ × ℕ → ℕ) (mhz : ℕ) :
    written (graphicsPlan b t pick) = written (ladderGpuPlan b t mhz) := by
  rw [graphicsPlan, ladderGpuPlan]
  cases b.gpu with
  | none => rfl
  | some gpu =>
    rw [Option.elim_some, Option.elim_some]
    cases hbounds : gpu.discoveredGpuBounds t with
    | none => simp [gpuPlan, hbounds]
    | some bounds => exact written_gpu gpu _ _

/-! ### The hardware part of profiles and ladder steps -/

/-- Every preference a ladder step asks for is a known one. -/
theorem eppTarget_mem {F : Type} [FloatLike F] (level : AutoExtremeLevel) (discretePower : F) :
    eppTarget level discretePower ∈ eppOrder := by
  cases level with
  | high => exact (by decide : "power" ∈ eppOrder)
  | medium => exact (by decide : "power" ∈ eppOrder)
  | low =>
    rw [eppTarget]
    split <;> decide

/-- **A profile covers the ladder.** -/
theorem written_limits_subset {F : Type} [FloatLike F] (b : LinuxBackend) {v : ProfileValues}
    {targets : LadderTargets F} (hv : v.epp ∈ eppOrder) (htargets : targets.epp ∈ eppOrder)
    (now now' : Tree) :
    written (limitsPlan b t targets now) ⊆ written (hardwarePlan b t v now') := by
  have hcores := written_cores_subset (t := t) b.cpu
    (LinuxCpuGovernor.freqLimit (afterPlan now (packagePlan b t (scalePick targets))))
    targets.cores (clamp 1 b.cpu.numCpus (v.cores b.cpu)) targets.freq
  intro p hp
  have hcover : p ∈ written (coresPlan b.cpu t (LinuxCpuGovernor.freqLimit
      (afterPlan now (packagePlan b t (scalePick targets)))) targets.cores) →
      p ∈ written (onlinePlan b.cpu (clamp 1 b.cpu.numCpus (v.cores b.cpu))) ∨
        p ∈ written (freqPlan b.cpu t targets.freq) := fun hmem => List.mem_append.mp (hcores hmem)
  simp only [limitsPlan, written_append, List.mem_append] at hp
  simp only [hardwarePlan, cpuPlan, coresPlan, written_append, List.mem_append,
    written_pickedFreq b v targets.freq, written_turbo v.turbo targets.turbo,
    written_epp b.cpu hv htargets, written_package b v.pick (scalePick targets),
    written_graphics b v.pick targets.gpu]
  rcases hp with ((((hp | hp) | hp) | hp) | hp) | hp
  · exact .inl (.inr hp)
  · rcases hcover hp with hp | hp
    · exact .inl (.inl (.inl (.inl (.inl (.inl hp)))))
    · exact .inl (.inl (.inl (.inl (.inr hp))))
  · exact .inl (.inl (.inl (.inl (.inr hp))))
  · exact .inr hp
  · exact .inl (.inl (.inr hp))
  · exact .inl (.inl (.inl (.inr hp)))

/-- **A profile covers every other profile.** -/
theorem written_hardware_subset (b : LinuxBackend) {v v' : ProfileValues} (hv : v.epp ∈ eppOrder)
    (hv' : v'.epp ∈ eppOrder) (now now' : Tree) :
    written (hardwarePlan b t v' now) ⊆ written (hardwarePlan b t v now') := by
  have hcores := written_cores_subset (t := t) b.cpu (LinuxCpuGovernor.freqLimit now)
    (v'.cores b.cpu) (clamp 1 b.cpu.numCpus (v.cores b.cpu)) 0
  intro p hp
  have hcover : p ∈ written (coresPlan b.cpu t (LinuxCpuGovernor.freqLimit now) (v'.cores b.cpu)) →
      p ∈ written (onlinePlan b.cpu (clamp 1 b.cpu.numCpus (v.cores b.cpu))) ∨
        p ∈ written (freqPlan b.cpu t 0) := fun hmem => List.mem_append.mp (hcores hmem)
  simp only [hardwarePlan, cpuPlan, written_append, List.mem_append, written_pickedFreq b v' 0,
    written_graphics b v'.pick 0] at hp
  simp only [hardwarePlan, cpuPlan, coresPlan, written_append, List.mem_append,
    written_pickedFreq b v 0, written_turbo v.turbo v'.turbo, written_epp b.cpu hv hv',
    written_package b v.pick v'.pick, written_graphics b v.pick 0]
  rcases hp with ((((hp | hp) | hp) | hp) | hp) | hp
  · rcases hcover hp with hp | hp
    · exact .inl (.inl (.inl (.inl (.inl (.inl hp)))))
    · exact .inl (.inl (.inl (.inl (.inr hp))))
  · exact .inl (.inl (.inl (.inl (.inr hp))))
  · exact .inl (.inl (.inl (.inr hp)))
  · exact .inl (.inl (.inr hp))
  · exact .inl (.inr hp)
  · exact .inr hp

/-- So does any preference asked for alone. -/
theorem written_epp_subset (b : LinuxBackend) {v : ProfileValues} {pref : String}
    (hv : v.epp ∈ eppOrder) (h : pref ∈ eppOrder) (now : Tree) :
    written (eppPlan b.cpu t pref) ⊆ written (hardwarePlan b t v now) := by
  intro p hp
  rw [written_epp b.cpu h hv] at hp
  simp only [hardwarePlan, cpuPlan, written_append, List.mem_append]
  exact .inl (.inl (.inr hp))

/-- **The limit found does not matter.**  The frequency limit a profile writes again while it sets
the cores is overwritten by its own. -/
theorem planned_hardware (b : LinuxBackend) (v : ProfileValues) (now now' : Tree) (p : Path) :
    planned (hardwarePlan b t v now) p = planned (hardwarePlan b t v now') p := by
  have hcores : ∀ now : Tree,
      planned (coresPlan b.cpu t (LinuxCpuGovernor.freqLimit now) (v.cores b.cpu) ++
        pickedFreqPlan b t v) p
      = planned (onlinePlan b.cpu (clamp 1 b.cpu.numCpus (v.cores b.cpu)) ++
        pickedFreqPlan b t v) p := by
    intro now
    have hagain : written (if 0 < LinuxCpuGovernor.freqLimit now then
        freqPlan b.cpu t (LinuxCpuGovernor.freqLimit now) else []) ⊆
        written (pickedFreqPlan b t v) := by
      split
      · rw [written_pickedFreq b v (LinuxCpuGovernor.freqLimit now)]
        exact List.Subset.refl _
      · exact List.nil_subset _
    rw [coresPlan, List.append_assoc, planned_append, planned_append_of_subset hagain,
      ← planned_append]
  simp only [hardwarePlan, cpuPlan]
  rw [planned_append, planned_append, planned_append, planned_append, hcores now, planned_append _
    (graphicsPlan b t v.pick), planned_append _ (packagePlan b t v.pick), planned_append _
    (eppPlan b.cpu t v.epp), planned_append _ (turboPlan t v.turbo), hcores now']

/-! ### Where each piece writes -/

theorem mem_written_existing {p q : Path} {v : String} (h : q ∈ written (existingPlan t p v)) :
    q = p := by
  rw [written_existing] at h
  split at h
  · exact List.mem_singleton.mp h
  · cases h

section Hardware

variable {cpu : LinuxCpuGovernor} {b : LinuxBackend} {p : Path}

theorem cpu_of_written_online {n : ℕ} (h : p ∈ written (onlinePlan cpu n)) :
    subsystem p = .cpu := by
  obtain ⟨w, hw, rfl⟩ := mem_written.mp h
  obtain ⟨e, -, rfl⟩ := List.mem_map.mp hw
  rfl

theorem cpu_of_written_freq {mhz : ℕ} (h : p ∈ written (freqPlan cpu t mhz)) :
    subsystem p = .cpu := by
  obtain ⟨w, hw, rfl⟩ := mem_written.mp h
  rw [freqPlan] at hw
  split at hw
  · cases hw
  · obtain ⟨id, -, hw⟩ := List.mem_flatMap.mp hw
    rw [scalingPlan] at hw
    split at hw
    · rcases List.mem_pair.mp hw with rfl | rfl
      · rfl
      · rfl
    · cases hw

theorem cpu_of_written_cores {limit count : ℕ} (h : p ∈ written (coresPlan cpu t limit count)) :
    subsystem p = .cpu := by
  rw [coresPlan, written_append] at h
  rcases List.mem_append.mp h with h | h
  · exact cpu_of_written_online h
  · split at h
    · exact cpu_of_written_freq h
    · cases h

theorem cpu_of_written_turbo {enabled : Bool} (h : p ∈ written (turboPlan t enabled)) :
    subsystem p = .cpu := by
  rw [turboPlan] at h
  split at h
  · obtain rfl := List.mem_singleton.mp h
    rfl
  · rw [mem_written_existing h]
    rfl

theorem cpu_of_written_leaves {name value : String}
    (h : p ∈ written (leavesPlan cpu t name value)) : subsystem p = .cpu := by
  rw [leavesPlan, written_flatMap] at h
  obtain ⟨id, -, h⟩ := List.mem_flatMap.mp h
  rw [mem_written_existing h]
  rfl

theorem cpu_of_written_epp {pref : String} (h : p ∈ written (eppPlan cpu t pref)) :
    subsystem p = .cpu := by
  rw [eppPlan] at h
  split at h
  · cases h
  · rw [written_append] at h
    rcases List.mem_append.mp h with h | h
    · exact cpu_of_written_leaves h
    · split at h
      · cases h
      · exact cpu_of_written_leaves h

theorem powercap_of_written_rapl {rapl : LinuxRapl} {name : String} {watts : ℕ}
    (h : p ∈ written (raplPlan rapl t name watts)) : subsystem p = .powercap := by
  rw [raplPlan, written_flatMap] at h
  obtain ⟨zone, -, h⟩ := List.mem_flatMap.mp h
  rw [zonePlan] at h
  split at h
  · cases h
  · split at h
    · cases h
    · rw [mem_written_existing h]
      exact subsystem_constraintNode zone _ _

theorem powercap_of_written_package {pick : ℕ × ℕ → ℕ} (h : p ∈ written (packagePlan b t pick)) :
    subsystem p = .powercap := by
  have hconstraint : ∀ {rapl : LinuxRapl} {name : String},
      p ∈ written (constraintPlan t name pick rapl) → subsystem p = .powercap := by
    intro rapl name h
    rw [constraintPlan] at h
    split at h
    · exact powercap_of_written_rapl h
    · cases h
  rw [packagePlan] at h
  cases hrapl : b.rapl with
  | none =>
    rw [hrapl] at h
    cases h
  | some rapl =>
    rw [hrapl, Option.elim_some, written_append] at h
    rcases List.mem_append.mp h with h | h
    · exact hconstraint h
    · exact hconstraint h

theorem drm_of_written_gpu {mhz : ℕ} (h : p ∈ written (ladderGpuPlan b t mhz)) :
    subsystem p = .drm := by
  rw [ladderGpuPlan] at h
  cases hgpu : b.gpu with
  | none =>
    rw [hgpu] at h
    cases h
  | some gpu =>
    rw [hgpu, Option.elim_some, gpuPlan] at h
    split at h
    · cases h
    · rw [written_append] at h
      rcases List.mem_append.mp h with h | h
      · rw [mem_written_existing h]
        exact subsystem_gpuNode gpu _
      · rw [mem_written_existing h]
        exact subsystem_gpuNode gpu _

/-- The hardware part of a profile writes hardware nodes. -/
theorem isHardware_of_written {v : ProfileValues} {now : Tree}
    (h : p ∈ written (hardwarePlan b t v now)) : IsHardware p := by
  simp only [hardwarePlan, cpuPlan, written_append, List.mem_append, written_pickedFreq b v 0,
    written_graphics b v.pick 0] at h
  have hcpu : subsystem p = .cpu → IsHardware p := fun hsub => by simp [IsHardware, hsub]
  rcases h with ((((hcores | hfreq) | hturbo) | hepp) | hpackage) | hgraphics
  · exact hcpu (cpu_of_written_cores hcores)
  · exact hcpu (cpu_of_written_freq hfreq)
  · exact hcpu (cpu_of_written_turbo hturbo)
  · exact hcpu (cpu_of_written_epp hepp)
  · simp [IsHardware, powercap_of_written_package hpackage]
  · simp [IsHardware, drm_of_written_gpu hgraphics]

end Hardware

/-- The policy is written to its one node, by a controller. -/
theorem policy_of_written {b : LinuxBackend} {now : Tree} {policy : String} {p : Path}
    (h : p ∈ written (policyPlan b now policy)) :
    b.aspm.isSome = true ∧ p = aspmPolicyPath := by
  rw [policyPlan] at h
  split at h
  · rename_i haspm
    obtain ⟨w, hw, rfl⟩ := mem_written.mp h
    obtain ⟨v, -, rfl⟩ := List.mem_map.mp hw
    exact ⟨haspm, rfl⟩
  · cases h

theorem written_panels (p p' : ℕ) : written (panelPlan t p) = written (panelPlan t p') := by
  have hdevice : ∀ (p : ℕ) (device : String),
      written (if 0 < LinuxBacklight.maxBrightness t device then
        [put (backlightNode device "brightness")
          (toString ((wrapI64 (p * LinuxBacklight.maxBrightness t device)).tdiv 100))] else [])
      = if 0 < LinuxBacklight.maxBrightness t device then
        [backlightNode device "brightness"] else [] := by
    intro p device
    split <;> rfl
  simp only [panelPlan, written_flatMap, hdevice]

/-- Panels are set in their `brightness` node. -/
theorem panel_of_written {b : LinuxBackend} {now : Tree} {percent : ℕ} {p : Path}
    (h : p ∈ written (brightnessPlan b t now percent)) :
    ∃ device, p = backlightNode device "brightness" := by
  rw [brightnessPlan] at h
  split at h
  · obtain ⟨w, hw, rfl⟩ := mem_written.mp h
    rcases List.mem_append.mp hw with hw | hw
    · obtain ⟨device, -, hw⟩ := List.mem_flatMap.mp hw
      split at hw
      · exact ⟨device, by rw [List.mem_singleton.mp hw]; rfl⟩
      · cases hw
    · obtain ⟨e, -, hw⟩ := List.mem_flatMap.mp hw
      split at hw
      · exact ⟨e.1, by rw [List.mem_singleton.mp hw]⟩
      · cases hw
  · cases h

/-- Wi-Fi and the other tweaks. -/
def kernelPlan (t : Tree) (v : ProfileValues) : List (Write Actor) :=
  wifiPlan t v.powerSave ++ tweaksPlan t v.powerSave v.watchdog v.writebackSeconds

/-- The rest of a profile: the keyboard lights if they go off, and the tweaks. -/
theorem restPlan_eq (t : Tree) (v : ProfileValues) :
    restPlan t v = (if v.kbdOff then kbdPlan t else []) ++ kernelPlan t v := by
  rw [restPlan, kernelPlan, List.append_assoc]

theorem written_kernel (v v' : ProfileValues) :
    written (kernelPlan t v) = written (kernelPlan t v') := by
  simp only [kernelPlan, wifiPlan, tweaksPlan, written_append, written_flatMap, written_existing]

/-- The tweaks write their own nodes, and not the policy next to them. -/
theorem tweakNode_of_written {v : ProfileValues} {p : Path} (h : p ∈ written (kernelPlan t v)) :
    TweakNode p ∧ p ≠ aspmPolicyPath := by
  have hnode : ∀ p ∈ [iwlwifiPowerSave, sndHdaPowerSave, sndHdaPowerSaveController,
      nmiWatchdogPath, dirtyWriteback], TweakNode p ∧ p ≠ aspmPolicyPath := by
    intro p hp
    simp only [List.mem_cons, List.not_mem_nil, or_false] at hp
    rcases hp with rfl | rfl | rfl | rfl | rfl
    · exact ⟨by simp [TweakNode, subsystem, iwlwifiPowerSave], by decide⟩
    · exact ⟨by simp [TweakNode, subsystem, sndHdaPowerSave], by decide⟩
    · exact ⟨by simp [TweakNode, subsystem, sndHdaPowerSaveController], by decide⟩
    · exact ⟨by simp [TweakNode, subsystem, nmiWatchdogPath], by decide⟩
    · exact ⟨by simp [TweakNode, subsystem, dirtyWriteback], by decide⟩
  simp only [kernelPlan, wifiPlan, tweaksPlan, written_append, written_flatMap,
    List.mem_append] at h
  rcases h with hwifi | ((((haudio | hcontroller) | hcontrol) | hwatchdog) | hwriteback)
  · exact hnode p (by simp [mem_written_existing hwifi])
  · exact hnode p (by simp [mem_written_existing haudio])
  · exact hnode p (by simp [mem_written_existing hcontroller])
  · obtain ⟨q, hq, hp⟩ := List.mem_flatMap.mp hcontrol
    rw [mem_written_existing hp]
    refine ⟨tweakNode_control hq, ?_⟩
    simp only [Tweaks.controlNodes, List.mem_flatMap, List.mem_cons, List.not_mem_nil, or_false,
      List.mem_map] at hq
    obtain ⟨base, rfl | rfl, device, -, rfl⟩ := hq
    · simp [usbDevices, aspmPolicyPath]
    · simp [pciDevices, aspmPolicyPath]
  · exact hnode p (by simp [mem_written_existing hwatchdog])
  · exact hnode p (by simp [mem_written_existing hwriteback])

end WriteSets

/-! ### Policy and keyboard lights apart -/

/-- A node that neither the hardware part of a profile nor its panels and tweaks write: the policy's
and those of the keyboard lights are such. -/
structure Apart (p : Path) : Prop where
  not_hardware : ¬IsHardware p
  not_panel : ∀ device, p ≠ backlightNode device "brightness"
  not_tweak : ¬(TweakNode p ∧ p ≠ aspmPolicyPath)

theorem apart_policy : Apart aspmPolicyPath where
  not_hardware := by decide
  not_panel device := by simp [aspmPolicyPath, backlightNode, backlightBase]
  not_tweak h := h.2 rfl

theorem subsystem_ledNode (led name : String) : subsystem (ledNode led name) = .leds := rfl

theorem apart_led (led : String) : Apart (ledNode led "brightness") where
  not_hardware := by
    rw [IsHardware, subsystem_ledNode]
    decide
  not_panel device := by simp [ledNode, ledsBase, backlightNode, backlightBase]
  not_tweak h := by
    have htweak := h.1
    rw [TweakNode, subsystem_ledNode] at htweak
    revert htweak
    decide

theorem led_ne_policy (led name : String) : ledNode led name ≠ aspmPolicyPath := by
  simp [ledNode, ledsBase, aspmPolicyPath]

section Apart

variable {b : LinuxBackend} {t now : Tree} {v : ProfileValues} {p : Path} (hp : Apart p)

include hp in
theorem Apart.planned_hardware_eq_none : planned (hardwarePlan b t v now) p = none :=
  planned_eq_none_iff.mpr fun h => hp.not_hardware (isHardware_of_written h)

/-- The policies listed decide what is written to the policy node. -/
theorem policyPlan_congr {now' : Tree} (h : now'.content aspmPolicyPath
    = now.content aspmPolicyPath) (policy : String) :
    policyPlan b now' policy = policyPlan b now policy := by
  rw [policyPlan, policyPlan, aspmPlan, aspmPlan, resolvePolicy, resolvePolicy, availablePolicies,
    availablePolicies, SysfsRoot.read_congr h]

theorem planned_policy (b : LinuxBackend) (now : Tree) (policy : String) :
    planned (policyPlan b now policy) aspmPolicyPath
      = if b.aspm.isSome then resolvePolicy now policy else none := by
  rw [policyPlan]
  split
  · rw [aspmPlan]
    cases resolvePolicy now policy <;> rfl
  · rfl

/-- A keyboard light is written 0. -/
theorem planned_kbd {led : String} (h : led ∈ kbdLeds t) :
    planned (kbdPlan t) (ledNode led "brightness") = some "0" := by
  have hwrite : put (ledNode led "brightness") "0" ∈ kbdPlan t := List.mem_map.mpr ⟨led, h, rfl⟩
  obtain ⟨v, hv⟩ := Option.isSome_iff_exists.mp (planned_isSome.mpr ⟨_, hwrite, rfl⟩)
  obtain ⟨w, hw, -, rfl⟩ := planned_mem hv
  obtain ⟨led', -, rfl⟩ := List.mem_map.mp hw
  exact hv

/-- The hardware part of a profile leaves the listed policies alone. -/
theorem policyPlan_afterHardware (policy : String) :
    policyPlan b (afterPlan now (hardwarePlan b t v now)) policy = policyPlan b now policy := by
  apply policyPlan_congr
  rw [afterPlan, Journal.content_writeAll, apart_policy.planned_hardware_eq_none]
  rfl

include hp

theorem Apart.planned_brightness_eq_none {percent : ℕ} :
    planned (brightnessPlan b t now percent) p = none := by
  apply planned_eq_none_iff.mpr
  intro h
  obtain ⟨device, hdevice⟩ := panel_of_written h
  exact hp.not_panel device hdevice

theorem Apart.planned_kernel_eq_none : planned (kernelPlan t v) p = none :=
  planned_eq_none_iff.mpr fun h => hp.not_tweak (tweakNode_of_written h)

/-- **What a profile writes there**: the lights off, if it turns them off, or its policy. -/
theorem Apart.planned_values : planned (valuesPlan b t v now) p
    = (planned (if v.kbdOff then kbdPlan t else []) p).or (planned (policyPlan b now v.aspm) p) := by
  simp only [valuesPlan, restPlan_eq, planned_append, hp.planned_kernel_eq_none, Option.none_or,
    hp.planned_brightness_eq_none, hp.planned_hardware_eq_none, Option.or_none,
    policyPlan_afterHardware]

/-- **What a ladder step writes there**: on battery, the lights off or the policy `powersave`. -/
theorem Apart.planned_ladder {F : Type} [FloatLike F] {level : AutoExtremeLevel} :
    planned (ladderPlan b t F now level) p
      = if !b.battery.isCharging now then
          (planned (kbdPlan t) p).or (planned (policyPlan b now "powersave") p)
        else none := by
  let limits := limitsPlan b t (ladderTargets F b now level) now
  have hlimits : ∀ {q : Path}, Apart q → planned limits q = none := by
    intro q hq
    apply planned_eq_none_iff.mpr
    intro h
    have hcover : q ∈ written (hardwarePlan b t LinuxBackend.normalValues now) :=
      written_limits_subset b (by decide) (eppTarget_mem level _) now now h
    exact hq.not_hardware (isHardware_of_written hcover)
  have hsame : (afterPlan now limits).content aspmPolicyPath = now.content aspmPolicyPath := by
    rw [afterPlan, Journal.content_writeAll, hlimits apart_policy]
    rfl
  have htweaks : planned (wifiPlan t true) p = none ∧
      planned (tweaksPlan t true false 60) p = none := by
    have hkernel := hp.planned_kernel_eq_none (t := t) (v := LinuxBackend.extremeValues)
    rw [kernelPlan, planned_append, Option.or_eq_none_iff] at hkernel
    exact hkernel.symm
  have hplan : ladderPlan b t F now level = limits ++
      if !b.battery.isCharging now then batteryPlan b t (afterPlan now limits) else [] := rfl
  rw [hplan, planned_append, hlimits hp, Option.or_none]
  split
  · simp only [batteryPlan, planned_append, htweaks.1, htweaks.2, Option.none_or,
      policyPlan_congr hsame]
  · rfl

end Apart

end WattWarden
