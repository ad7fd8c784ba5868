import WattWarden.Daemon.Ladder
import WattWarden.Library.TwoRuns

/-!
# The ladder has no memory and ignores the cable

One ladder step on two trees that describe the same hardware and carry the same load, whatever the
nodes the ladder writes and the power supplies hold.  The one setter that reads a mutable node,
`set_online_cores`, may write different frequency limits on the two sides; the frequency target
that follows overwrites every one of them.

* `Creatable` — the paths a step may create on one side only;
* `LadderTwin` — the invariant of the two steps;
* `twin_cores_freq` — **PROVED**: cores and frequency together forget the old limit;
* `ladder_memoryless` — **PROVED**: equal results but for the cable, equal content in every hardware
  node either step writes, and a second step changes no hardware node.
-/

namespace WattWarden

open Library.FileTree Library.Journaling Library.TwoRuns Library.Floats Library.Numerals

/-- Paths a step may create: nothing of the hardware but `online` and the frequency limits. -/
def Creatable (p : Path) : Prop :=
  ¬IsHardware p ∨ leaf p ∈ ["online", "scaling_min_freq", "scaling_max_freq"]

/-- Two ladder steps side by side, agreeing on the newest writes on `G`. -/
abbrev LadderTwin (G : Path → Prop) (s₁ s₂ : SysfsRoot) : Prop := Twin Creatable G IsRange s₁ s₂

variable {G : Path → Prop} {s₁ s₂ : SysfsRoot}

theorem LadderTwin.sameRanges (h : LadderTwin G s₁ s₂) : SameRanges s₁.tree s₂.tree :=
  fun p hp => (h.same p hp).symm

theorem not_creatable {p : Path} (hhard : IsHardware p)
    (hleaf : leaf p ∉ ["online", "scaling_min_freq", "scaling_max_freq"]) : ¬Creatable p := by
  intro h
  rcases h with hsoft | hmem
  · exact hsoft hhard
  · exact hleaf hmem

theorem not_creatable_cpu {p : Path} (hsub : subsystem p = .cpu)
    (hleaf : leaf p ∉ ["online", "scaling_min_freq", "scaling_max_freq"]) : ¬Creatable p :=
  not_creatable (by simp [IsHardware, hsub]) hleaf

theorem limit_not_creatable (zone : String) (i : ℕ) :
    ¬Creatable (constraintNode zone i "_power_limit_uw") := by
  have hsub : subsystem (constraintNode zone i "_power_limit_uw") = .powercap := rfl
  apply not_creatable (by simp [IsHardware, hsub])
  rw [constraintNode, leaf_append]
  intro hmem
  have hend : ending "_power_limit_uw" ∈
      ["online", "scaling_min_freq", "scaling_max_freq"].map ending := by
    rw [← ending_constraintLeaf i (by decide)]
    exact List.mem_map_of_mem hmem
  revert hend
  decide

theorem gpuNode_not_creatable (gpu : LinuxGpu) {name : String}
    (hname : name ∉ ["online", "scaling_min_freq", "scaling_max_freq"]) :
    ¬Creatable (gpu.node name) := by
  apply not_creatable (by simp [IsHardware])
  rw [LinuxGpu.node, leaf_append]
  exact hname

/-! ### RAPL and GPU -/

theorem twin_writeZone {acc₁ acc₂ : SysfsRoot × Option ℕ} (h : LadderTwin G acc₁.1 acc₂.1)
    (name : String) (watts : ℕ) (zone : String) :
    LadderTwin G (LinuxRapl.writeZone name watts acc₁ zone).1
      (LinuxRapl.writeZone name watts acc₂ zone).1 := by
  unfold LinuxRapl.writeZone
  rw [constraintIndexIn_congr h.sameRanges]
  split
  · exact h
  · rename_i i _
    rw [constraintBoundsWattsIn_congr h.sameRanges]
    split
    · exact h
    · show LadderTwin G (if _ then _ else acc₁ : SysfsRoot × Option ℕ).1
        (if _ then _ else acc₂ : SysfsRoot × Option ℕ).1
      rw [h.shape.pathExists_eq (limit_not_creatable zone i)]
      split
      · exact h.write (limit_not_isRange zone i) _ _
      · exact h

theorem twin_writeConstraint (h : LadderTwin G s₁ s₂) (rapl : LinuxRapl) (name : String)
    (watts : ℕ) :
    LadderTwin G (rapl.writeConstraint s₁ name watts).1 (rapl.writeConstraint s₂ name watts).1 := by
  have hloop : ∀ (zones : List String) (acc₁ acc₂ : SysfsRoot × Option ℕ),
      LadderTwin G acc₁.1 acc₂.1 →
      LadderTwin G (zones.foldl (LinuxRapl.writeZone name watts) acc₁).1
        (zones.foldl (LinuxRapl.writeZone name watts) acc₂).1 := by
    intro zones
    induction zones with
    | nil => exact fun acc₁ acc₂ hacc => hacc
    | cons zone zones ih => exact fun acc₁ acc₂ hacc => ih _ _ (twin_writeZone hacc name watts zone)
  exact hloop rapl.domains (s₁, none) (s₂, none) h

theorem twin_setGpuFreq (h : LadderTwin G s₁ s₂) (gpu : LinuxGpu) (mhz : ℕ) :
    LadderTwin G (gpu.setGpuFreq s₁ mhz) (gpu.setGpuFreq s₂ mhz) := by
  have hcard : ∀ {s₁ s₂ : SysfsRoot} {name : String} (value : ℕ),
      name ∉ ["online", "scaling_min_freq", "scaling_max_freq"] → name ∉ gpuRangeLeaves →
      LadderTwin G s₁ s₂ →
      LadderTwin G (gpu.cardWrite s₁ name value) (gpu.cardWrite s₂ name value) := by
    intro s₁ s₂ name value hname hrange hs
    apply hs.writeIf (gpuNode_not_creatable gpu hname)
    apply not_isRange_of_drm (subsystem_gpuNode gpu name)
    rwa [LinuxGpu.node, leaf_append]
  unfold LinuxGpu.setGpuFreq
  rw [discoveredGpuBounds_congr gpu h.sameRanges]
  split
  · exact h
  · exact hcard _ (by decide) (by decide) (hcard _ (by decide) (by decide) h)

/-! ### EPP, governor and turbo -/

theorem twin_writeExisting (h : LadderTwin G s₁ s₂) (name : String)
    (hname : name ∉ ["online", "scaling_min_freq", "scaling_max_freq"])
    (hrange : name ∉ cpuRangeLeaves) (value : String) (ids : List ℕ) :
    LadderTwin G (ids.foldl (writeExisting name value) s₁)
      (ids.foldl (writeExisting name value) s₂) := by
  apply h.foldl
  intro id _ s₁ s₂ hs
  have hleaf : leaf (cpufreqNode id name) = name := by rw [cpufreqNode, leaf_append]
  apply hs.writeIf
  · apply not_creatable_cpu rfl
    rwa [hleaf]
  · apply not_isRange_of_cpu rfl
    rwa [hleaf]

theorem twin_setEpp (h : LadderTwin G s₁ s₂) (cpu : LinuxCpuGovernor) (pref : String) :
    LadderTwin G (cpu.setEnergyPerformancePreference s₁ pref)
      (cpu.setEnergyPerformancePreference s₂ pref) := by
  unfold LinuxCpuGovernor.setEnergyPerformancePreference
  rw [resolveEpp_congr h.sameRanges]
  split
  · exact h
  · rename_i epp _
    have hepp := twin_writeExisting h "energy_performance_preference" (by decide) (by decide) epp
      cpu.cpuIds
    simp only
    rw [resolveGovernor_congr hepp.sameRanges]
    split
    · exact hepp
    · exact twin_writeExisting hepp "scaling_governor" (by decide) (by decide) _ _

theorem twin_setTurbo (h : LadderTwin G s₁ s₂) (enabled : Bool) :
    LadderTwin G (LinuxCpuGovernor.setTurboEnabled s₁ enabled)
      (LinuxCpuGovernor.setTurboEnabled s₂ enabled) := by
  unfold LinuxCpuGovernor.setTurboEnabled
  rw [h.shape.pathExists_eq (not_creatable_cpu (p := noTurboNode) rfl (by decide)),
    h.shape.pathExists_eq (not_creatable_cpu (p := boostNode) rfl (by decide))]
  split
  · exact h.write (not_isRange_of_cpu rfl (by decide)) _ _
  · split
    · exact h.write (not_isRange_of_cpu rfl (by decide)) _ _
    · exact h

/-! ### Cores and frequency -/

/-- A frequency limit of a driven CPU with a `cpufreq` directory. -/
def Target (cpu : LinuxCpuGovernor) (t : Tree) (p : Path) : Prop :=
  ∃ id ∈ cpu.cpuIds, t.pathExists (cpufreqDir id) = true ∧
    (p = cpufreqNode id "scaling_min_freq" ∨ p = cpufreqNode id "scaling_max_freq")

theorem Target.leaf_mem {cpu : LinuxCpuGovernor} {t : Tree} {p : Path} (h : Target cpu t p) :
    leaf p ∈ ["scaling_min_freq", "scaling_max_freq"] := by
  obtain ⟨id, -, -, rfl | rfl⟩ := h <;> simp [cpufreqNode]

theorem Target.creatable {cpu : LinuxCpuGovernor} {t : Tree} {p : Path} (h : Target cpu t p) :
    Creatable p :=
  .inr (List.mem_cons_of_mem _ h.leaf_mem)

theorem Target.not_isRange {cpu : LinuxCpuGovernor} {t : Tree} {p : Path} (h : Target cpu t p) :
    ¬IsRange p := by
  obtain ⟨id, -, -, rfl | rfl⟩ := h <;>
    exact not_isRange_of_cpu rfl (by simp [cpufreqNode, cpuRangeLeaves])

/-- Writing frequency limits does not make `cpufreq` directories appear. -/
theorem pathExists_cpufreqDir_of_extends {P : Write Actor → Prop} {s s' : SysfsRoot}
    (h : Extends P s s')
    (hP : ∀ w, P w → leaf w.path ∈ ["scaling_min_freq", "scaling_max_freq"]) (id : ℕ) :
    s'.tree.pathExists (cpufreqDir id) = s.tree.pathExists (cpufreqDir id) := by
  apply h.pathExists_eq
  intro w hw
  apply ne_of_leaf_ne
  intro heq
  have hmem := hP w hw
  rw [heq, cpufreqDir, leaf_append] at hmem
  revert hmem
  decide

/-- `set_freq_limit` writes targets only. -/
theorem setFreqLimit_targets (cpu : LinuxCpuGovernor) (s : SysfsRoot) (mhz : ℕ) :
    Extends (fun w => Target cpu s.tree w.path) s (cpu.setFreqLimit s mhz) := by
  rw [LinuxCpuGovernor.setFreqLimit]
  split
  · exact Extends.refl _ _
  · apply (Extends.refl _ _).foldl
    intro id hid s' hs'
    have hdir := pathExists_cpufreqDir_of_extends hs' (fun w hw => hw.leaf_mem) id
    rw [LinuxCpuGovernor.writeScaling]
    rw [hdir]
    split
    · rename_i hexists
      exact (hs'.write ⟨id, hid, hexists, .inl rfl⟩).write ⟨id, hid, hexists, .inr rfl⟩
    · exact hs'

/-- One CPU of the loop of `set_freq_limit`: its limits come into the agreement. -/
theorem twin_writeScaling (h : LadderTwin G s₁ s₂) (khzMin khzMax id : ℕ) :
    LadderTwin (fun p => G p ∨ s₁.tree.pathExists (cpufreqDir id) = true ∧
        (p = cpufreqNode id "scaling_min_freq" ∨ p = cpufreqNode id "scaling_max_freq"))
      (LinuxCpuGovernor.writeScaling khzMin khzMax s₁ id)
      (LinuxCpuGovernor.writeScaling khzMin khzMax s₂ id) := by
  have hdir : s₁.tree.pathExists (cpufreqDir id) = s₂.tree.pathExists (cpufreqDir id) :=
    h.shape.pathExists_eq (not_creatable_cpu rfl (by simp [cpufreqDir]))
  rw [LinuxCpuGovernor.writeScaling, LinuxCpuGovernor.writeScaling, ← hdir]
  cases s₁.tree.pathExists (cpufreqDir id) with
  | false =>
    apply h.mono
    rintro p (hp | ⟨hexists, -⟩)
    · exact hp
    · cases hexists
  | true =>
    have hmin := h.insert (not_isRange_of_cpu (p := cpufreqNode id "scaling_min_freq") rfl
      (by simp [cpufreqNode, cpuRangeLeaves])) .wattwarden (decimal khzMin)
    have hmax := hmin.insert (not_isRange_of_cpu (p := cpufreqNode id "scaling_max_freq") rfl
      (by simp [cpufreqNode, cpuRangeLeaves])) .wattwarden (decimal khzMax)
    apply hmax.mono
    rintro p (hp | ⟨-, rfl | rfl⟩)
    · exact .inl (.inl hp)
    · exact .inl (.inr rfl)
    · exact .inr rfl

theorem pathExists_writeScaling (khzMin khzMax : ℕ) (s : SysfsRoot) (id id' : ℕ) :
    (LinuxCpuGovernor.writeScaling khzMin khzMax s id).tree.pathExists (cpufreqDir id')
      = s.tree.pathExists (cpufreqDir id') := by
  have hext : Extends (fun w => leaf w.path ∈ ["scaling_min_freq", "scaling_max_freq"]) s
      (LinuxCpuGovernor.writeScaling khzMin khzMax s id) := by
    rw [LinuxCpuGovernor.writeScaling]
    split
    · exact ((Extends.refl _ s).write (by simp [cpufreqNode])).write (by simp [cpufreqNode])
    · exact Extends.refl _ _
  exact pathExists_cpufreqDir_of_extends hext (fun _ hw => hw) id'

/-- **The loop of `set_freq_limit`** brings every target it meets into the agreement. -/
theorem twin_writeScaling_loop (khzMin khzMax : ℕ) (ids : List ℕ) :
    ∀ {G : Path → Prop} {s₁ s₂ : SysfsRoot}, LadderTwin G s₁ s₂ →
      LadderTwin (fun p => G p ∨ ∃ id ∈ ids, s₁.tree.pathExists (cpufreqDir id) = true ∧
          (p = cpufreqNode id "scaling_min_freq" ∨ p = cpufreqNode id "scaling_max_freq"))
        (ids.foldl (LinuxCpuGovernor.writeScaling khzMin khzMax) s₁)
        (ids.foldl (LinuxCpuGovernor.writeScaling khzMin khzMax) s₂) := by
  induction ids with
  | nil =>
    intro G s₁ s₂ h
    apply h.mono
    rintro p (hp | ⟨id, hid, -⟩)
    · exact hp
    · cases hid
  | cons id ids ih =>
    intro G s₁ s₂ h
    apply (ih (twin_writeScaling h khzMin khzMax id)).mono
    rintro p (hp | ⟨id', hid', hexists, hnode⟩)
    · exact .inl (.inl hp)
    · rcases List.mem_cons.mp hid' with rfl | hid'
      · exact .inl (.inr ⟨hexists, hnode⟩)
      · exact .inr ⟨id', hid', by rw [pathExists_writeScaling, hexists], hnode⟩

theorem twin_writeOnline (h : LadderTwin G s₁ s₂) (cpu : LinuxCpuGovernor) (n : ℕ) :
    LadderTwin G (cpu.writeOnline s₁ n) (cpu.writeOnline s₂ n) := by
  apply h.foldl
  intro e _ s₁ s₂ hs
  exact hs.write (not_isRange_of_cpu rfl (by simp [onlineNode, cpuRangeLeaves])) _ _

/-- Without a discovered range `set_freq_limit` does nothing. -/
theorem setFreqLimit_of_none {cpu : LinuxCpuGovernor} {s : SysfsRoot}
    (h : cpu.discoveredFreqBounds s.tree = none) (mhz : ℕ) : cpu.setFreqLimit s mhz = s := by
  rw [LinuxCpuGovernor.setFreqLimit, h]

/-- What `set_online_cores` writes after its `online` loop. -/
theorem setOnlineCores_targets (cpu : LinuxCpuGovernor) (s : SysfsRoot) (count : ℕ) :
    Extends (fun w => Target cpu (cpu.writeOnline s (clamp 1 cpu.numCpus count)).tree w.path)
      (cpu.writeOnline s (clamp 1 cpu.numCpus count)) (cpu.setOnlineCores s count) := by
  rcases setOnlineCores_cases cpu s count with heq | ⟨mhz, heq⟩
  · rw [heq]
    exact Extends.refl _ _
  · rw [heq]
    exact setFreqLimit_targets cpu _ mhz

/-- Without a range both setters together write the `online` nodes only. -/
theorem setFreqLimit_setOnlineCores_of_none {cpu : LinuxCpuGovernor} {s : SysfsRoot} {count : ℕ}
    (hnone : cpu.discoveredFreqBounds (cpu.writeOnline s (clamp 1 cpu.numCpus count)).tree = none)
    (mhz : ℕ) : cpu.setFreqLimit (cpu.setOnlineCores s count) mhz
      = cpu.writeOnline s (clamp 1 cpu.numCpus count) := by
  rcases setOnlineCores_cases cpu s count with heq | ⟨mhz', heq⟩
  · rw [heq, setFreqLimit_of_none hnone]
  · rw [heq, setFreqLimit_of_none hnone, setFreqLimit_of_none hnone]

/-- **Cores, then frequency.**  The limit `set_online_cores` read back and wrote again is
overwritten on every CPU by the frequency limit that follows. -/
theorem twin_cores_freq (h : LadderTwin G s₁ s₂) (cpu : LinuxCpuGovernor) (count mhz : ℕ) :
    LadderTwin G (cpu.setFreqLimit (cpu.setOnlineCores s₁ count) mhz)
      (cpu.setFreqLimit (cpu.setOnlineCores s₂ count) mhz) := by
  let n := clamp 1 cpu.numCpus count
  have honline : LadderTwin G (cpu.writeOnline s₁ n) (cpu.writeOnline s₂ n) :=
    twin_writeOnline h cpu n
  have hext₁ := setOnlineCores_targets cpu s₁ count
  have hext₂ := setOnlineCores_targets cpu s₂ count
  have hrange₁ := discoveredFreqBounds_congr cpu
    (sameRanges_of_extends (fun w hw => hw.not_isRange) hext₁)
  cases hbounds : cpu.discoveredFreqBounds (cpu.writeOnline s₁ n).tree with
  | none =>
    have hnone₂ := discoveredFreqBounds_congr cpu honline.sameRanges
    rw [hbounds] at hnone₂
    rw [setFreqLimit_setOnlineCores_of_none hbounds, setFreqLimit_setOnlineCores_of_none hnone₂]
    exact honline
  | some bounds =>
    obtain ⟨lo, hi⟩ := bounds
    have hdirs : ∀ id, (cpu.writeOnline s₁ n).tree.pathExists (cpufreqDir id)
        = (cpu.writeOnline s₂ n).tree.pathExists (cpufreqDir id) := fun id =>
      honline.shape.pathExists_eq (not_creatable_cpu rfl (by simp [cpufreqDir]))
    have htarget : ∀ p, Target cpu (cpu.writeOnline s₂ n).tree p →
        Target cpu (cpu.writeOnline s₁ n).tree p := by
      intro p h
      obtain ⟨id, hid, hexists, hnode⟩ := h
      exact ⟨id, hid, by rw [hdirs, hexists], hnode⟩
    -- between the two setters the runs agree outside the targets
    have hbetween : LadderTwin (fun p => G p ∧ ¬Target cpu (cpu.writeOnline s₁ n).tree p)
        (cpu.setOnlineCores s₁ count) (cpu.setOnlineCores s₂ count) := by
      have houtside : LadderTwin (fun p => G p ∧ ¬Target cpu (cpu.writeOnline s₁ n).tree p)
          (cpu.writeOnline s₁ n) (cpu.writeOnline s₂ n) := honline.mono fun p hp => hp.1
      refine (houtside.left hext₁ fun w hw => ?_).right hext₂ fun w hw => ?_
      · exact ⟨hw.creatable, fun hp => hp.2 hw, hw.not_isRange⟩
      · exact ⟨hw.creatable, fun hp => hp.2 (htarget _ hw), hw.not_isRange⟩
    have hrange₂ := discoveredFreqBounds_congr cpu hbetween.sameRanges
    rw [hrange₁, hbounds] at hrange₂
    rw [hbounds] at hrange₁
    rw [LinuxCpuGovernor.setFreqLimit, LinuxCpuGovernor.setFreqLimit, hrange₁, hrange₂]
    apply (twin_writeScaling_loop _ _ cpu.cpuIds hbetween).mono
    intro p hp
    by_cases htgt : Target cpu (cpu.writeOnline s₁ n).tree p
    · obtain ⟨id, hid, hexists, hnode⟩ := htgt
      refine .inr ⟨id, hid, ?_, hnode⟩
      rw [pathExists_cpufreqDir_of_extends hext₁ (fun w hw => hw.leaf_mem) id]
      exact hexists
    · exact .inl ⟨hp, htgt⟩

/-! ### One step on both sides -/

section Step

variable {F : Type} [FloatLike F]

theorem twin_ladderRapl (h : LadderTwin G s₁ s₂) (b : LinuxBackend) (ceiling discretePower : F) :
    LadderTwin G (ladderRapl b ceiling discretePower s₁).1
        (ladderRapl b ceiling discretePower s₂).1 ∧
      (ladderRapl b ceiling discretePower s₁).2 = (ladderRapl b ceiling discretePower s₂).2 := by
  unfold ladderRapl
  cases b.rapl with
  | none => exact ⟨h, rfl⟩
  | some rapl =>
    have hpl1 : LadderTwin G (ladderPl1 rapl ceiling discretePower s₁).1
          (ladderPl1 rapl ceiling discretePower s₂).1 ∧
        (ladderPl1 rapl ceiling discretePower s₁).2
          = (ladderPl1 rapl ceiling discretePower s₂).2 := by
      unfold ladderPl1
      rw [LinuxRapl.pl1BoundsWatts, LinuxRapl.pl1BoundsWatts, boundsOf_congr rapl h.sameRanges]
      split
      · exact ⟨twin_writeConstraint h rapl longTerm _, rfl⟩
      · exact ⟨h, rfl⟩
    refine ⟨?_, hpl1.2⟩
    show LadderTwin G (ladderPl2 rapl _ _ _) (ladderPl2 rapl _ _ _)
    unfold ladderPl2
    rw [LinuxRapl.pl2BoundsWatts, LinuxRapl.pl2BoundsWatts, boundsOf_congr rapl hpl1.1.sameRanges]
    split
    · exact twin_writeConstraint hpl1.1 rapl shortTerm _
    · exact hpl1.1

omit [FloatLike F] in
theorem twin_ladderLimits (h : LadderTwin G s₁ s₂) (b : LinuxBackend) (targets : LadderTargets F) :
    LadderTwin G (ladderLimits b targets s₁) (ladderLimits b targets s₂) := by
  have hfreq := twin_cores_freq h b.cpu targets.cores targets.freq
  have hclocks : LadderTwin G (ladderClocks b targets s₁) (ladderClocks b targets s₂) := by
    unfold ladderClocks
    cases b.gpu with
    | none => exact hfreq
    | some gpu => exact twin_setGpuFreq hfreq gpu targets.gpu
  exact twin_setTurbo (twin_setEpp hclocks b.cpu targets.epp) targets.turbo

/-- The peripherals are no hardware: either side may touch them. -/
theorem twin_peripherals (h : LadderTwin IsHardware s₁ s₂) (b : LinuxBackend) (on₁ on₂ : Bool) :
    LadderTwin IsHardware (if on₁ then ladderPeripherals b s₁ else s₁)
      (if on₂ then ladderPeripherals b s₂ else s₂) := by
  have hsoft : ∀ w : Write Actor, PeripheralWrite w →
      Creatable w.path ∧ ¬IsHardware w.path ∧ ¬IsRange w.path := fun w hw =>
    ⟨.inl hw.not_isHardware, hw.not_isHardware, fun hrange => hw.not_isHardware hrange.isHardware⟩
  have hext : ∀ (on : Bool) (s : SysfsRoot),
      Extends PeripheralWrite s (if on then ladderPeripherals b s else s) := by
    intro on s
    split
    · exact ladderPeripherals_extends (fun _ hw => hw) (Extends.refl _ _)
    · exact Extends.refl _ _
  exact (h.left (hext on₁ s₁) hsoft).right (hext on₂ s₂) hsoft

/-- The targets of a step depend on the description of the hardware and the load only. -/
theorem ladderTargets_congr (b : LinuxBackend) {t t' : Tree} (hranges : SameRanges t t')
    (hload : t'.content loadavgPath = t.content loadavgPath) (level : AutoExtremeLevel) :
    ladderTargets F b t' level = ladderTargets F b t level := by
  have hgpu : (fun gpu : LinuxGpu => gpu.discoveredGpuBounds t')
      = fun gpu : LinuxGpu => gpu.discoveredGpuBounds t := by
    funext gpu
    exact discoveredGpuBounds_congr gpu hranges
  have haverage : LinuxBackend.loadAverage F t' = LinuxBackend.loadAverage F t := by
    rw [LinuxBackend.loadAverage, LinuxBackend.loadAverage, SysfsRoot.read_congr hload]
  rw [ladderTargets, ladderTargets, discoveredFreqBounds_congr b.cpu hranges, hgpu, haverage]

/-- Equal in every field but the cable. -/
def LogicStepResult.AgreeExceptCharging (r₁ r₂ : LogicStepResult F) : Prop :=
  { r₁ with isCharging := r₂.isCharging } = r₂

/-- **One step on both sides**, by backends that differ in their battery only. -/
theorem twin_applyLogicStep (h : LadderTwin IsHardware s₁ s₂)
    (hload : s₁.tree.content loadavgPath = s₂.tree.content loadavgPath) (b : LinuxBackend)
    (battery : LinuxBattery) {config : Config} (hon : config.autoExtremeEnabled = true) :
    LadderTwin IsHardware (applyLogicStep F b s₁ config).1
        (applyLogicStep F { b with battery } s₂ config).1 ∧
      (applyLogicStep F b s₁ config).2.AgreeExceptCharging
        (applyLogicStep F { b with battery } s₂ config).2 := by
  let targets := ladderTargets F b s₁.tree config.autoExtremeLevel
  have htargets : ladderTargets F { b with battery } s₂.tree config.autoExtremeLevel = targets :=
    ladderTargets_congr b h.sameRanges hload.symm config.autoExtremeLevel
  obtain ⟨hrapl, hwatts⟩ := twin_ladderRapl h b targets.ceiling targets.discretePower
  have hlimits := twin_ladderLimits hrapl b targets
  have hboth := twin_peripherals hlimits b (!b.battery.isCharging s₁.tree)
    (!battery.isCharging s₂.tree)
  constructor
  · rw [applyLogicStep_sysfs b s₁ hon, applyLogicStep_sysfs { b with battery } s₂ hon, htargets]
    exact hboth
  · rw [applyLogicStep_result b s₁ hon, applyLogicStep_result { b with battery } s₂ hon, htargets,
      LogicStepResult.AgreeExceptCharging, hwatts]
    rfl

end Step

/-! ### What a step creates -/

section Shape

variable {t : Tree} {s : SysfsRoot}

theorem shape_writeConstraint (h : SameShape Creatable t s.tree) (rapl : LinuxRapl) (name : String)
    (watts : ℕ) : SameShape Creatable t (rapl.writeConstraint s name watts).1.tree := by
  have hloop : ∀ (zones : List String) (acc : SysfsRoot × Option ℕ),
      SameShape Creatable t acc.1.tree →
      SameShape Creatable t (zones.foldl (LinuxRapl.writeZone name watts) acc).1.tree := by
    intro zones
    induction zones with
    | nil => exact fun acc hacc => hacc
    | cons zone zones ih =>
      intro acc hacc
      apply ih
      rw [LinuxRapl.writeZone]
      split
      · exact hacc
      · split
        · exact hacc
        · simp only
          split
          · rename_i hexists
            exact hacc.write_existing hexists _
          · exact hacc
  exact hloop rapl.domains (s, none) h

theorem shape_ladderRapl {F : Type} [FloatLike F] (h : SameShape Creatable t s.tree)
    (b : LinuxBackend) (ceiling discretePower : F) :
    SameShape Creatable t (ladderRapl b ceiling discretePower s).1.tree := by
  rw [ladderRapl]
  cases b.rapl with
  | none => exact h
  | some rapl =>
    have hpl1 : SameShape Creatable t (ladderPl1 rapl ceiling discretePower s).1.tree := by
      unfold ladderPl1
      split
      · exact shape_writeConstraint h rapl longTerm _
      · exact h
    show SameShape Creatable t (ladderPl2 rapl _ _ _).tree
    unfold ladderPl2
    split
    · exact shape_writeConstraint hpl1 rapl shortTerm _
    · exact hpl1

theorem shape_setFreqLimit (h : SameShape Creatable t s.tree) (cpu : LinuxCpuGovernor) (mhz : ℕ) :
    SameShape Creatable t (cpu.setFreqLimit s mhz).tree :=
  h.of_extends (setFreqLimit_targets cpu s mhz) fun _ hw => hw.creatable

theorem shape_setOnlineCores (h : SameShape Creatable t s.tree) (cpu : LinuxCpuGovernor)
    (count : ℕ) : SameShape Creatable t (cpu.setOnlineCores s count).tree := by
  have honline : SameShape Creatable t
      (cpu.writeOnline s (clamp 1 cpu.numCpus count)).tree := by
    apply h.foldl
    intro e _ s hs
    exact hs.write_right (.inr (by simp [onlineNode])) _
  exact honline.of_extends (setOnlineCores_targets cpu s count) fun _ hw => hw.creatable

theorem shape_setGpuFreq (h : SameShape Creatable t s.tree) (gpu : LinuxGpu) (mhz : ℕ) :
    SameShape Creatable t (gpu.setGpuFreq s mhz).tree := by
  rw [LinuxGpu.setGpuFreq]
  split
  · exact h
  · exact (h.writeIf _ _ _).writeIf _ _ _

theorem shape_setEpp (h : SameShape Creatable t s.tree) (cpu : LinuxCpuGovernor) (pref : String) :
    SameShape Creatable t (cpu.setEnergyPerformancePreference s pref).tree := by
  have hloop : ∀ (name value : String) (s : SysfsRoot), SameShape Creatable t s.tree →
      SameShape Creatable t (cpu.cpuIds.foldl (writeExisting name value) s).tree := by
    intro name value s hs
    apply hs.foldl
    exact fun id _ s hs => hs.writeIf _ _ _
  rw [LinuxCpuGovernor.setEnergyPerformancePreference]
  split
  · exact h
  · simp only
    split
    · exact hloop _ _ s h
    · exact hloop _ _ _ (hloop _ _ s h)

theorem shape_setTurbo (h : SameShape Creatable t s.tree) (enabled : Bool) :
    SameShape Creatable t (LinuxCpuGovernor.setTurboEnabled s enabled).tree := by
  rw [LinuxCpuGovernor.setTurboEnabled]
  split
  · rename_i hexists
    exact h.write_existing hexists _
  · exact h.writeIf _ _ _

/-- **A step creates `Creatable` paths only.** -/
theorem shape_applyLogicStep (F : Type) [FloatLike F] (h : SameShape Creatable t s.tree)
    (b : LinuxBackend) {config : Config} (hon : config.autoExtremeEnabled = true) :
    SameShape Creatable t (applyLogicStep F b s config).1.tree := by
  let targets := ladderTargets F b s.tree config.autoExtremeLevel
  have hrapl := shape_ladderRapl h b targets.ceiling targets.discretePower
  have hfreq := shape_setFreqLimit (shape_setOnlineCores hrapl b.cpu targets.cores) b.cpu
    targets.freq
  have hclocks : SameShape Creatable t (ladderClocks b targets
      (ladderRapl b targets.ceiling targets.discretePower s).1).tree := by
    rw [ladderClocks]
    cases b.gpu with
    | none => exact hfreq
    | some gpu => exact shape_setGpuFreq hfreq gpu targets.gpu
  have hlimits := shape_setTurbo (shape_setEpp hclocks b.cpu targets.epp) targets.turbo
  rw [applyLogicStep_sysfs b s hon]
  split
  · apply hlimits.of_extends (ladderPeripherals_extends (fun _ hw => hw) (Extends.refl _ _))
    exact fun w hw => .inl hw.not_isHardware
  · exact hlimits

end Shape

/-! ### No memory -/

theorem LadderWrite.path_ne_loadavg {b : LinuxBackend} {t : Tree} {w : Write Actor}
    (h : LadderWrite b t w) : w.path ≠ loadavgPath := by
  cases h with
  | hardware h =>
    intro heq
    have hhard := h.isHardware
    rw [heq] at hhard
    revert hhard
    decide
  | peripheral h =>
    rcases h with h | h | h
    · cases h
      simp [loadavgPath, aspmPolicyPath]
    · cases h
      simp [loadavgPath, ledNode, ledsBase]
    · cases h <;> simp [loadavgPath, iwlwifiPowerSave, sndHdaPowerSave, sndHdaPowerSaveController,
        usbDevices, pciDevices, nmiWatchdogPath, dirtyWriteback]

/-- Discovery reads paths only, the battery apart. -/
theorem withRoot_congr (host : Host) {t₁ t₂ : Tree} (hfile : ∀ p, t₁.isFile p = t₂.isFile p)
    (hdir : ∀ p, t₁.isDir p = t₂.isDir p) : LinuxBackend.withRoot host t₂ =
      { LinuxBackend.withRoot host t₁ with battery := LinuxBattery.withRoot t₂ } := by
  have hpath : t₂.pathExists = t₁.pathExists := by
    funext p
    rw [Tree.pathExists, Tree.pathExists, hfile, hdir]
  have hnames : t₂.names = t₁.names := by
    funext d
    exact Tree.names_congr fun n => congrFun hpath _
  have hdomains : LinuxRapl.discoverDomains t₂ = LinuxRapl.discoverDomains t₁ := by
    rw [LinuxRapl.discoverDomains, LinuxRapl.discoverDomains, hpath, hnames]
  simp only [LinuxBackend.withRoot, LinuxCpuGovernor.withRoot, LinuxCpuGovernor.discover,
    LinuxRapl.withRoot, hdomains, LinuxGpu.withRoot, LinuxGpu.discover, LinuxGpu.orderedCards,
    LinuxAspm.withRoot, LinuxBacklight.withRoot, hpath, hnames]

/-- **A second step** on the tree the first one left changes no hardware node. -/
theorem second_step_settled (F : Type) [FloatLike F] (b : LinuxBackend) (t : Tree) {config : Config}
    (hon : config.autoExtremeEnabled = true) {p : Path} (hp : IsHardware p) :
    let s := (applyLogicStep F b (.start t) config).1
    (applyLogicStep F b (.start s.tree) config).1.tree.content p = s.tree.content p := by
  intro s
  have hstep : ∀ t, Extends (LadderWrite b t) (.start t) (applyLogicStep F b (.start t) config).1 :=
    fun t => applyLogicStep_extends (fun w hw => .hardware hw)
      (fun w hw => hw.profileWrite.not_isRange) (fun w hw => .peripheral hw) (Extends.refl _ _)
      config
  have hranges : SameRanges t s.tree :=
    sameRanges_of_extends (fun w hw => hw.profileWrite.not_isRange) (hstep t)
  have hload : t.content loadavgPath = s.tree.content loadavgPath :=
    ((hstep t).content_eq fun w hw => hw.path_ne_loadavg).symm
  have hshape : SameShape Creatable t s.tree :=
    shape_applyLogicStep F (SameShape.refl _ (Journal.start t : SysfsRoot).tree) b hon
  have htwin : LadderTwin IsHardware (.start t) (.start s.tree) :=
    ⟨hshape, fun _ _ => rfl, fun p hp => (hranges p hp).symm⟩
  have hboth := (twin_applyLogicStep (F := F) htwin hload b b.battery hon).1
  exact hboth.settled (hstep s.tree).initial_eq hp

/-- **No memory, no cable.**  Two trees with the same paths, the same description of the hardware
and the same load: whatever everything else holds, one step at any level returns the same result
but for the cable and leaves the same content in every hardware node that either step writes; and a
second step changes no hardware node. -/
theorem ladder_memoryless (F : Type) [FloatLike F] (host : Host) (t₁ t₂ : Tree)
    (hfile : ∀ p, t₁.isFile p = t₂.isFile p) (hdir : ∀ p, t₁.isDir p = t₂.isDir p)
    (hranges : SameRanges t₁ t₂) (hload : t₁.content loadavgPath = t₂.content loadavgPath)
    (config : Config) (hon : config.autoExtremeEnabled = true) :
    let r₁ := applyLogicStep F (LinuxBackend.withRoot host t₁) (.start t₁) config
    let r₂ := applyLogicStep F (LinuxBackend.withRoot host t₂) (.start t₂) config
    let again := applyLogicStep F (LinuxBackend.withRoot host t₁) (.start r₁.1.tree) config
    r₁.2.AgreeExceptCharging r₂.2 ∧
    (∀ w ∈ r₁.1.log ++ r₂.1.log, IsHardware w.path →
      r₁.1.tree.content w.path = r₂.1.tree.content w.path) ∧
    (∀ p, IsHardware p → again.1.tree.content p = r₁.1.tree.content p) := by
  have htwin : LadderTwin IsHardware (.start t₁) (.start t₂) :=
    ⟨SameShape.of_eq _ hfile hdir, fun _ _ => rfl, fun p hp => (hranges p hp).symm⟩
  have hboth := twin_applyLogicStep (F := F) htwin hload (LinuxBackend.withRoot host t₁)
    (LinuxBattery.withRoot t₂) hon
  rw [← withRoot_congr host hfile hdir] at hboth
  refine ⟨hboth.2, ?_, fun p hp => second_step_settled F _ t₁ hon hp⟩
  intro w hw hhard
  rcases List.mem_append.mp hw with hw | hw
  · obtain ⟨v, hv⟩ := Option.isSome_iff_exists.mp (lastWrite_isSome_of_mem hw)
    exact hboth.1.content_eq hhard hv
  · obtain ⟨v, hv⟩ := Option.isSome_iff_exists.mp (lastWrite_isSome_of_mem hw)
    exact (hboth.1.symm.content_eq hhard hv).symm

/-- A laptop with one CPU and one package limit, plugged in. -/
def laptop : Tree := .ofFiles
  [(cpufreqNode 0 "cpuinfo_min_freq", "400000\n"), (cpufreqNode 0 "cpuinfo_max_freq", "4200000\n"),
    (cpufreqNode 0 "scaling_min_freq", "400000\n"), (cpufreqNode 0 "scaling_max_freq", "4200000\n"),
    (constraintNode "intel-rapl:0" 0 "_name", "long_term\n"),
    (constraintNode "intel-rapl:0" 0 "_max_power_uw", "45000000\n"),
    (constraintNode "intel-rapl:0" 0 "_power_limit_uw", "45000000\n"),
    (supplyNode "AC" "type", "Mains\n"), (supplyNode "AC" "online", "1\n"),
    (loadavgPath, "0.52 0.58 0.59 1/467 12345\n")]

/-- The same laptop, unplugged and already limited. -/
def laptopUnplugged : Tree :=
  (laptop.write (supplyNode "AC" "online") "0\n").write (cpufreqNode 0 "scaling_max_freq")
    "800000\n"

def ladderOn : Config := { Config.default with autoExtremeEnabled := true }

theorem laptop_memoryless :
    (applyLogicStep ℚ (LinuxBackend.withRoot .plain laptop) (.start laptop)
      ladderOn).2.AgreeExceptCharging
    (applyLogicStep ℚ (LinuxBackend.withRoot .plain laptopUnplugged) (.start laptopUnplugged)
      ladderOn).2 := by
  have hline : laptop.isFile (supplyNode "AC" "online") = true := by decide +kernel
  have hfreq : laptop.isFile (cpufreqNode 0 "scaling_max_freq") = true := by decide +kernel
  refine (ladder_memoryless ℚ .plain laptop laptopUnplugged ?_ ?_ ?_ ?_ ladderOn rfl).1
  · intro p
    have hfreq' : (laptop.write (supplyNode "AC" "online") "0\n").isFile
        (cpufreqNode 0 "scaling_max_freq") = true := by
      rw [Tree.isFile_write_of_isFile _ hline, hfreq]
    rw [laptopUnplugged, Tree.isFile_write_of_isFile _ hfreq', Tree.isFile_write_of_isFile _ hline]
  · intro p
    rw [laptopUnplugged, Tree.isDir_write, Tree.isDir_write]
  · intro p hp
    rw [laptopUnplugged, Tree.content_write_ne, Tree.content_write_ne]
    · intro heq
      subst heq
      exact absurd hp.isHardware (by decide)
    · intro heq
      subst heq
      exact absurd hp (not_isRange_of_cpu rfl (by decide))
  · decide +kernel

end WattWarden
