import Mathlib.Data.Set.Finite.Lemmas
import WattWarden.Daemon.Runner
import WattWarden.Library.Runs

/-!
# Hardware ceilings over whole runs

Any sequence of setter calls, profiles and ladder steps, with the load and the power supplies
changing in between.  The descriptions of the hardware are never written, so every range is
discovered again exactly as on the first tree, and every limit is clamped into it.

* `PowerOp` / `powerStep` — the operations, one at a time;
* `Ceilings b t s` — what holds of every tree `s` reached from `t`;
* `powerRun_ceilings` — **PROVED**: it holds after every run, for every arithmetic of the floats.
-/

namespace WattWarden

open Library.FileTree Library.Journaling Library.Floats Library.Numerals Library.Runs

/-- One operation on the hardware, or a change of the outside world. -/
inductive PowerOp where
  | setFreqLimit (mhz : ℕ)
  | setOnlineCores (count : ℕ)
  | setGpuFreq (mhz : ℕ)
  | setPl1Watts (watts : ℕ)
  | setPl2Watts (watts : ℕ)
  | applyProfile (profile : PowerProfile)
  | applyLogicStep (config : Config)
  | outside (changes : List (Path × String))

def powerStep (F : Type) [FloatLike F] (b : LinuxBackend) (s : SysfsRoot) : PowerOp → SysfsRoot
  | .setFreqLimit mhz => b.cpu.setFreqLimit s mhz
  | .setOnlineCores count => b.cpu.setOnlineCores s count
  | .setGpuFreq mhz => b.gpu.elim s fun gpu => gpu.setGpuFreq s mhz
  | .setPl1Watts watts => b.rapl.elim s fun rapl => rapl.setPl1Watts s watts
  | .setPl2Watts watts => b.rapl.elim s fun rapl => rapl.setPl2Watts s watts
  | .applyProfile profile => b.applyProfile s profile
  | .applyLogicStep config => (applyLogicStep F b s config).1
  | .outside changes => ambient s changes

/-- What a run of operations writes. -/
inductive PowerWrite (b : LinuxBackend) (t : Tree) (w : Write Actor) : Prop
  | program : ProfileWrite b t w → PowerWrite b t w
  | outside : AmbientWrite t w → PowerWrite b t w

section Run

variable {b : LinuxBackend} {t : Tree}

theorem PowerWrite.not_isRange {w : Write Actor} (h : PowerWrite b t w) : ¬IsRange w.path := by
  cases h with
  | program h => exact h.not_isRange
  | outside h => exact fun hrange => h.not_isHardware hrange.isHardware

theorem PowerWrite.keepsSupplies : KeepsSupplies t (PowerWrite b t) := by
  intro w h hsupply
  cases h with
  | program h => exact absurd hsupply h.not_supply
  | outside h => exact h.exists_of_supply hsupply

/-- **One operation** extends the journal by permitted writes. -/
theorem powerStep_extends (F : Type) [FloatLike F] {s : SysfsRoot}
    (h : Extends (PowerWrite b t) (.start t) s) (op : PowerOp) :
    Extends (PowerWrite b t) (.start t) (powerStep F b s op) := by
  have hfix : ∀ w, PowerWrite b t w → ¬IsRange w.path := fun w hw => hw.not_isRange
  have hhard : ∀ w, HardwareWrite b t w → PowerWrite b t w := fun w hw => .program (.hardware hw)
  have hcpu : ∀ w, CpuWrite b.cpu t w → PowerWrite b t w := fun w hw => hhard w (.cpu hw)
  cases op with
  | setFreqLimit mhz => exact setFreqLimit_extends hcpu hfix h mhz
  | setOnlineCores count => exact setOnlineCores_extends hcpu hfix h count
  | setGpuFreq mhz =>
    rw [powerStep]
    cases hgpu : b.gpu with
    | none => exact h
    | some gpu => exact setGpuFreq_extends (fun w hw => hhard w (.gpu hgpu hw)) hfix h mhz
  | setPl1Watts watts =>
    rw [powerStep]
    cases hrapl : b.rapl with
    | none => exact h
    | some rapl => exact setPl1Watts_extends (fun w hw => hhard w (.rapl hrapl hw)) hfix h watts
  | setPl2Watts watts =>
    rw [powerStep]
    cases hrapl : b.rapl with
    | none => exact h
    | some rapl => exact setPl2Watts_extends (fun w hw => hhard w (.rapl hrapl hw)) hfix h watts
  | applyProfile profile =>
    exact applyProfile_extends hfix (fun w hw => .program hw) h profile
  | applyLogicStep config =>
    exact applyLogicStep_extends hhard hfix (fun w hw => .program (.peripheral hw)) h config
  | outside changes =>
    have hkeep : KeepsSupplies (Journal.start t : SysfsRoot).tree (PowerWrite b t) :=
      PowerWrite.keepsSupplies
    refine ambient_extends (fun w hw => ?_) hkeep h changes
    exact .outside hw

/-- **A run of operations** extends the journal by permitted writes. -/
theorem powerRun_extends (F : Type) [FloatLike F] (b : LinuxBackend) (t : Tree)
    (ops : List PowerOp) :
    Extends (PowerWrite b t) (.start t) (run (powerStep F b) (.start t) ops) :=
  run_inv (fun s => Extends (PowerWrite b t) (.start t) s) (Extends.refl _ _)
    (fun _ op h => powerStep_extends F h op) ops

end Run

/-! ### Reading a permitted write off its path -/

section Inversion

variable {b : LinuxBackend} {t : Tree} {w : Write Actor}

theorem PowerWrite.hardwareWrite (h : PowerWrite b t w) (hhard : IsHardware w.path) :
    HardwareWrite b t w := by
  cases h with
  | program h => exact h.hardwareWrite hhard
  | outside h => exact absurd hhard h.not_isHardware

theorem PowerWrite.cpuWrite (h : PowerWrite b t w) (hsub : subsystem w.path = .cpu) :
    CpuWrite b.cpu t w := by
  rcases (h.hardwareWrite (by simp [IsHardware, hsub])).cases_subsystem with
    ⟨-, h⟩ | ⟨hcap, -⟩ | ⟨hdrm, -⟩
  · exact h
  · rw [hcap] at hsub
    cases hsub
  · rw [hdrm] at hsub
    cases hsub

theorem PowerWrite.raplWrite (h : PowerWrite b t w) (hsub : subsystem w.path = .powercap) :
    ∃ rapl, b.rapl = some rapl ∧ RaplWrite rapl t w := by
  rcases (h.hardwareWrite (by simp [IsHardware, hsub])).cases_subsystem with
    ⟨hcpu, -⟩ | ⟨-, h⟩ | ⟨hdrm, -⟩
  · rw [hcpu] at hsub
    cases hsub
  · exact h
  · rw [hdrm] at hsub
    cases hsub

theorem PowerWrite.gpuWrite (h : PowerWrite b t w) (hsub : subsystem w.path = .drm) :
    ∃ gpu, b.gpu = some gpu ∧ GpuWrite gpu t w := by
  rcases (h.hardwareWrite (by simp [IsHardware, hsub])).cases_subsystem with
    ⟨hcpu, -⟩ | ⟨hcap, -⟩ | ⟨-, h⟩
  · rw [hcpu] at hsub
    cases hsub
  · rw [hcap] at hsub
    cases hsub
  · exact h

/-- A write to a CPU frequency limit, with the range it was clamped into. -/
theorem CpuWrite.scalingMax_inv {cpu : LinuxCpuGovernor} (h : CpuWrite cpu t w)
    (hleaf : leaf w.path = "scaling_max_freq") :
    ∃ lo hi mhz, cpu.discoveredFreqBounds t = some (lo, hi) ∧ mhz ≤ hi ∧
      w.value = decimal (mhz * 1000) := by
  cases h with
  | scalingMax _ hbounds _ hle => exact ⟨_, _, _, hbounds, hle, rfl⟩
  | online | scalingMin | noTurbo | boost | epp | governor => exact absurd hleaf (by
      simp [leaf, onlineNode, cpufreqNode, noTurboNode, boostNode, cpuBase])

/-- A write to either CPU frequency limit needs a discovered range. -/
theorem CpuWrite.scaling_ranged {cpu : LinuxCpuGovernor} (h : CpuWrite cpu t w)
    (hleaf : leaf w.path = "scaling_max_freq" ∨ leaf w.path = "scaling_min_freq") :
    (cpu.discoveredFreqBounds t).isSome = true := by
  cases h with
  | scalingMin _ hbounds => rw [hbounds]; rfl
  | scalingMax _ hbounds => rw [hbounds]; rfl
  | online | noTurbo | boost | epp | governor => exact absurd hleaf (by
      simp [leaf, onlineNode, cpufreqNode, noTurboNode, boostNode, cpuBase])

theorem RaplWrite.limit_inv {rapl : LinuxRapl} {zone : String} {i : ℕ} (h : RaplWrite rapl t w)
    (hpath : w.path = constraintNode zone i "_power_limit_uw") :
    ∃ lo hi watts, constraintBoundsWattsIn t zone i = some (lo, hi) ∧ watts ≤ hi ∧
      w.value = decimal (watts * 1000000) := by
  cases h with
  | limit _ hbounds _ hle =>
    obtain ⟨rfl, rfl⟩ := constraintNode_inj hpath
    exact ⟨_, _, _, hbounds, hle, rfl⟩

theorem GpuWrite.gtMax_inv {gpu : LinuxGpu} (h : GpuWrite gpu t w)
    (hleaf : leaf w.path = "gt_max_freq_mhz") :
    ∃ lo hi mhz, gpu.discoveredGpuBounds t = some (lo, hi) ∧ mhz ≤ hi ∧ w.value = decimal mhz ∧
      w.path = gpu.node "gt_max_freq_mhz" := by
  cases h with
  | gtMin _ => simp [LinuxGpu.node] at hleaf
  | gtMax hbounds _ hle => exact ⟨_, _, _, hbounds, hle, rfl, rfl⟩

theorem GpuWrite.ranged {gpu : LinuxGpu} (h : GpuWrite gpu t w) :
    (gpu.discoveredGpuBounds t).isSome = true := by
  cases h with
  | gtMin hbounds => rw [hbounds]; rfl
  | gtMax hbounds => rw [hbounds]; rfl

end Inversion

/-- Among finitely many CPUs, a declared maximum has a largest one above it. -/
theorem exists_greatest_declared {t : Tree} {ids : List ℕ} {khz : ℤ} (h : DeclaredMax t ids khz) :
    ∃ most, IsGreatest {k | DeclaredMax t ids k} most := by
  have hfinite : {k | DeclaredMax t ids k}.Finite := by
    apply (ids.toFinset.finite_toSet.image fun id => ((cpuinfoPair t id).getD (0, 0)).2).subset
    intro k hk
    obtain ⟨id, hid, lo, hpair⟩ := hk
    exact ⟨id, by simpa using hid, by simp [hpair]⟩
  obtain ⟨most, hmem, hmost⟩ := Set.exists_max_image _ id hfinite ⟨khz, h⟩
  exact ⟨most, hmem, fun k hk => hmost k hk⟩

/-- A zone's slot for a constraint without a discovered range has no range of its own. -/
theorem slot_unranged {rapl : LinuxRapl} {t : Tree} {name zone : String} {i : ℕ}
    (h : rapl.boundsOf t name = none) (hzone : zone ∈ rapl.domains)
    (hslot : constraintIndexIn t zone name = some i) : constraintBoundsWattsIn t zone i = none := by
  cases hbounds : constraintBoundsWattsIn t zone i with
  | none => rfl
  | some bounds =>
    have hmem : bounds ∈ rapl.domains.filterMap (zoneBounds t name) :=
      List.mem_filterMap.mpr ⟨zone, hzone, by rw [zoneBounds, hslot]; exact hbounds⟩
    rw [LinuxRapl.boundsOf] at h
    cases hlist : rapl.domains.filterMap (zoneBounds t name) with
    | nil => rw [hlist] at hmem; cases hmem
    | cons b bs => rw [hlist] at h; cases h

/-- What holds of every tree reached from `t`: the hardware is described and discovered as on
`t`; every limit written is one that `t` declares; a controller, a constraint or a slot without a
discovered range is never written. -/
structure Ceilings (b : LinuxBackend) (t : Tree) (s : SysfsRoot) : Prop where
  descriptions : ∀ p, IsRange p → s.tree.content p = t.content p
  cpuRange : b.cpu.discoveredFreqBounds s.tree = b.cpu.discoveredFreqBounds t
  gpuRange : ∀ gpu, b.gpu = some gpu →
    gpu.discoveredGpuBounds s.tree = gpu.discoveredGpuBounds t
  pl1Range : ∀ rapl, b.rapl = some rapl → rapl.pl1BoundsWatts s.tree = rapl.pl1BoundsWatts t
  pl2Range : ∀ rapl, b.rapl = some rapl → rapl.pl2BoundsWatts s.tree = rapl.pl2BoundsWatts t
  scalingMax : ∀ w ∈ s.log, subsystem w.path = .cpu → leaf w.path = "scaling_max_freq" →
    ∃ khz most, w.value = decimal khz ∧ IsGreatest {k | DeclaredMax t b.cpu.cpuIds k} most ∧
      (khz : ℤ) ≤ most
  gtMax : ∀ w ∈ s.log, subsystem w.path = .drm → leaf w.path = "gt_max_freq_mhz" →
    ∃ gpu mhz rp0, b.gpu = some gpu ∧ w.path = gpu.node "gt_max_freq_mhz" ∧
      w.value = decimal mhz ∧ gpu.cardRead t "gt_RP0_freq_mhz" = some rp0 ∧ mhz ≤ rp0
  powerLimit : ∀ w ∈ s.log, ∀ zone i, w.path = constraintNode zone i "_power_limit_uw" →
    ∃ uw maxUw, w.value = decimal uw ∧
      SysfsRoot.readU64 t (constraintNode zone i "_max_power_uw") = some maxUw ∧ uw ≤ maxUw
  cpuUnranged : b.cpu.discoveredFreqBounds t = none → ∀ w ∈ s.log, subsystem w.path = .cpu →
    leaf w.path ≠ "scaling_max_freq" ∧ leaf w.path ≠ "scaling_min_freq"
  gpuUnranged : (∀ gpu, b.gpu = some gpu → gpu.discoveredGpuBounds t = none) →
    ∀ w ∈ s.log, subsystem w.path ≠ .drm
  slotUnranged : ∀ zone i, constraintBoundsWattsIn t zone i = none →
    ∀ w ∈ s.log, w.path ≠ constraintNode zone i "_power_limit_uw"
  constraintUnranged : ∀ rapl, b.rapl = some rapl → ∀ name, rapl.boundsOf t name = none →
    ∀ zone ∈ rapl.domains, ∀ i, constraintIndexIn t zone name = some i →
      ∀ w ∈ s.log, w.path ≠ constraintNode zone i "_power_limit_uw"

/-- Permitted writes respect the ceilings. -/
theorem ceilings_of_extends {b : LinuxBackend} {t : Tree} {s : SysfsRoot}
    (h : Extends (PowerWrite b t) (.start t) s) : Ceilings b t s := by
  have hsame : SameRanges t s.tree := sameRanges_of_extends (fun w hw => hw.not_isRange) h
  have hlog : ∀ w ∈ s.log, PowerWrite b t w := h.forall_log
  have hslot : ∀ zone i, constraintBoundsWattsIn t zone i = none →
      ∀ w ∈ s.log, w.path ≠ constraintNode zone i "_power_limit_uw" := by
    intro zone i hnone w hw hpath
    obtain ⟨rapl, -, hwrite⟩ := (hlog w hw).raplWrite (by rw [hpath]; rfl)
    obtain ⟨lo, hi, watts, hbounds, -⟩ := hwrite.limit_inv hpath
    rw [hbounds] at hnone
    cases hnone
  constructor
  · exact hsame
  · exact discoveredFreqBounds_congr b.cpu hsame
  · exact fun gpu _ => discoveredGpuBounds_congr gpu hsame
  · exact fun rapl _ => boundsOf_congr rapl hsame longTerm
  · exact fun rapl _ => boundsOf_congr rapl hsame shortTerm
  · intro w hw hsub hleaf
    obtain ⟨lo, hi, mhz, hbounds, hle, hvalue⟩ := ((hlog w hw).cpuWrite hsub).scalingMax_inv hleaf
    obtain ⟨khz, hdeclared, hkhz⟩ := discovered_max_le b.cpu hbounds
    obtain ⟨most, hmost⟩ := exists_greatest_declared hdeclared
    have hkm : khz ≤ most := hmost.2 hdeclared
    exact ⟨mhz * 1000, most, hvalue, hmost, by push_cast at hkhz ⊢; omega⟩
  · intro w hw hsub hleaf
    obtain ⟨gpu, hgpu, hwrite⟩ := (hlog w hw).gpuWrite hsub
    obtain ⟨lo, hi, mhz, hbounds, hle, hvalue, hpath⟩ := hwrite.gtMax_inv hleaf
    exact ⟨gpu, mhz, hi, hgpu, hpath, hvalue, (gpu_bounds_spec hbounds).2.1, hle⟩
  · intro w hw zone i hpath
    obtain ⟨rapl, -, hwrite⟩ := (hlog w hw).raplWrite (by rw [hpath]; rfl)
    obtain ⟨lo, hi, watts, hbounds, hle, hvalue⟩ := hwrite.limit_inv hpath
    obtain ⟨maxUw, hmax, hhi⟩ := slot_max_le hbounds
    exact ⟨watts * 1000000, maxUw, hvalue, hmax, (Nat.mul_le_mul_right _ hle).trans hhi⟩
  · intro hnone w hw hsub
    have hranged := ((hlog w hw).cpuWrite hsub).scaling_ranged
    rw [hnone] at hranged
    constructor
    · intro hleaf
      cases hranged (.inl hleaf)
    · intro hleaf
      cases hranged (.inr hleaf)
  · intro hnone w hw hsub
    obtain ⟨gpu, hgpu, hwrite⟩ := (hlog w hw).gpuWrite hsub
    have hranged := hwrite.ranged
    rw [hnone gpu hgpu] at hranged
    cases hranged
  · exact hslot
  · intro rapl _ name hnone zone hzone i hindex
    exact hslot zone i (slot_unranged hnone hzone hindex)

/-- **Hardware ceilings.**  After any sequence of setter calls with any arguments, any profiles and
any ladder steps under any configurations, with any loads in between: the hardware is described and
discovered as at the start, no limit above what it declares was ever written, and nothing was
written where no range is discovered. -/
theorem powerRun_ceilings (F : Type) [FloatLike F] (b : LinuxBackend) (t : Tree)
    (ops : List PowerOp) : Ceilings b t (run (powerStep F b) (.start t) ops) :=
  ceilings_of_extends (powerRun_extends F b t ops)

end WattWarden
