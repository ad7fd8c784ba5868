import WattWarden.FrontEnds.Rows
import WattWarden.Library.Views
import WattWarden.Results.Memoryless

/-!
# The nodes of the dashboard's hardware rows

Every row that pauses the daemon has nodes of its own, with one exception: the cores take the
frequency limit with them, `set_online_cores` writes it again for the CPUs it brings online.

* `Adjustment` / `adjustRow` — left or right on such a row;
* `Writes t p row` — the nodes an adjustment may write; `adjust_writes` — **PROVED**: no others;
* `View t row` — the nodes that only the adjustments a row depends on may write;
* `onlineCores_agree`, `setFreqLimit_agree`, … — **PROVED**: reading and setting alike on trees that
  look alike.
-/

namespace WattWarden

open Library.FileTree Library.Journaling Library.Numerals Library.Views

/-- Left or right on a row, with what the radio tools answer then. -/
structure Adjustment where
  tools : RadioTools
  direction : Direction
  row : HardwareRow

def adjustRow (b : LinuxBackend) (s : SysfsRoot) (a : Adjustment) : SysfsRoot :=
  (App.handle b a.tools a.direction s a.row).1

/-- The toast of an adjustment. -/
def adjustToast (b : LinuxBackend) (s : SysfsRoot) (a : Adjustment) : Option String :=
  (App.handle b a.tools a.direction s a.row).2

/-- The adjustments a row depends on: its own, and those of the cores for the frequency limit. -/
def HardwareRow.concerns (row other : HardwareRow) : Bool :=
  decide (other = row ∨ row = .freqLimit ∧ other = .cores)

/-! ### The nodes of a row -/

def HardwareRow.subsystem : HardwareRow → Subsystem
  | cores | freqLimit | turbo => .cpu
  | gpuFreq => .drm
  | raplPl1 | raplPl2 => .powercap
  | kbdBacklight => .leds
  | wifiPowerSave | audioPowerSave => .module
  | autosuspend => .bus
  | watchdog | vmWriteback => .proc
  | bluetooth | wifiEnable => .elsewhere

/-- The power limit of the slot a zone has for a constraint, on a machine that `t` describes. -/
def IsLimitOf (t : Tree) (name : String) (p : Path) : Prop :=
  ∃ zone i, constraintIndexIn t zone name = some i ∧ p = constraintNode zone i "_power_limit_uw"

/-- What an adjustment of a row may write, on a machine that `t` describes. -/
def Writes (t : Tree) (p : Path) : HardwareRow → Prop
  | .cores => subsystem p = .cpu ∧ leaf p ∈ ["online", "scaling_min_freq", "scaling_max_freq"]
  | .freqLimit => subsystem p = .cpu ∧ leaf p ∈ ["scaling_min_freq", "scaling_max_freq"]
  | .gpuFreq => subsystem p = .drm ∧ leaf p ∉ gpuRangeLeaves
  | .raplPl1 => IsLimitOf t longTerm p
  | .raplPl2 => IsLimitOf t shortTerm p
  | .turbo => p = noTurboNode ∨ p = boostNode
  | .kbdBacklight => subsystem p = .leds
  | .bluetooth | .wifiEnable => False
  | .wifiPowerSave => p = iwlwifiPowerSave
  | .audioPowerSave => p = sndHdaPowerSave ∨ p = sndHdaPowerSaveController
  | .autosuspend => subsystem p = .bus
  | .watchdog => p = nmiWatchdogPath
  | .vmWriteback => p = dirtyWriteback

section Nodes

variable {t : Tree} {p : Path} {row other : HardwareRow}

theorem IsLimitOf.subsystem_eq {name : String} (h : IsLimitOf t name p) :
    subsystem p = .powercap := by
  obtain ⟨zone, i, -, rfl⟩ := h
  rfl

theorem IsLimitOf.not_isRange {name : String} (h : IsLimitOf t name p) : ¬IsRange p := by
  obtain ⟨zone, i, -, rfl⟩ := h
  exact limit_not_isRange zone i

theorem Writes.subsystem_eq (h : Writes t p row) : subsystem p = row.subsystem := by
  cases row with
  | cores => exact h.1
  | freqLimit => exact h.1
  | gpuFreq => exact h.1
  | raplPl1 => exact h.subsystem_eq
  | raplPl2 => exact h.subsystem_eq
  | turbo => rcases h with rfl | rfl <;> rfl
  | kbdBacklight => exact h
  | bluetooth => cases h
  | wifiEnable => cases h
  | wifiPowerSave => rw [show p = _ from h]; rfl
  | audioPowerSave => rcases h with rfl | rfl <;> rfl
  | autosuspend => exact h
  | watchdog => rw [show p = _ from h]; rfl
  | vmWriteback => rw [show p = _ from h]; rfl

theorem Writes.not_isRange (h : Writes t p row) : ¬IsRange p := by
  have hsoft : row.subsystem ∉ [Subsystem.cpu, .powercap, .drm] → ¬IsRange p := by
    intro hsub hrange
    apply hsub
    rw [← h.subsystem_eq]
    exact hrange.isHardware
  have hcpu : subsystem p = .cpu → leaf p ∈ ["online", "scaling_min_freq", "scaling_max_freq"] →
      ¬IsRange p := by
    intro hsub hmem
    apply not_isRange_of_cpu hsub
    simp only [List.mem_cons, List.not_mem_nil, or_false] at hmem
    rcases hmem with hleaf | hleaf | hleaf <;> rw [hleaf] <;> decide
  cases row with
  | cores => exact hcpu h.1 h.2
  | freqLimit => exact hcpu h.1 (List.mem_cons_of_mem _ h.2)
  | gpuFreq => exact not_isRange_of_drm h.1 h.2
  | raplPl1 => exact h.not_isRange
  | raplPl2 => exact h.not_isRange
  | turbo => rcases h with rfl | rfl <;> exact not_isRange_of_cpu rfl (by decide)
  | _ => exact hsoft (by decide)

end Nodes

/-! ### An adjustment writes its own nodes -/

section Written

variable {t : Tree} {s : SysfsRoot}

theorem mem_controlNodes {p : Path} (h : p ∈ Tweaks.controlNodes t) : subsystem p = .bus := by
  simp only [Tweaks.controlNodes, List.mem_flatMap, List.mem_cons, List.not_mem_nil, or_false,
    List.mem_map] at h
  obtain ⟨base, rfl | rfl, device, -, rfl⟩ := h <;> rfl

theorem setFreqLimit_writes (cpu : LinuxCpuGovernor) (mhz : ℕ) :
    Extends (fun w => Writes t w.path .freqLimit) s (cpu.setFreqLimit s mhz) := by
  apply (setFreqLimit_targets cpu s mhz).mono
  intro w hw
  refine ⟨?_, hw.leaf_mem⟩
  obtain ⟨id, -, -, hpath | hpath⟩ := hw <;> rw [hpath] <;> rfl

theorem setOnlineCores_writes (cpu : LinuxCpuGovernor) (count : ℕ) :
    Extends (fun w => Writes t w.path .cores) s (cpu.setOnlineCores s count) := by
  have honline : ∀ n, Extends (fun w => Writes t w.path .cores) s (cpu.writeOnline s n) := by
    intro n
    apply (Extends.refl _ s).foldl
    intro e _ s hs
    exact hs.write ⟨rfl, by simp [onlineNode]⟩
  apply (honline _).trans
  apply (setOnlineCores_targets cpu s count).mono
  intro w hw
  refine ⟨?_, List.mem_cons_of_mem _ hw.leaf_mem⟩
  obtain ⟨id, -, -, hpath | hpath⟩ := hw <;> rw [hpath] <;> rfl

/-- One zone of a constraint: its own slot, if any. -/
theorem writeZone_writes {acc : SysfsRoot × Option ℕ} (h : SameRanges t acc.1.tree) (name : String)
    (watts : ℕ) (zone : String) :
    Extends (fun w => IsLimitOf t name w.path) acc.1
      (LinuxRapl.writeZone name watts acc zone).1 := by
  have hnothing := Extends.refl (fun w : Write Actor => IsLimitOf t name w.path) acc.1
  rw [LinuxRapl.writeZone, constraintIndexIn_congr h]
  split
  · exact hnothing
  · rename_i i hindex
    split
    · exact hnothing
    · show Extends _ _ (if _ then _ else _ : SysfsRoot × Option ℕ).1
      split
      · exact hnothing.write ⟨zone, i, hindex, rfl⟩
      · exact hnothing

theorem sameRanges_writeZone {acc : SysfsRoot × Option ℕ} (h : SameRanges t acc.1.tree)
    (name : String) (watts : ℕ) (zone : String) :
    SameRanges t (LinuxRapl.writeZone name watts acc zone).1.tree := by
  intro p hp
  have hfix : ∀ w : Write Actor, IsLimitOf t name w.path → ¬IsRange w.path :=
    fun _ hw => IsLimitOf.not_isRange hw
  rw [sameRanges_of_extends hfix (writeZone_writes h name watts zone) p hp]
  exact h p hp

/-- A constraint is written at its own slots. -/
theorem writeConstraint_writes (h : SameRanges t s.tree) (rapl : LinuxRapl) (name : String)
    (watts : ℕ) :
    Extends (fun w => IsLimitOf t name w.path) s (rapl.writeConstraint s name watts).1 := by
  have hloop : ∀ (zones : List String) (acc : SysfsRoot × Option ℕ), SameRanges t acc.1.tree →
      Extends (fun w => IsLimitOf t name w.path) s acc.1 →
      Extends (fun w => IsLimitOf t name w.path) s
        (zones.foldl (LinuxRapl.writeZone name watts) acc).1 := by
    intro zones
    induction zones with
    | nil => exact fun acc _ hacc => hacc
    | cons zone zones ih =>
      intro acc hsame hacc
      exact ih _ (sameRanges_writeZone hsame name watts zone)
        (hacc.trans (writeZone_writes hsame name watts zone))
  exact hloop rapl.domains (s, none) h (Extends.refl _ s)

/-- **An adjustment writes its own nodes.** -/
theorem adjust_writes (h : SameRanges t s.tree) (b : LinuxBackend) (a : Adjustment) :
    Extends (fun w => Writes t w.path a.row) s (adjustRow b s a) := by
  obtain ⟨tools, direction, row⟩ := a
  have hnothing := Extends.refl (fun w : Write Actor => Writes t w.path row) s
  cases row with
  | cores => exact setOnlineCores_writes b.cpu _
  | freqLimit => exact setFreqLimit_writes b.cpu _
  | gpuFreq =>
    rw [adjustRow, App.handle]
    split
    · exact hnothing
    · rename_i gpu hgpu
      have hwrites : ∀ w, GpuWrite gpu s.tree w → Writes t w.path .gpuFreq := by
        intro w hw
        cases hw with
        | gtMin => exact ⟨subsystem_gpuNode gpu _, by simp [LinuxGpu.node, gpuRangeLeaves]⟩
        | gtMax => exact ⟨subsystem_gpuNode gpu _, by simp [LinuxGpu.node, gpuRangeLeaves]⟩
      exact setGpuFreq_extends hwrites (fun w hw => Writes.not_isRange hw) hnothing _
  | raplPl1 =>
    rw [adjustRow, App.handle, App.handleRapl]
    split
    · exact hnothing
    · rename_i rapl hrapl
      exact writeConstraint_writes h rapl longTerm _
  | raplPl2 =>
    rw [adjustRow, App.handle, App.handleRapl]
    split
    · exact hnothing
    · rename_i rapl hrapl
      exact writeConstraint_writes h rapl shortTerm _
  | turbo =>
    show Extends _ _ (LinuxCpuGovernor.setTurboEnabled s _)
    rw [LinuxCpuGovernor.setTurboEnabled]
    split
    · exact hnothing.write (.inl rfl)
    · split
      · exact hnothing.write (.inr rfl)
      · exact hnothing
  | kbdBacklight =>
    apply setKbdBacklight_extends _ hnothing
    intro w hw
    cases hw with
    | brightness => rfl
  | bluetooth => exact hnothing
  | wifiEnable => exact hnothing
  | wifiPowerSave => exact writeNode_extends rfl hnothing
  | audioPowerSave => exact writeNode_extends (.inr rfl) (writeNode_extends (.inl rfl) hnothing)
  | autosuspend =>
    apply hnothing.foldl
    intro p hp s hs
    exact writeNode_extends (mem_controlNodes hp) hs
  | watchdog => exact writeNode_extends rfl hnothing
  | vmWriteback => exact writeNode_extends rfl hnothing

end Written

/-! ### What the other rows leave alone -/

/-- The nodes that no adjustment writes but those a row depends on. -/
def View (t : Tree) (row : HardwareRow) (p : Path) : Prop :=
  ∀ other, row.concerns other = false → ¬Writes t p other

section Views

variable {t : Tree} {row : HardwareRow} {p : Path}

theorem view_of_isRange (h : IsRange p) : View t row p := fun _ _ hw => hw.not_isRange h

/-- A node of a subsystem that no other row writes in. -/
theorem view_of_subsystem
    (h : ∀ other, row.concerns other = false → other.subsystem ≠ subsystem p) : View t row p :=
  fun other hother hw => h other hother hw.subsystem_eq.symm

/-- The three rows with a subsystem of their own. -/
theorem view_of_own (hrow : row ∈ [HardwareRow.gpuFreq, .kbdBacklight, .autosuspend])
    (h : subsystem p = row.subsystem) : View t row p := by
  apply view_of_subsystem
  intro other
  rw [h]
  simp only [List.mem_cons, List.not_mem_nil, or_false] at hrow
  rcases hrow with rfl | rfl | rfl <;> cases other <;> decide

/-- Under the CPU directory only the turbo nodes are none of the frequency limit's business. -/
theorem view_of_cpu (hsub : subsystem p = .cpu) (hleaf : leaf p ∉ ["no_turbo", "boost"]) :
    View t .freqLimit p := by
  intro other hother hw
  have heq := hw.subsystem_eq
  rw [hsub] at heq
  cases other with
  | turbo => rcases hw with rfl | rfl <;> exact hleaf (by decide)
  | cores => cases hother
  | freqLimit => cases hother
  | _ => cases heq

theorem view_online (id : ℕ) : View t .cores (onlineNode id) := by
  intro other hother hw
  have heq : Subsystem.cpu = other.subsystem := hw.subsystem_eq
  have hleaf : leaf (onlineNode id) = "online" := by rw [onlineNode, leaf_append]
  cases other with
  | turbo => rcases hw with hpath | hpath <;> rw [hpath] at hleaf <;> exact absurd hleaf (by decide)
  | cores => cases hother
  | freqLimit =>
    have hmem := hw.2
    rw [hleaf] at hmem
    exact absurd hmem (by decide)
  | _ => cases heq

theorem view_turbo (h : p = noTurboNode ∨ p = boostNode) : View t .turbo p := by
  intro other hother hw
  have heq : Subsystem.cpu = other.subsystem := by
    rw [← hw.subsystem_eq]
    rcases h with rfl | rfl <;> rfl
  cases other with
  | turbo => cases hother
  | cores => rcases h with rfl | rfl <;> exact absurd hw.2 (by decide)
  | freqLimit => rcases h with rfl | rfl <;> exact absurd hw.2 (by decide)
  | _ => cases heq

/-- In a powercap zone only the other constraint's limits are out of view. -/
theorem view_of_powercap {row other : HardwareRow} (hsub : subsystem p = .powercap)
    (hrow : row = .raplPl1 ∧ other = .raplPl2 ∨ row = .raplPl2 ∧ other = .raplPl1)
    (hlimit : ¬Writes t p other) : View t row p := by
  intro third hthird hw
  have heq := hw.subsystem_eq
  rw [hsub] at heq
  obtain ⟨rfl, rfl⟩ | ⟨rfl, rfl⟩ := hrow <;> cases third with
  | raplPl1 => first | exact hlimit hw | cases hthird
  | raplPl2 => first | exact hlimit hw | cases hthird
  | _ => cases heq

/-- A slot has one name. -/
theorem not_isLimitOf {zone name name' : String} {i : ℕ} (hne : name ≠ name')
    (h : constraintIndexIn t zone name = some i) :
    ¬IsLimitOf t name' (constraintNode zone i "_power_limit_uw") := by
  intro hlimit
  obtain ⟨zone', j, hindex, hpath⟩ := hlimit
  obtain ⟨rfl, rfl⟩ := constraintNode_inj hpath
  rw [constraintIndexIn, List.find?_eq_some_iff_append] at h hindex
  apply hne
  rw [← of_decide_eq_true h.1, ← of_decide_eq_true hindex.1]

theorem view_wifi : View t .wifiPowerSave iwlwifiPowerSave := by
  intro other hother hw
  have heq : Subsystem.module = other.subsystem := hw.subsystem_eq
  cases other with
  | wifiPowerSave => cases hother
  | audioPowerSave => exact absurd hw (by rw [Writes]; decide)
  | _ => cases heq

theorem view_audio (h : p = sndHdaPowerSave ∨ p = sndHdaPowerSaveController) :
    View t .audioPowerSave p := by
  intro other hother hw
  have heq : Subsystem.module = other.subsystem := by
    rw [← hw.subsystem_eq]
    rcases h with rfl | rfl <;> rfl
  cases other with
  | audioPowerSave => cases hother
  | wifiPowerSave => rcases h with rfl | rfl <;> exact absurd hw (by rw [Writes]; decide)
  | _ => cases heq

theorem view_watchdog : View t .watchdog nmiWatchdogPath := by
  intro other hother hw
  have heq : Subsystem.proc = other.subsystem := hw.subsystem_eq
  cases other with
  | watchdog => cases hother
  | vmWriteback => exact absurd hw (by rw [Writes]; decide)
  | _ => cases heq

theorem view_vmWriteback : View t .vmWriteback dirtyWriteback := by
  intro other hother hw
  have heq : Subsystem.proc = other.subsystem := hw.subsystem_eq
  cases other with
  | vmWriteback => cases hother
  | watchdog => exact absurd hw (by rw [Writes]; decide)
  | _ => cases heq

end Views

/-! ### Reading and setting alike -/

section Alike

variable {S : Path → Prop} {t₁ t₂ : Tree} {s₁ s₂ : SysfsRoot}

theorem sameRanges_of_agree (hS : ∀ p, IsRange p → S p) (h : Agree S t₁ t₂) : SameRanges t₁ t₂ :=
  fun p hp => (h.content_eq p (hS p hp)).symm

theorem read_agree (h : Agree S t₁ t₂) {p : Path} (hp : S p) :
    SysfsRoot.read t₁ p = SysfsRoot.read t₂ p :=
  SysfsRoot.read_congr (h.content_eq p hp)

theorem onlineCores_agree (h : Agree S t₁ t₂) (hS : ∀ id, S (onlineNode id))
    (cpu : LinuxCpuGovernor) : cpu.onlineCores t₁ = cpu.onlineCores t₂ := by
  have hread : ∀ id, SysfsRoot.read t₁ (onlineNode id) = SysfsRoot.read t₂ (onlineNode id) :=
    fun id => read_agree h (hS id)
  simp only [LinuxCpuGovernor.onlineCores, hread]

theorem freqLimit_agree (h : Agree S t₁ t₂) (hS : S (cpufreqNode 0 "scaling_max_freq")) :
    LinuxCpuGovernor.freqLimit t₁ = LinuxCpuGovernor.freqLimit t₂ := by
  rw [LinuxCpuGovernor.freqLimit, LinuxCpuGovernor.freqLimit,
    SysfsRoot.readI64_congr (h.content_eq _ hS)]

theorem writeOnline_agree (h : Agree S s₁.tree s₂.tree) (cpu : LinuxCpuGovernor) (n : ℕ) :
    Agree S (cpu.writeOnline s₁ n).tree (cpu.writeOnline s₂ n).tree := by
  apply h.foldl
  intro e _ s₁ s₂ hs
  exact hs.write_both _ _

theorem setFreqLimit_agree (hS : ∀ p, IsRange p → S p) (hdir : ∀ id, S (cpufreqDir id))
    (h : Agree S s₁.tree s₂.tree) (cpu : LinuxCpuGovernor) (mhz : ℕ) :
    Agree S (cpu.setFreqLimit s₁ mhz).tree (cpu.setFreqLimit s₂ mhz).tree := by
  rw [LinuxCpuGovernor.setFreqLimit, LinuxCpuGovernor.setFreqLimit,
    discoveredFreqBounds_congr cpu (sameRanges_of_agree hS h)]
  split
  · exact h
  · apply h.foldl
    intro id _ s₁ s₂ hs
    rw [LinuxCpuGovernor.writeScaling, LinuxCpuGovernor.writeScaling, hs.pathExists_eq (hdir id)]
    split
    · exact (hs.write_both _ _).write_both _ _
    · exact hs

/-- `set_online_cores` where the frequency limit is in view. -/
theorem setOnlineCores_agree (hS : ∀ p, IsRange p → S p) (hdir : ∀ id, S (cpufreqDir id))
    (hlimit : S (cpufreqNode 0 "scaling_max_freq")) (h : Agree S s₁.tree s₂.tree)
    (cpu : LinuxCpuGovernor) (count : ℕ) :
    Agree S (cpu.setOnlineCores s₁ count).tree (cpu.setOnlineCores s₂ count).tree := by
  have honline := writeOnline_agree h cpu (clamp 1 cpu.numCpus count)
  rw [LinuxCpuGovernor.setOnlineCores, LinuxCpuGovernor.setOnlineCores,
    freqLimit_agree honline hlimit]
  split
  · exact setFreqLimit_agree hS hdir honline cpu _
  · exact honline

theorem cardRead_agree (h : Agree S t₁ t₂) (gpu : LinuxGpu) (hS : ∀ name, S (gpu.node name))
    (name : String) : gpu.cardRead t₁ name = gpu.cardRead t₂ name := by
  rw [LinuxGpu.cardRead, LinuxGpu.cardRead, read_agree h (hS name)]

theorem setGpuFreq_agree (h : Agree S s₁.tree s₂.tree) (gpu : LinuxGpu)
    (hS : ∀ name, S (gpu.node name)) (mhz : ℕ) :
    Agree S (gpu.setGpuFreq s₁ mhz).tree (gpu.setGpuFreq s₂ mhz).tree := by
  have hbounds : gpu.discoveredGpuBounds s₁.tree = gpu.discoveredGpuBounds s₂.tree := by
    rw [LinuxGpu.discoveredGpuBounds, LinuxGpu.discoveredGpuBounds, cardRead_agree h gpu hS,
      cardRead_agree h gpu hS]
  rw [LinuxGpu.setGpuFreq, LinuxGpu.setGpuFreq, hbounds]
  split
  · exact h
  · exact (h.writeIf (hS _) _ _).writeIf (hS _) _ _

theorem bounds_agree (hS : ∀ p, IsRange p → S p) (rapl : LinuxRapl)
    (hpackage : ∀ zone, S (zonePath zone ++ ["min_power_range_uw"]) ∧
      S (zonePath zone ++ ["max_power_range_uw"])) (h : Agree S t₁ t₂) :
    rapl.bounds t₁ = rapl.bounds t₂ := by
  have hsame := sameRanges_of_agree hS h
  have hconstraints : rapl.boundsOf t₁ = rapl.boundsOf t₂ := by
    funext name
    exact (boundsOf_congr rapl hsame name).symm
  have hpackages : LinuxRapl.packageRange t₁ = LinuxRapl.packageRange t₂ := by
    funext zone
    rw [LinuxRapl.packageRange, LinuxRapl.packageRange,
      SysfsRoot.readU64_congr (h.content_eq _ (hpackage zone).1),
      SysfsRoot.readU64_congr (h.content_eq _ (hpackage zone).2)]
  rw [LinuxRapl.bounds, LinuxRapl.bounds, hconstraints, hpackages]

/-- The limits of one constraint are in view. -/
def SeesLimits (t : Tree) (name : String) (S : Path → Prop) : Prop :=
  ∀ zone i, constraintIndexIn t zone name = some i → S (constraintNode zone i "_power_limit_uw")

theorem getLimit_agree {name : String} (hS : ∀ p, IsRange p → S p) (rapl : LinuxRapl)
    (h : Agree S t₁ t₂) (hlimits : SeesLimits t₁ name S) :
    rapl.getLimit t₁ name = rapl.getLimit t₂ name := by
  have hzone : ∀ zone, (constraintIndexIn t₁ zone name).map (fun i =>
        (SysfsRoot.readU64 t₁ (constraintNode zone i "_power_limit_uw")).getD 0 / 1000000 % 2 ^ 32)
      = (constraintIndexIn t₂ zone name).map fun i =>
        (SysfsRoot.readU64 t₂ (constraintNode zone i "_power_limit_uw")).getD 0 / 1000000
          % 2 ^ 32 := by
    intro zone
    rw [constraintIndexIn_congr (sameRanges_of_agree hS h)]
    cases hindex : constraintIndexIn t₁ zone name with
    | none => rfl
    | some i =>
      rw [Option.map_some, Option.map_some,
        SysfsRoot.readU64_congr (h.content_eq _ (hlimits zone i hindex))]
  rw [LinuxRapl.getLimit, LinuxRapl.getLimit]
  simp only [hzone]

theorem writeConstraint_agree {t : Tree} {name : String} (hS : ∀ p, IsRange p → S p)
    (hlimits : SeesLimits t name S) (hsame : SameRanges t s₁.tree) (h : Agree S s₁.tree s₂.tree)
    (rapl : LinuxRapl) (watts : ℕ) :
    Agree S (rapl.writeConstraint s₁ name watts).1.tree
      (rapl.writeConstraint s₂ name watts).1.tree := by
  have hloop : ∀ (zones : List String) (acc₁ acc₂ : SysfsRoot × Option ℕ),
      SameRanges t acc₁.1.tree → Agree S acc₁.1.tree acc₂.1.tree →
      Agree S (zones.foldl (LinuxRapl.writeZone name watts) acc₁).1.tree
        (zones.foldl (LinuxRapl.writeZone name watts) acc₂).1.tree := by
    intro zones
    induction zones with
    | nil => exact fun acc₁ acc₂ _ hacc => hacc
    | cons zone zones ih =>
      intro acc₁ acc₂ hranges hacc
      apply ih _ _ (sameRanges_writeZone hranges name watts zone)
      have hboth := sameRanges_of_agree hS hacc
      rw [LinuxRapl.writeZone, LinuxRapl.writeZone, constraintIndexIn_congr hboth]
      cases hindex : constraintIndexIn acc₁.1.tree zone name with
      | none => exact hacc
      | some i =>
        dsimp only
        rw [constraintBoundsWattsIn_congr hboth]
        split
        · exact hacc
        · show Agree S (if _ then _ else acc₁ : SysfsRoot × Option ℕ).1.tree
            (if _ then _ else acc₂ : SysfsRoot × Option ℕ).1.tree
          rw [constraintIndexIn_congr hranges] at hindex
          rw [hacc.pathExists_eq (hlimits zone i hindex)]
          split
          · exact hacc.write_both _ _
          · exact hacc
  exact hloop rapl.domains (s₁, none) (s₂, none) hsame h

theorem turboEnabled_agree (h : Agree S t₁ t₂) (hS : ∀ p, p = noTurboNode ∨ p = boostNode → S p) :
    LinuxCpuGovernor.turboEnabled t₁ = LinuxCpuGovernor.turboEnabled t₂ := by
  have hno : S noTurboNode := hS _ (.inl rfl)
  have hboost : S boostNode := hS _ (.inr rfl)
  rw [LinuxCpuGovernor.turboEnabled, LinuxCpuGovernor.turboEnabled, h.pathExists_eq hno,
    h.pathExists_eq hboost, read_agree h hno, read_agree h hboost]

theorem setTurboEnabled_agree (h : Agree S s₁.tree s₂.tree)
    (hS : ∀ p, p = noTurboNode ∨ p = boostNode → S p) (enabled : Bool) :
    Agree S (LinuxCpuGovernor.setTurboEnabled s₁ enabled).tree
      (LinuxCpuGovernor.setTurboEnabled s₂ enabled).tree := by
  rw [LinuxCpuGovernor.setTurboEnabled, LinuxCpuGovernor.setTurboEnabled,
    h.pathExists_eq (hS noTurboNode (.inl rfl)), h.pathExists_eq (hS boostNode (.inr rfl))]
  split
  · exact h.write_both _ _
  · split
    · exact h.write_both _ _
    · exact h

theorem kbdBacklight_agree (h : Agree S t₁ t₂) (hS : ∀ p, subsystem p = .leds → S p) :
    kbdBacklight t₁ = kbdBacklight t₂ := by
  have hleds : kbdLeds t₁ = kbdLeds t₂ := by
    rw [kbdLeds, kbdLeds, h.names_eq fun n => hS _ rfl]
  have hnode : ∀ led, S (ledNode led "brightness") := fun led => hS _ rfl
  have hexists : ∀ led, t₁.pathExists (ledNode led "brightness")
      = t₂.pathExists (ledNode led "brightness") := fun led => h.pathExists_eq (hnode led)
  have hread : ∀ led, SysfsRoot.read t₁ (ledNode led "brightness")
      = SysfsRoot.read t₂ (ledNode led "brightness") := fun led => read_agree h (hnode led)
  simp only [kbdBacklight, hleds, hexists, hread]

theorem setKbdBacklight_agree (h : Agree S s₁.tree s₂.tree) (hS : ∀ p, subsystem p = .leds → S p)
    (enabled : Bool) :
    Agree S (setKbdBacklight s₁ enabled).tree (setKbdBacklight s₂ enabled).tree := by
  have hleds : kbdLeds s₁.tree = kbdLeds s₂.tree := by
    rw [kbdLeds, kbdLeds, h.names_eq fun n => hS _ rfl]
  rw [setKbdBacklight, setKbdBacklight, hleds]
  apply h.foldl
  intro led _ s₁ s₂ hs
  dsimp only
  rw [read_agree hs (hS (ledNode led "max_brightness") rfl)]
  exact hs.write_both _ _

theorem autosuspend_agree (h : Agree S t₁ t₂) (hS : ∀ p, subsystem p = .bus → S p) :
    Tweaks.autosuspend t₁ = Tweaks.autosuspend t₂ := by
  have hread : ∀ device, SysfsRoot.read t₁ (usbDevices ++ [device, "power", "control"])
      = SysfsRoot.read t₂ (usbDevices ++ [device, "power", "control"]) :=
    fun device => read_agree h (hS _ rfl)
  have hnames : t₁.names usbDevices = t₂.names usbDevices := h.names_eq fun n => hS _ rfl
  simp only [Tweaks.autosuspend, hnames, hread]

theorem setAutosuspend_agree (h : Agree S s₁.tree s₂.tree) (hS : ∀ p, subsystem p = .bus → S p)
    (enabled : Bool) :
    Agree S (Tweaks.setAutosuspend s₁ enabled).tree (Tweaks.setAutosuspend s₂ enabled).tree := by
  have hnodes : Tweaks.controlNodes s₁.tree = Tweaks.controlNodes s₂.tree := by
    have husb : s₁.tree.names usbDevices = s₂.tree.names usbDevices := h.names_eq fun n => hS _ rfl
    have hpci : s₁.tree.names pciDevices = s₂.tree.names pciDevices := h.names_eq fun n => hS _ rfl
    simp only [Tweaks.controlNodes, List.flatMap_cons, List.flatMap_nil, husb, hpci]
  rw [Tweaks.setAutosuspend, Tweaks.setAutosuspend, hnodes]
  apply h.foldl
  intro p hp s₁ s₂ hs
  exact hs.writeIf (hS p (mem_controlNodes hp)) _ _

theorem wifiPowerSave_agree (h : Agree S t₁ t₂) (hp : S iwlwifiPowerSave) (iwOn : Bool) :
    Tweaks.wifiPowerSave iwOn t₁ = Tweaks.wifiPowerSave iwOn t₂ := by
  rw [Tweaks.wifiPowerSave, Tweaks.wifiPowerSave, read_agree h hp]

theorem audioPowerSave_agree (h : Agree S t₁ t₂) (hp : S sndHdaPowerSave) :
    Tweaks.audioPowerSave t₁ = Tweaks.audioPowerSave t₂ := by
  rw [Tweaks.audioPowerSave, Tweaks.audioPowerSave, read_agree h hp]

theorem nmiWatchdog_agree (h : Agree S t₁ t₂) (hp : S nmiWatchdogPath) :
    Tweaks.nmiWatchdog t₁ = Tweaks.nmiWatchdog t₂ := by
  rw [Tweaks.nmiWatchdog, Tweaks.nmiWatchdog, read_agree h hp]

theorem vmWriteback_agree (h : Agree S t₁ t₂) (hp : S dirtyWriteback) :
    Tweaks.vmWritebackCentisecs t₁ = Tweaks.vmWritebackCentisecs t₂ := by
  rw [Tweaks.vmWritebackCentisecs, Tweaks.vmWritebackCentisecs,
    SysfsRoot.readI64_congr (h.content_eq _ hp)]

/-- A node of the kernel tweaks. -/
theorem writeNode_agree {p : Path} (hp : S p) (h : Agree S s₁.tree s₂.tree) (v : String) :
    Agree S (Tweaks.writeNode s₁ p v).tree (Tweaks.writeNode s₂ p v).tree :=
  h.writeIf hp _ _

end Alike

end WattWarden
