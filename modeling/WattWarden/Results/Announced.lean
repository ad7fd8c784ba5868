import WattWarden.FrontEnds.Adjust
import WattWarden.Results.CoreScaling
import WattWarden.Results.ZoneCeilings

/-!
# The number in the toast of a limit row

Four rows of the dashboard step a limit inside the displayed bounds, write it and announce the
stepped value.  The write is clamped into the range of each node, or left out, and the getter reads
one node: here the announced number is compared with what the getter then reads.

* `NumericRow` — the rows, with their getter and their toast;
* `Gauge` — a row before the step: the value read, the displayed bounds and the range of the node
  that is read;
* `Gauge.settles_iff` — **PROVED**: when a stepped value is the one read back;
* `freqLimit_setFreqLimit`, `gpuFreq_setGpuFreq`, `getLimit_writeConstraint` — **PROVED**: what a getter
  reads after its setter;
* `announced_iff` — **PROVED**: the toast is right exactly when the step stays in the range of the node
  that is read, or, with no such range, does not move the value.
-/

namespace WattWarden

open Library.FileTree Library.Journaling Library.Numerals

/-! ### One step of a gauge -/

/-- A limit before a step.  `own` is the range of the node that is read, when the write reaches the
node. -/
structure Gauge where
  current : ℕ
  shown : ℕ × ℕ
  own : Option (ℕ × ℕ)
  current_lt : current < 2 ^ 32
  own_lt : ∀ range, own = some range → range.1 < range.2
  own_le : ∀ range, own = some range → shown.1 ≤ range.1 ∧ range.2 ≤ shown.2

namespace Gauge

/-- The value a step announces. -/
def next (g : Gauge) (direction : Direction) (step : ℕ) : ℕ :=
  App.stepped direction (2 ^ 32) step g.shown.1 g.shown.2 g.current

/-- The value read after `v` was set. -/
def after (g : Gauge) (v : ℕ) : ℕ := g.own.elim g.current fun range => clamp range.1 range.2 v

/-- A step from the current value stays in the range of the node: it does not leave it on the far
side, and it reaches it from the near side. -/
def StaysWithin (g : Gauge) (direction : Direction) (step : ℕ) (range : ℕ × ℕ) : Prop :=
  match direction with
  | .left => (g.shown.1 = range.1 ∨ range.1 + step ≤ g.current) ∧ g.current ≤ range.2 + step
  | .right => (g.shown.2 = range.2 ∨ (g.current + step) % 2 ^ 32 ≤ range.2) ∧
      range.1 ≤ (g.current + step) % 2 ^ 32

/-- The current value is at the displayed bound, where a step does not move it. -/
def AtBound (g : Gauge) (direction : Direction) (step : ℕ) : Prop :=
  match direction with
  | .left => g.current = g.shown.1
  | .right => g.current = g.shown.2 ∧ g.current + step < 2 ^ 32

/-- Where the node has a range the step stays in it, and where it has none there is no step. -/
def Settles (g : Gauge) (direction : Direction) (step : ℕ) : Prop :=
  (∃ range, g.own = some range ∧ g.StaysWithin direction step range) ∨
    g.own = none ∧ g.AtBound direction step

theorem clamp_eq_self_iff {lo hi v : ℕ} (h : lo ≤ hi) : clamp lo hi v = v ↔ lo ≤ v ∧ v ≤ hi :=
  ⟨fun heq => heq ▸ ⟨le_clamp h, clamp_le h⟩, fun hv => clamp_eq_self hv.1 hv.2⟩

/-- A step stays in the range of the node. -/
theorem staysWithin_iff (g : Gauge) (direction : Direction) {step : ℕ} {range : ℕ × ℕ}
    (h : g.own = some range) : g.StaysWithin direction step range ↔
      range.1 ≤ g.next direction step ∧ g.next direction step ≤ range.2 := by
  have hlt := g.own_lt range h
  have hle := g.own_le range h
  cases direction with
  | left =>
    show (g.shown.1 = range.1 ∨ range.1 + step ≤ g.current) ∧ g.current ≤ range.2 + step ↔
      range.1 ≤ max (g.current - step) g.shown.1 ∧ max (g.current - step) g.shown.1 ≤ range.2
    omega
  | right =>
    show (g.shown.2 = range.2 ∨ (g.current + step) % 2 ^ 32 ≤ range.2) ∧
        range.1 ≤ (g.current + step) % 2 ^ 32 ↔
      range.1 ≤ min ((g.current + step) % 2 ^ 32) g.shown.2 ∧
        min ((g.current + step) % 2 ^ 32) g.shown.2 ≤ range.2
    omega

/-- A step does not move the value. -/
theorem atBound_iff (g : Gauge) (direction : Direction) {step : ℕ} (hpos : 0 < step)
    (hstep : step < 2 ^ 32) :
    g.AtBound direction step ↔ g.current = g.next direction step := by
  have hlt := g.current_lt
  cases direction with
  | left =>
    show g.current = g.shown.1 ↔ g.current = max (g.current - step) g.shown.1
    omega
  | right =>
    show g.current = g.shown.2 ∧ g.current + step < 2 ^ 32 ↔
      g.current = min ((g.current + step) % 2 ^ 32) g.shown.2
    omega

/-- **When a stepped value is the one read back.** -/
theorem settles_iff (g : Gauge) (direction : Direction) {step : ℕ} (hpos : 0 < step)
    (hstep : step < 2 ^ 32) : g.Settles direction step ↔
      g.after (g.next direction step) = g.next direction step := by
  rw [Settles, after]
  cases hown : g.own with
  | none => simpa using g.atBound_iff direction hpos hstep
  | some range =>
    have hle : range.1 ≤ range.2 := (g.own_lt range hown).le
    rw [Option.elim_some, clamp_eq_self_iff hle, ← g.staysWithin_iff direction hown]
    simp

end Gauge

/-! ### What a getter reads after its setter -/

/-- The range of `scaling_max_freq` of CPU 0, when a frequency limit reaches it. -/
def LinuxCpuGovernor.limitRange (cpu : LinuxCpuGovernor) (t : Tree) : Option (ℕ × ℕ) :=
  if 0 ∈ cpu.cpuIds ∧ t.pathExists (cpufreqDir 0) = true ∧
      t.writable (cpufreqNode 0 "scaling_max_freq") = true then
    cpu.discoveredFreqBounds t
  else none

/-- The range of the card's limit, when there is one and the limit is a node. -/
def LinuxGpu.limitRange (gpu : LinuxGpu) (t : Tree) : Option (ℕ × ℕ) :=
  if t.isFile (gpu.node gtMaxFreq) = true then gpu.discoveredGpuBounds t else none

/-- The first zone exposing the constraint, and its slot there. -/
def LinuxRapl.firstSlot (rapl : LinuxRapl) (t : Tree) (name : String) : Option (String × ℕ) :=
  rapl.domains.findSome? fun zone => (constraintIndexIn t zone name).map fun i => (zone, i)

/-- The range of the constraint in that zone, when it has one and a limit node. -/
def LinuxRapl.limitRange (rapl : LinuxRapl) (t : Tree) (name : String) : Option (ℕ × ℕ) :=
  (rapl.firstSlot t name).bind fun slot =>
    if t.isFile (limitNode slot.1 slot.2) = true then constraintBoundsWattsIn t slot.1 slot.2
    else none

section ReadBack

variable {cpu : LinuxCpuGovernor} {gpu : LinuxGpu} {rapl : LinuxRapl} {t : Tree} {s : SysfsRoot}
variable {range : ℕ × ℕ}

theorem limitRange_cpu_eq_some (h : cpu.limitRange t = some range) :
    (0 ∈ cpu.cpuIds ∧ t.pathExists (cpufreqDir 0) = true ∧
      t.writable (cpufreqNode 0 "scaling_max_freq") = true) ∧
        cpu.discoveredFreqBounds t = some range := by
  rw [LinuxCpuGovernor.limitRange] at h
  split_ifs at h with hnode
  exact ⟨hnode, h⟩

/-- Without a range for it, no write lands in the upper limit of CPU 0. -/
theorem freqPlan_refused (h : cpu.limitRange t = none) (mhz : ℕ) :
    ∀ w ∈ freqPlan cpu t mhz, w.path = cpufreqNode 0 "scaling_max_freq" →
      ¬t.writable (cpufreqNode 0 "scaling_max_freq") = true := by
  intro w hw hpath hwritable
  obtain ⟨lo, hi, hbounds, id, hmem, hdir, rfl | rfl⟩ := (mem_freqPlan cpu).mp hw
  · exact absurd hpath (ne_of_leaf_ne (by simp [cpufreqNode]))
  · obtain rfl := cpufreqNode_inj.mp hpath
    rw [LinuxCpuGovernor.limitRange, if_pos ⟨hmem, hdir, hwritable⟩, hbounds] at h
    cases h

/-- The frequency limit after it was set. -/
theorem freqLimit_setFreqLimit (cpu : LinuxCpuGovernor) (s : SysfsRoot) (mhz : ℕ) :
    LinuxCpuGovernor.freqLimit (cpu.setFreqLimit s mhz).tree
      = (cpu.limitRange s.tree).elim (LinuxCpuGovernor.freqLimit s.tree)
          fun range => clamp range.1 range.2 mhz := by
  rw [setFreqLimit_eq cpu (SameMachine.refl s.tree)]
  cases hrange : cpu.limitRange s.tree with
  | some range =>
    obtain ⟨⟨hmem, hdir, hwritable⟩, hbounds⟩ := limitRange_cpu_eq_some hrange
    have hlt : clamp range.1 range.2 mhz ≤ range.2 := clamp_le (bounds_lt hbounds).le
    refine freqLimit_of_content (hlt.trans_lt (freq_max_lt hbounds)) ?_
    rw [Journal.content_writeAll, planned_freqPlan hbounds hmem hdir]
    exact if_pos hwritable
  | none =>
    have hcontent := Journal.content_writeAll_of_refused (freqPlan_refused hrange mhz)
    rw [Option.elim_none, LinuxCpuGovernor.freqLimit, LinuxCpuGovernor.freqLimit,
      SysfsRoot.readI64_congr hcontent]

/-- A value of the card is a `u32`. -/
theorem cardRead_lt {name : String} {v : ℕ} (h : gpu.cardRead t name = some v) : v < 2 ^ 32 := by
  rw [LinuxGpu.cardRead] at h
  split_ifs at h
  exact of_decide_eq_true (Option.filter_eq_some_iff.mp h).2

/-- The limit of the card, read back. -/
theorem gpuFreq_of_content {mhz : ℕ} (hmhz : mhz < 2 ^ 32)
    (h : t.content (gpu.node gtMaxFreq) = some (decimal mhz)) : gpu.gpuFreq t = mhz := by
  have hread : SysfsRoot.read t (gpu.node gtMaxFreq) = decimal mhz := by
    rw [SysfsRoot.read, h, Option.map_some, Option.getD_some, trim_decimal]
  have hvalue := parseUnsigned_decimal hmhz
  have hne : decimal mhz ≠ "" := by
    intro hempty
    rw [hempty] at hvalue
    cases hvalue
  rw [LinuxGpu.gpuFreq, LinuxGpu.cardRead, hread, if_neg hne, hvalue, Option.getD_some]

theorem limitRange_gpu_eq_some (h : gpu.limitRange t = some range) :
    t.isFile (gpu.node gtMaxFreq) = true ∧ gpu.discoveredGpuBounds t = some range := by
  rw [LinuxGpu.limitRange] at h
  split_ifs at h with hfile
  exact ⟨hfile, h⟩

/-- What is planned for the limit of the card. -/
theorem planned_gpuPlan (h : gpu.limitRange t = some range) (mhz : ℕ) :
    planned (gpuPlan gpu t mhz) (gpu.node gtMaxFreq)
      = some (decimal (clamp range.1 range.2 mhz)) := by
  obtain ⟨hfile, hbounds⟩ := limitRange_gpu_eq_some h
  have hexists : t.pathExists (gpu.node gtMaxFreq) = true := by
    rw [Tree.pathExists, hfile, Bool.true_or]
  have hlimit : planned (existingPlan t (gpu.node gtMaxFreq) (decimal (clamp range.1 range.2 mhz)))
      (gpu.node gtMaxFreq) = some (decimal (clamp range.1 range.2 mhz)) := by
    rw [existingPlan, if_pos hexists, planned_cons, planned_nil, path_put, if_pos rfl]
    rfl
  rw [gpuPlan, hbounds]
  show planned (_ ++ existingPlan t (gpu.node gtMaxFreq) _) _ = _
  rw [planned_append, hlimit, Option.some_or]

/-- Without a range for it, no write lands in the limit of the card. -/
theorem gpuPlan_refused (h : gpu.limitRange t = none) (mhz : ℕ) :
    ∀ w ∈ gpuPlan gpu t mhz, w.path = gpu.node gtMaxFreq →
      ¬t.writable (gpu.node gtMaxFreq) = true := by
  intro w hw hpath hwritable
  rw [gpuPlan] at hw
  cases hbounds : gpu.discoveredGpuBounds t with
  | none =>
    rw [hbounds] at hw
    cases hw
  | some range =>
    rw [hbounds] at hw
    rcases List.mem_append.mp hw with hw | hw
    · obtain ⟨-, rfl⟩ := mem_existingPlan.mp hw
      exact absurd hpath (ne_of_leaf_ne (by simp [LinuxGpu.node, gtMaxFreq]))
    · obtain ⟨hexists, -⟩ := mem_existingPlan.mp hw
      have hfile : t.isFile (gpu.node gtMaxFreq) = true := quiet_of_pathExists hexists hwritable
      rw [LinuxGpu.limitRange, if_pos hfile, hbounds] at h
      cases h

/-- The limit of the card after it was set. -/
theorem gpuFreq_setGpuFreq (gpu : LinuxGpu) (s : SysfsRoot) (mhz : ℕ) :
    gpu.gpuFreq (gpu.setGpuFreq s mhz).tree
      = (gpu.limitRange s.tree).elim (gpu.gpuFreq s.tree)
          fun range => clamp range.1 range.2 mhz := by
  rw [setGpuFreq_eq (SameMachine.refl s.tree)]
  cases hrange : gpu.limitRange s.tree with
  | some range =>
    obtain ⟨hfile, hbounds⟩ := limitRange_gpu_eq_some hrange
    obtain ⟨-, hmax, hlt⟩ := gpu_bounds_spec hbounds
    have hclamp : clamp range.1 range.2 mhz ≤ range.2 := clamp_le hlt.le
    refine gpuFreq_of_content (hclamp.trans_lt (cardRead_lt hmax)) ?_
    rw [Journal.content_writeAll, planned_gpuPlan hrange]
    exact if_pos (Tree.writable_of_isFile hfile)
  | none =>
    have hcontent := Journal.content_writeAll_of_refused (gpuPlan_refused hrange mhz)
    rw [Option.elim_none, LinuxGpu.gpuFreq, LinuxGpu.gpuFreq, LinuxGpu.cardRead, LinuxGpu.cardRead,
      SysfsRoot.read_congr hcontent]

/-- The limit a slot shows, in Watts. -/
def slotWatts (t : Tree) (slot : String × ℕ) : ℕ :=
  (SysfsRoot.readU64 t (limitNode slot.1 slot.2)).getD 0 / 1000000 % 2 ^ 32

/-- `get_limit` reads the first slot. -/
theorem getLimit_eq (rapl : LinuxRapl) (t : Tree) (name : String) :
    rapl.getLimit t name = ((rapl.firstSlot t name).map (slotWatts t)).getD 0 := by
  rw [LinuxRapl.getLimit, LinuxRapl.firstSlot, List.map_findSome?]
  congr 2
  funext zone
  rw [Function.comp_apply, Option.map_map]
  rfl

theorem firstSlot_congr (rapl : LinuxRapl) {t t' : Tree} (h : SameRanges t t') (name : String) :
    rapl.firstSlot t' name = rapl.firstSlot t name := by
  rw [LinuxRapl.firstSlot, LinuxRapl.firstSlot]
  congr 1
  funext zone
  rw [constraintIndexIn_congr h]

theorem firstSlot_mem {name zone : String} {i : ℕ} (h : rapl.firstSlot t name = some (zone, i)) :
    zone ∈ rapl.domains ∧ constraintIndexIn t zone name = some i := by
  obtain ⟨zone', hzone, hslot⟩ := List.exists_of_findSome?_eq_some h
  obtain ⟨i', hi', heq⟩ := Option.map_eq_some_iff.mp hslot
  obtain ⟨rfl, rfl⟩ := Prod.mk.inj heq
  exact ⟨hzone, hi'⟩

/-- The zone that is read is one with a range and a limit. -/
theorem limitedZone_of_limitRange {name : String} (h : rapl.limitRange t name = some range) :
    ∃ zone i, rapl.firstSlot t name = some (zone, i) ∧
      LimitedZone rapl t name zone i range.1 range.2 := by
  obtain ⟨⟨zone, i⟩, hslot, hrange⟩ := Option.bind_eq_some_iff.mp h
  split_ifs at hrange with hfile
  obtain ⟨hmem, hindex⟩ := firstSlot_mem hslot
  exact ⟨zone, i, hslot, hmem, hindex, hrange, hfile⟩

/-- Without a range for it, no write lands in the limit that is read. -/
theorem raplPlan_refused {name : String} {slot : String × ℕ}
    (hslot : rapl.firstSlot t name = some slot) (h : rapl.limitRange t name = none) (watts : ℕ) :
    ∀ w ∈ raplPlan rapl t name watts, w.path = limitNode slot.1 slot.2 →
      ¬t.writable (limitNode slot.1 slot.2) = true := by
  intro w hw hpath hwritable
  obtain ⟨zone, -, i, lo, hi, -, hbounds, hexists, rfl⟩ := mem_raplPlan.mp hw
  obtain ⟨rfl, rfl⟩ := constraintNode_inj hpath
  have hfile : t.isFile (limitNode slot.1 slot.2) = true := quiet_of_pathExists hexists hwritable
  rw [LinuxRapl.limitRange, hslot, Option.bind_some, if_pos hfile, hbounds] at h
  cases h

/-- A limit of a slot, read back. -/
theorem slotWatts_of_content {slot : String × ℕ} {watts : ℕ} (hwatts : watts < 2 ^ 32)
    (h : t.content (limitNode slot.1 slot.2) = some (decimal (watts * 1000000))) :
    slotWatts t slot = watts := by
  have hread : SysfsRoot.readU64 t (limitNode slot.1 slot.2) = some (watts * 1000000) := by
    rw [SysfsRoot.readU64, SysfsRoot.read, h, Option.map_some, Option.getD_some, trim_decimal,
      parseUnsigned_decimal (by omega)]
  rw [slotWatts, hread, Option.getD_some]
  omega

/-- The limit of a constraint after it was set. -/
theorem getLimit_writeConstraint (rapl : LinuxRapl) (s : SysfsRoot) (name : String) (watts : ℕ) :
    rapl.getLimit (rapl.writeConstraint s name watts).1.tree name
      = (rapl.limitRange s.tree name).elim (rapl.getLimit s.tree name)
          fun range => clamp range.1 range.2 watts := by
  have hsame : SameMachine s.tree (s.writeAll (raplPlan rapl s.tree name watts)).tree :=
    (SameMachine.refl s.tree).writeAll (raplPlan_safe rapl name watts)
  rw [writeConstraint_eq (SameMachine.refl s.tree), getLimit_eq, firstSlot_congr rapl hsame.ranges]
  cases hrange : rapl.limitRange s.tree name with
  | some range =>
    obtain ⟨zone, i, hslot, hzone⟩ := limitedZone_of_limitRange hrange
    have hclamp : clamp range.1 range.2 watts ≤ range.2 := clamp_le (slot_bounds_lt hzone.bounds).le
    rw [hslot]
    refine slotWatts_of_content (hclamp.trans_lt (slot_max_lt hzone.bounds)) ?_
    rw [Journal.content_writeAll, hzone.planned_eq]
    exact if_pos (Tree.writable_of_isFile hzone.limit)
  | none =>
    rw [Option.elim_none, getLimit_eq]
    cases hslot : rapl.firstSlot s.tree name with
    | none => rfl
    | some slot =>
      have hcontent := Journal.content_writeAll_of_refused (raplPlan_refused hslot hrange watts)
      rw [Option.map_some, Option.map_some, slotWatts, slotWatts, SysfsRoot.readU64_congr hcontent]

end ReadBack

/-! ### The gauges of the rows -/

theorem freqLimit_lt (t : Tree) : LinuxCpuGovernor.freqLimit t < 2 ^ 32 := by
  rw [LinuxCpuGovernor.freqLimit]
  split
  · decide
  · exact Nat.mod_lt _ (by decide)

theorem gpuFreq_lt (gpu : LinuxGpu) (t : Tree) : gpu.gpuFreq t < 2 ^ 32 := by
  rw [LinuxGpu.gpuFreq]
  cases hvalue : gpu.cardRead t gtMaxFreq with
  | none => decide
  | some v => exact cardRead_lt hvalue

theorem getLimit_lt (rapl : LinuxRapl) (t : Tree) (name : String) :
    rapl.getLimit t name < 2 ^ 32 := by
  rw [getLimit_eq]
  cases rapl.firstSlot t name with
  | none => exact Nat.two_pow_pos 32
  | some slot => exact Nat.mod_lt _ (by decide)

/-- The displayed bounds of the controller cover the range of every zone. -/
theorem shown_covers {rapl : LinuxRapl} {t : Tree} {name zone : String} {i lo hi : ℕ}
    (hname : name ∈ [longTerm, shortTerm]) (h : LimitedZone rapl t name zone i lo hi) :
    (rapl.bounds t).1 ≤ lo ∧ hi ≤ (rapl.bounds t).2 := by
  obtain ⟨least, most, hunion⟩ := h.boundsOf_isSome
  have hmem : (least, most) ∈ [longTerm, shortTerm].filterMap (rapl.boundsOf t) :=
    List.mem_filterMap.mpr ⟨name, hname, hunion⟩
  obtain ⟨hzone, -, -⟩ := union_spec hunion
  have hinner := hzone (lo, hi) h.zoneBounds_mem
  rw [LinuxRapl.bounds]
  cases hranges : [longTerm, shortTerm].filterMap (rapl.boundsOf t) with
  | nil =>
    rw [hranges] at hmem
    cases hmem
  | cons b bs =>
    obtain ⟨hall, -, -⟩ := union_spec (show union (b :: bs) = some (_, _) from rfl)
    rw [hranges] at hmem
    have houter := hall (least, most) hmem
    exact ⟨houter.1.trans hinner.1, hinner.2.trans houter.2⟩

/-- The CPU frequency. -/
def LinuxCpuGovernor.gauge (cpu : LinuxCpuGovernor) (t : Tree) : Gauge where
  current := LinuxCpuGovernor.freqLimit t
  shown := cpu.freqBounds t
  own := cpu.limitRange t
  current_lt := freqLimit_lt t
  own_lt _ h := bounds_lt (limitRange_cpu_eq_some h).2
  own_le range h := by
    rw [LinuxCpuGovernor.freqBounds, (limitRange_cpu_eq_some h).2]
    exact ⟨le_refl _, le_refl _⟩

/-- The GPU frequency. -/
def LinuxGpu.gauge (gpu : LinuxGpu) (t : Tree) : Gauge where
  current := gpu.gpuFreq t
  shown := gpu.gpuBounds t
  own := gpu.limitRange t
  current_lt := gpuFreq_lt gpu t
  own_lt _ h := (gpu_bounds_spec (limitRange_gpu_eq_some h).2).2.2
  own_le range h := by
    obtain ⟨hmin, hmax, -⟩ := gpu_bounds_spec (limitRange_gpu_eq_some h).2
    rw [LinuxGpu.gpuBounds, hmin, hmax]
    exact ⟨le_refl _, le_refl _⟩

/-- A package limit. -/
def LinuxRapl.gauge (rapl : LinuxRapl) (t : Tree) (name : String)
    (hname : name ∈ [longTerm, shortTerm]) : Gauge where
  current := rapl.getLimit t name
  shown := rapl.bounds t
  own := rapl.limitRange t name
  current_lt := getLimit_lt rapl t name
  own_lt _ h := by
    obtain ⟨_, _, -, hzone⟩ := limitedZone_of_limitRange h
    exact slot_bounds_lt hzone.bounds
  own_le _ h := by
    obtain ⟨_, _, -, hzone⟩ := limitedZone_of_limitRange h
    exact shown_covers hname hzone

/-! ### The rows -/

/-- The rows that announce a stepped limit. -/
inductive NumericRow where
  | freqLimit
  | gpuFreq
  | raplPl1
  | raplPl2
  deriving DecidableEq, Repr

namespace NumericRow

def row : NumericRow → HardwareRow
  | freqLimit => .freqLimit
  | gpuFreq => .gpuFreq
  | raplPl1 => .raplPl1
  | raplPl2 => .raplPl2

def step : NumericRow → ℕ
  | freqLimit => 100
  | gpuFreq => 50
  | raplPl1 | raplPl2 => 2

/-- The toast that announces `v`. -/
def toast (v : ℕ) : NumericRow → String
  | freqLimit => "CPU FREQ: " ++ decimal v ++ " MHz"
  | gpuFreq => "FREQ IGPU: " ++ decimal v ++ " MHz"
  | raplPl1 => "RAPL PL1: " ++ decimal v ++ " W"
  | raplPl2 => "RAPL PL2: " ++ decimal v ++ " W"

/-- The getter of the row, when its controller was found. -/
def reading (b : LinuxBackend) (t : Tree) : NumericRow → Option ℕ
  | freqLimit => some (LinuxCpuGovernor.freqLimit t)
  | gpuFreq => b.gpu.map fun gpu => gpu.gpuFreq t
  | raplPl1 => b.rapl.map fun rapl => rapl.getLimit t longTerm
  | raplPl2 => b.rapl.map fun rapl => rapl.getLimit t shortTerm

/-- The gauge of the row, when its controller was found. -/
def gauge (b : LinuxBackend) (t : Tree) : NumericRow → Option Gauge
  | freqLimit => some (b.cpu.gauge t)
  | gpuFreq => b.gpu.map fun gpu => gpu.gauge t
  | raplPl1 => b.rapl.map fun rapl => rapl.gauge t longTerm (by decide)
  | raplPl2 => b.rapl.map fun rapl => rapl.gauge t shortTerm (by decide)

theorem step_pos (row : NumericRow) : 0 < row.step := by cases row <;> decide

theorem step_lt (row : NumericRow) : row.step < 2 ^ 32 := by cases row <;> decide

/-- A toast names its number. -/
theorem toast_inj (row : NumericRow) {m n : ℕ} : row.toast m = row.toast n ↔ m = n := by
  cases row <;> simp only [toast, String.append_left_inj, String.append_right_inj, decimal_inj]

end NumericRow

/-- The toast of the step shows what the getter reads after it. -/
def AnnouncesReading (b : LinuxBackend) (tools : RadioTools) (direction : Direction)
    (s : SysfsRoot) (row : NumericRow) : Prop :=
  ∀ text, (App.handle b tools direction s row.row).2 = some text →
    ∃ v, row.reading b (App.handle b tools direction s row.row).1.tree = some v ∧
      text = row.toast v

namespace NumericRow

variable {b : LinuxBackend} {s : SysfsRoot} {row : NumericRow}

/-- Without its controller a row does nothing. -/
theorem handle_of_gauge_none (h : row.gauge b s.tree = none) (tools : RadioTools)
    (direction : Direction) : (App.handle b tools direction s row.row).2 = none := by
  cases row with
  | freqLimit => cases h
  | gpuFreq =>
    have hgpu : b.gpu = none := Option.map_eq_none_iff.mp h
    simp only [row, App.handle, hgpu]
  | raplPl1 =>
    have hrapl : b.rapl = none := Option.map_eq_none_iff.mp h
    simp only [row, App.handle, App.handleRapl, hrapl]
  | raplPl2 =>
    have hrapl : b.rapl = none := Option.map_eq_none_iff.mp h
    simp only [row, App.handle, App.handleRapl, hrapl]

/-- **One step of a row**: what it announces, and what is read after it. -/
theorem handle_of_gauge {g : Gauge} (h : row.gauge b s.tree = some g) (tools : RadioTools)
    (direction : Direction) :
    (App.handle b tools direction s row.row).2 = some (row.toast (g.next direction row.step)) ∧
      row.reading b (App.handle b tools direction s row.row).1.tree
        = some (g.after (g.next direction row.step)) := by
  cases row with
  | freqLimit =>
    obtain rfl := Option.some.inj h
    exact ⟨rfl, congrArg some (freqLimit_setFreqLimit b.cpu s _)⟩
  | gpuFreq =>
    obtain ⟨gpu, hgpu, rfl⟩ := Option.map_eq_some_iff.mp h
    simp only [row, App.handle, reading, hgpu, Option.map_some]
    exact ⟨rfl, congrArg some (gpuFreq_setGpuFreq gpu s _)⟩
  | raplPl1 =>
    obtain ⟨rapl, hrapl, rfl⟩ := Option.map_eq_some_iff.mp h
    simp only [row, App.handle, App.handleRapl, reading, hrapl, Option.map_some]
    exact ⟨rfl, congrArg some (getLimit_writeConstraint rapl s longTerm _)⟩
  | raplPl2 =>
    obtain ⟨rapl, hrapl, rfl⟩ := Option.map_eq_some_iff.mp h
    simp only [row, App.handle, App.handleRapl, reading, hrapl, Option.map_some]
    exact ⟨rfl, congrArg some (getLimit_writeConstraint rapl s shortTerm _)⟩

end NumericRow

/-- **The toast is right** exactly when the step stays in the range of the node that is read, or there
is no such range and no step. -/
theorem announced_iff (b : LinuxBackend) (tools : RadioTools) (direction : Direction)
    (s : SysfsRoot) (row : NumericRow) :
    AnnouncesReading b tools direction s row ↔
      ∀ g, row.gauge b s.tree = some g → g.Settles direction row.step := by
  rw [AnnouncesReading]
  cases hgauge : row.gauge b s.tree with
  | none =>
    rw [NumericRow.handle_of_gauge_none hgauge]
    simp
  | some g =>
    obtain ⟨htoast, hreading⟩ := NumericRow.handle_of_gauge hgauge tools direction
    rw [htoast, hreading]
    constructor
    · rintro h _ ⟨⟩
      obtain ⟨v, hv, heq⟩ := h _ rfl
      rw [Gauge.settles_iff g direction row.step_pos row.step_lt, Option.some.inj hv]
      exact (row.toast_inj.mp heq).symm
    · rintro h _ ⟨⟩
      have hsettles := (Gauge.settles_iff g direction row.step_pos row.step_lt).mp (h g rfl)
      exact ⟨_, rfl, by rw [hsettles]⟩

/-- A CPU at 1 GHz whose range is not exposed. -/
def rangelessCpu : Tree := .ofFiles [(cpufreqNode 0 "scaling_max_freq", "1000000")]

/-- The step to 900 MHz is announced and not made. -/
theorem announced_not_made :
    ¬AnnouncesReading (LinuxBackend.withRoot .plain rangelessCpu) ⟨false, false, false⟩ .left
      (.start rangelessCpu) .freqLimit := by
  intro h
  obtain ⟨v, hv, htext⟩ := h "CPU FREQ: 900 MHz" (by decide +kernel)
  have hread : v = 1000 := by
    rw [← Option.some.inj hv]
    decide +kernel
  rw [hread] at htext
  exact absurd htext (by decide)

end WattWarden
