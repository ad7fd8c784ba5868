import WattWarden.Library.Plans
import WattWarden.Platform.Backend

/-!
# What each setter writes, as a plan

Every setter of the backend decides what to write from the description of the machine: which nodes
exist and what the discovery nodes say.  No write of the program changes that description, so a
setter follows a plan made once, on a reference tree, wherever it is called later.

* `Unprobed` — the nodes written without looking whether they exist;
* `SameMachine t t'` — the two trees describe the same machine; `SafeWrite t` — the writes that keep
  it so;
* `onlinePlan`, `freqPlan`, `turboPlan`, `eppPlan`, `raplPlan`, `gpuPlan`, `panelPlan`, `kbdPlan`,
  `tweaksPlan`, … — the plans, and for each one the theorem that its setter follows it;
* `_safe` — **PROVED**: each plan writes safely.
-/

namespace WattWarden

open Library.FileTree Library.Journaling Library.Numerals

/-! ### The description of a machine -/

/-- Nodes the program writes without probing for them: `online`, the two frequency limits of an
existing `cpufreq` directory, and the `brightness` of a panel or of a keyboard light. -/
def Unprobed (p : Path) : Prop :=
  (subsystem p = .cpu ∧ leaf p ∈ ["online", "scaling_min_freq", "scaling_max_freq"]) ∨
  ((subsystem p = .backlight ∨ subsystem p = .leds) ∧ p.length = 5 ∧ leaf p = "brightness")

instance (p : Path) : Decidable (Unprobed p) := inferInstanceAs (Decidable (_ ∨ _))

/-- The two trees describe the same machine: the same nodes but for unprobed ones, the same
discovered ranges and lists, and panels with the same maximum. -/
structure SameMachine (t t' : Tree) : Prop where
  ranges : SameRanges t t'
  panels : ∀ device, t'.content (backlightNode device "max_brightness")
    = t.content (backlightNode device "max_brightness")
  exists_eq : ∀ p, ¬Unprobed p → t'.pathExists p = t.pathExists p

/-- A write that keeps the description of the machine `t`. -/
structure SafeWrite (t : Tree) (w : Write Actor) : Prop where
  not_range : ¬IsRange w.path
  not_panel : ∀ device, w.path ≠ backlightNode device "max_brightness"
  probed : Unprobed w.path ∨ t.pathExists w.path = true

namespace SameMachine

variable {t t' : Tree} {s₀ s : SysfsRoot}

theorem refl (t : Tree) : SameMachine t t := ⟨SameRanges.refl t, fun _ => rfl, fun _ _ => rfl⟩

/-- **A safe write keeps the machine.** -/
theorem write (h : SameMachine t s.tree) {w : Write Actor} (hw : SafeWrite t w) :
    SameMachine t (s.write w.actor w.path w.value).tree where
  ranges p hp := by
    have hne : p ≠ w.path := fun heq => hw.not_range (heq ▸ hp)
    rw [Journal.tree_write, Tree.content_write_ne _ hne, h.ranges p hp]
  panels device := by
    rw [Journal.tree_write, Tree.content_write_ne _ (hw.not_panel device).symm, h.panels device]
  exists_eq p hp := by
    rw [← h.exists_eq p hp, Journal.tree_write, Tree.pathExists, Tree.pathExists, Tree.isDir_write,
      Tree.isFile_write]
    by_cases heq : p = w.path
    · -- a probed node exists, so it is a file already or the write cannot land
      subst heq
      have hexists : s.tree.pathExists w.path = true := by
        rw [h.exists_eq _ hp]
        exact hw.probed.resolve_left hp
      have hquiet := quiet_of_pathExists hexists
      rw [Quiet] at hquiet
      cases hwritable : s.tree.writable w.path with
      | true => simp [hquiet hwritable]
      | false => simp
    · simp [heq]

theorem extends_safe (h : Extends (SafeWrite t) s₀ s) (h₀ : SameMachine t s₀.tree) :
    SameMachine t s.tree := by
  apply h.induction (Q := fun s => SameMachine t s.tree) h₀
  intro s w hs hw
  exact hs.write hw

theorem writeAll (h : SameMachine t s.tree) {ws : List (Write Actor)}
    (hws : ∀ w ∈ ws, SafeWrite t w) : SameMachine t (s.writeAll ws).tree :=
  extends_safe (Journal.writeAll_extends (Extends.refl _ s) hws) h

/-- Listings of directories without unprobed entries. -/
theorem names_eq (h : SameMachine t t') {d : Path} (hd : ∀ n, ¬Unprobed (d ++ [n])) :
    t'.names d = t.names d :=
  Tree.names_congr fun n => h.exists_eq _ (hd n)

end SameMachine

/-! ### Writing a probed node, and loops of writes -/

/-- One write of the program. -/
def put (p : Path) (v : String) : Write Actor := ⟨.wattwarden, p, v⟩

@[simp] theorem path_put (p : Path) (v : String) : (put p v).path = p := rfl

/-- A write to a node only if it exists. -/
def existingPlan (t : Tree) (p : Path) (v : String) : List (Write Actor) :=
  if t.pathExists p then [put p v] else []

theorem mem_existingPlan {t : Tree} {p : Path} {v : String} {w : Write Actor} :
    w ∈ existingPlan t p v ↔ t.pathExists p = true ∧ w = put p v := by
  rw [existingPlan]
  split <;> simp_all

section Existing

variable {t : Tree} {s : SysfsRoot} {p : Path}

theorem existing_eq (h : SameMachine t s.tree) (hp : ¬Unprobed p) (v : String) :
    (if s.tree.pathExists p then SysfsRoot.writeBestEffort s p v else s)
      = s.writeAll (existingPlan t p v) := by
  rw [existingPlan, h.exists_eq p hp]
  split <;> rfl

theorem existingPlan_safe (hrange : ¬IsRange p)
    (hpanel : ∀ device, p ≠ backlightNode device "max_brightness") (v : String) :
    ∀ w ∈ existingPlan t p v, SafeWrite t w := by
  intro w hw
  obtain ⟨hexists, rfl⟩ := mem_existingPlan.mp hw
  exact ⟨hrange, hpanel, .inr hexists⟩

/-- The paths of a loop of probed writes. -/
theorem safe_flatMap {β : Type*} {l : List β} {plan : β → List (Write Actor)}
    (h : ∀ b ∈ l, ∀ w ∈ plan b, SafeWrite t w) : ∀ w ∈ l.flatMap plan, SafeWrite t w := by
  intro w hw
  obtain ⟨b, hb, hw⟩ := List.mem_flatMap.mp hw
  exact h b hb w hw

/-- A loop whose rounds follow safe plans follows all of them. -/
theorem loop_eq {β : Type*} {l : List β} {f : SysfsRoot → β → SysfsRoot}
    {plan : β → List (Write Actor)}
    (hf : ∀ b ∈ l, ∀ s : SysfsRoot, SameMachine t s.tree → f s b = s.writeAll (plan b))
    (hsafe : ∀ b ∈ l, ∀ w ∈ plan b, SafeWrite t w) (hs : SameMachine t s.tree) :
    l.foldl f s = s.writeAll (l.flatMap plan) :=
  foldl_eq_writeAll hf (fun b hb _ hs => hs.writeAll (hsafe b hb)) s hs

end Existing

theorem safe_append {t : Tree} {ws ws' : List (Write Actor)} (h : ∀ w ∈ ws, SafeWrite t w)
    (h' : ∀ w ∈ ws', SafeWrite t w) : ∀ w ∈ ws ++ ws', SafeWrite t w := by
  intro w hw
  rcases List.mem_append.mp hw with hw | hw
  · exact h w hw
  · exact h' w hw

theorem ne_panel {p : Path} (h : subsystem p ≠ .backlight) (device : String) :
    p ≠ backlightNode device "max_brightness" := by
  intro heq
  exact h (by rw [heq]; rfl)

/-! ### CPU -/

section Cpu

variable {t : Tree} {s : SysfsRoot} (cpu : LinuxCpuGovernor)

theorem not_isRange_cpu {p : Path} (hsub : subsystem p = .cpu) (hleaf : leaf p ∉ cpuRangeLeaves) :
    ¬IsRange p ∧ ∀ device, p ≠ backlightNode device "max_brightness" :=
  ⟨not_isRange_of_cpu hsub hleaf, ne_panel (by rw [hsub]; decide)⟩

theorem not_unprobed_cpu {p : Path} (hsub : subsystem p = .cpu)
    (hleaf : leaf p ∉ ["online", "scaling_min_freq", "scaling_max_freq"]) : ¬Unprobed p := by
  intro h
  rcases h with ⟨-, hmem⟩ | ⟨hsub', -⟩
  · exact hleaf hmem
  · rw [hsub] at hsub'
    rcases hsub' with h | h <;> cases h

/-- Unprobed nodes belong to CPUs, panels and keyboard lights. -/
theorem not_unprobed_of_subsystem {p : Path} {sub : Subsystem} (h : subsystem p = sub)
    (hsub : sub ∉ [Subsystem.cpu, .backlight, .leds]) : ¬Unprobed p := by
  subst h
  simp only [List.mem_cons, List.not_mem_nil, or_false, not_or] at hsub
  intro h
  rcases h with ⟨h, -⟩ | ⟨h | h, -⟩
  · exact hsub.1 h
  · exact hsub.2.1 h
  · exact hsub.2.2 h

/-- The `online` nodes of all CPUs but the first, the first `n` of them counted in. -/
def onlinePlan (n : ℕ) : List (Write Actor) :=
  (cpu.cpuIds.zipIdx.drop 1).map fun e => put (onlineNode e.1) (if e.2 < n then "1" else "0")

theorem writeOnline_eq (s : SysfsRoot) (n : ℕ) :
    cpu.writeOnline s n = s.writeAll (onlinePlan cpu n) := by
  rw [LinuxCpuGovernor.writeOnline, Journal.writeAll, onlinePlan, List.foldl_map]
  rfl

theorem onlinePlan_safe (n : ℕ) : ∀ w ∈ onlinePlan cpu n, SafeWrite t w := by
  intro w hw
  obtain ⟨e, -, rfl⟩ := List.mem_map.mp hw
  obtain ⟨hrange, hpanel⟩ := not_isRange_cpu (p := onlineNode e.1) rfl (by
    simp [onlineNode, cpuRangeLeaves])
  exact ⟨hrange, hpanel, .inl (.inl ⟨rfl, by simp [onlineNode]⟩)⟩

/-- Both limits of one CPU with a `cpufreq` directory. -/
def scalingPlan (t : Tree) (khzMin khzMax : ℕ) (id : ℕ) : List (Write Actor) :=
  if t.pathExists (cpufreqDir id) then
    [put (cpufreqNode id "scaling_min_freq") (decimal khzMin),
      put (cpufreqNode id "scaling_max_freq") (decimal khzMax)]
  else []

/-- `set_freq_limit`. -/
def freqPlan (t : Tree) (mhz : ℕ) : List (Write Actor) :=
  match cpu.discoveredFreqBounds t with
  | none => []
  | some (lo, hi) => cpu.cpuIds.flatMap (scalingPlan t (lo * 1000) (clamp lo hi mhz * 1000))

theorem scalingPlan_safe (khzMin khzMax id : ℕ) :
    ∀ w ∈ scalingPlan t khzMin khzMax id, SafeWrite t w := by
  have hnode : ∀ name ∈ ["scaling_min_freq", "scaling_max_freq"], ∀ v,
      SafeWrite t (put (cpufreqNode id name) v) := by
    intro name hname v
    have hleaf : leaf (cpufreqNode id name) = name := by rw [cpufreqNode, leaf_append]
    have hname' : ∀ name ∈ ["scaling_min_freq", "scaling_max_freq"], name ∉ cpuRangeLeaves := by
      decide
    obtain ⟨hrange, hpanel⟩ := not_isRange_cpu (p := cpufreqNode id name) rfl (by
      rw [hleaf]
      exact hname' name hname)
    refine ⟨hrange, hpanel, .inl (.inl ⟨rfl, ?_⟩)⟩
    rw [path_put, hleaf]
    exact List.mem_cons_of_mem _ hname
  intro w hw
  rw [scalingPlan] at hw
  split at hw
  · simp only [List.mem_cons, List.not_mem_nil, or_false] at hw
    rcases hw with rfl | rfl
    · exact hnode _ (by decide) _
    · exact hnode _ (by decide) _
  · cases hw

theorem mem_freqPlan {mhz : ℕ} {w : Write Actor} : w ∈ freqPlan cpu t mhz ↔
    ∃ lo hi, cpu.discoveredFreqBounds t = some (lo, hi) ∧
      ∃ id ∈ cpu.cpuIds, t.pathExists (cpufreqDir id) = true ∧
        (w = put (cpufreqNode id "scaling_min_freq") (decimal (lo * 1000)) ∨
          w = put (cpufreqNode id "scaling_max_freq") (decimal (clamp lo hi mhz * 1000))) := by
  rw [freqPlan]
  cases cpu.discoveredFreqBounds t with
  | none => simp
  | some bounds =>
    obtain ⟨lo, hi⟩ := bounds
    have hround : ∀ id, w ∈ scalingPlan t (lo * 1000) (clamp lo hi mhz * 1000) id ↔
        t.pathExists (cpufreqDir id) = true ∧
          (w = put (cpufreqNode id "scaling_min_freq") (decimal (lo * 1000)) ∨
            w = put (cpufreqNode id "scaling_max_freq") (decimal (clamp lo hi mhz * 1000))) := by
      intro id
      rw [scalingPlan]
      split <;> simp_all
    simp only [List.mem_flatMap, hround, Option.some.injEq, Prod.mk.injEq]
    constructor
    · intro h
      exact ⟨lo, hi, ⟨rfl, rfl⟩, h⟩
    · intro hgiven
      obtain ⟨_, _, ⟨rfl, rfl⟩, h⟩ := hgiven
      exact h

theorem freqPlan_safe (mhz : ℕ) : ∀ w ∈ freqPlan cpu t mhz, SafeWrite t w := by
  rw [freqPlan]
  split
  · simp
  · exact safe_flatMap fun id _ => scalingPlan_safe _ _ id

theorem setFreqLimit_eq (h : SameMachine t s.tree) (mhz : ℕ) :
    cpu.setFreqLimit s mhz = s.writeAll (freqPlan cpu t mhz) := by
  rw [LinuxCpuGovernor.setFreqLimit, discoveredFreqBounds_congr cpu h.ranges, freqPlan]
  cases cpu.discoveredFreqBounds t with
  | none => rfl
  | some bounds =>
    refine loop_eq ?_ (fun id _ => scalingPlan_safe _ _ id) h
    intro id _ s hs
    have hdir : ¬Unprobed (cpufreqDir id) := by
      apply not_unprobed_cpu rfl
      rw [cpufreqDir, leaf_append]
      decide
    rw [LinuxCpuGovernor.writeScaling, hs.exists_eq _ hdir, scalingPlan]
    split <;> rfl

/-- `set_online_cores`, when the limit in force is `limit` MHz. -/
def coresPlan (t : Tree) (limit count : ℕ) : List (Write Actor) :=
  onlinePlan cpu (clamp 1 cpu.numCpus count) ++ if 0 < limit then freqPlan cpu t limit else []

theorem coresPlan_safe (limit count : ℕ) : ∀ w ∈ coresPlan cpu t limit count, SafeWrite t w := by
  apply safe_append (onlinePlan_safe cpu _)
  split
  · exact freqPlan_safe cpu limit
  · simp

theorem setOnlineCores_eq (h : SameMachine t s.tree) (count : ℕ) :
    cpu.setOnlineCores s count
      = s.writeAll (coresPlan cpu t (LinuxCpuGovernor.freqLimit s.tree) count) := by
  have honline := h.writeAll (onlinePlan_safe cpu (clamp 1 cpu.numCpus count))
  have hlimit : LinuxCpuGovernor.freqLimit
      (s.writeAll (onlinePlan cpu (clamp 1 cpu.numCpus count))).tree
      = LinuxCpuGovernor.freqLimit s.tree := by
    rw [LinuxCpuGovernor.freqLimit, LinuxCpuGovernor.freqLimit,
      SysfsRoot.readI64_congr (Journal.content_writeAll_of_not_mem _)]
    intro w hw
    obtain ⟨e, -, rfl⟩ := List.mem_map.mp hw
    exact ne_of_leaf_ne (by simp [onlineNode, cpufreqNode])
  rw [LinuxCpuGovernor.setOnlineCores, writeOnline_eq, hlimit, coresPlan, Journal.writeAll_append]
  split
  · exact setFreqLimit_eq cpu honline _
  · rfl

/-- `set_turbo_enabled`. -/
def turboPlan (t : Tree) (enabled : Bool) : List (Write Actor) :=
  if t.pathExists noTurboNode then [put noTurboNode (if enabled then "0" else "1")]
  else existingPlan t boostNode (if enabled then "1" else "0")

theorem turboPlan_safe (enabled : Bool) : ∀ w ∈ turboPlan t enabled, SafeWrite t w := by
  have hnode : ∀ p ∈ [noTurboNode, boostNode], ¬IsRange p ∧
      ∀ device, p ≠ backlightNode device "max_brightness" := by
    intro p hp
    apply not_isRange_cpu
    · revert p
      decide
    · revert p
      decide
  rw [turboPlan]
  split
  · rename_i hexists
    intro w hw
    obtain rfl := List.mem_singleton.mp hw
    obtain ⟨hrange, hpanel⟩ := hnode noTurboNode (by decide)
    exact ⟨hrange, hpanel, .inr hexists⟩
  · obtain ⟨hrange, hpanel⟩ := hnode boostNode (by decide)
    exact existingPlan_safe hrange hpanel _

theorem setTurboEnabled_eq (h : SameMachine t s.tree) (enabled : Bool) :
    LinuxCpuGovernor.setTurboEnabled s enabled = s.writeAll (turboPlan t enabled) := by
  rw [LinuxCpuGovernor.setTurboEnabled, turboPlan, h.exists_eq noTurboNode (by decide)]
  split
  · rfl
  · exact existing_eq h (by decide) _

/-- One leaf of every `cpufreq` directory that has it. -/
def leavesPlan (t : Tree) (name value : String) : List (Write Actor) :=
  cpu.cpuIds.flatMap fun id => existingPlan t (cpufreqNode id name) value

theorem leavesPlan_safe {name : String} (hrange : name ∉ cpuRangeLeaves) (value : String) :
    ∀ w ∈ leavesPlan cpu t name value, SafeWrite t w := by
  apply safe_flatMap
  intro id _
  obtain ⟨hrange', hpanel⟩ := not_isRange_cpu (p := cpufreqNode id name) rfl (by
    rwa [cpufreqNode, leaf_append])
  exact existingPlan_safe hrange' hpanel value

theorem writeLeaves_eq (h : SameMachine t s.tree) {name : String}
    (hname : name ∉ ["online", "scaling_min_freq", "scaling_max_freq"])
    (hrange : name ∉ cpuRangeLeaves) (value : String) :
    cpu.cpuIds.foldl (writeExisting name value) s = s.writeAll (leavesPlan cpu t name value) := by
  refine loop_eq ?_ ?_ h
  · intro id _ s hs
    exact existing_eq hs (not_unprobed_cpu rfl (by rwa [cpufreqNode, leaf_append])) value
  · intro id hid w hw
    exact leavesPlan_safe cpu hrange value w (List.mem_flatMap.mpr ⟨id, hid, hw⟩)

/-- `set_energy_performance_preference`: the resolved preference, then the governor it asks for. -/
def eppPlan (t : Tree) (pref : String) : List (Write Actor) :=
  match resolveEpp t pref with
  | none => []
  | some pref =>
      leavesPlan cpu t "energy_performance_preference" pref ++
        match resolveGovernor t (if pref = "performance" then "performance" else "powersave") with
        | none => []
        | some gov => leavesPlan cpu t "scaling_governor" gov

theorem eppPlan_safe (pref : String) : ∀ w ∈ eppPlan cpu t pref, SafeWrite t w := by
  rw [eppPlan]
  split
  · simp
  · apply safe_append (leavesPlan_safe cpu (by decide) _)
    split
    · simp
    · exact leavesPlan_safe cpu (by decide) _

theorem setEpp_eq (h : SameMachine t s.tree) (pref : String) :
    cpu.setEnergyPerformancePreference s pref = s.writeAll (eppPlan cpu t pref) := by
  rw [LinuxCpuGovernor.setEnergyPerformancePreference, resolveEpp_congr h.ranges, eppPlan]
  cases resolveEpp t pref with
  | none => rfl
  | some epp =>
    have hepp : SameMachine t
        (s.writeAll (leavesPlan cpu t "energy_performance_preference" epp)).tree :=
      h.writeAll (leavesPlan_safe cpu (by decide) epp)
    dsimp only
    rw [writeLeaves_eq cpu h (by decide) (by decide), Journal.writeAll_append,
      resolveGovernor_congr hepp.ranges]
    cases resolveGovernor t (if epp = "performance" then "performance" else "powersave") with
    | none => rfl
    | some gov => exact writeLeaves_eq cpu hepp (by decide) (by decide) gov

end Cpu

/-! ### RAPL and GPU -/

section Limits

variable {t : Tree} {s : SysfsRoot}

/-- The limit of one zone's constraint, when the zone has a usable one. -/
def zonePlan (t : Tree) (name : String) (watts : ℕ) (zone : String) : List (Write Actor) :=
  match constraintIndexIn t zone name with
  | none => []
  | some i =>
      match constraintBoundsWattsIn t zone i with
      | none => []
      | some (lo, hi) =>
          existingPlan t (constraintNode zone i "_power_limit_uw")
            (decimal (clamp lo hi watts * 1000000))

/-- `write_constraint`. -/
def raplPlan (rapl : LinuxRapl) (t : Tree) (name : String) (watts : ℕ) : List (Write Actor) :=
  rapl.domains.flatMap (zonePlan t name watts)

theorem mem_raplPlan {rapl : LinuxRapl} {name : String} {watts : ℕ} {w : Write Actor} :
    w ∈ raplPlan rapl t name watts ↔
      ∃ zone ∈ rapl.domains, ∃ i lo hi, constraintIndexIn t zone name = some i ∧
        constraintBoundsWattsIn t zone i = some (lo, hi) ∧
        t.pathExists (constraintNode zone i "_power_limit_uw") = true ∧
        w = put (constraintNode zone i "_power_limit_uw")
          (decimal (clamp lo hi watts * 1000000)) := by
  rw [raplPlan, List.mem_flatMap]
  refine exists_congr fun zone => and_congr_right fun _ => ?_
  rw [zonePlan]
  cases constraintIndexIn t zone name with
  | none => simp
  | some i =>
    cases hbounds : constraintBoundsWattsIn t zone i with
    | none => simp [hbounds]
    | some bounds =>
      obtain ⟨lo, hi⟩ := bounds
      simp [hbounds, mem_existingPlan]

@[simp] theorem subsystem_constraintNode (zone : String) (i : ℕ) (suffix : String) :
    subsystem (constraintNode zone i suffix) = .powercap := rfl

theorem zonePlan_safe (name : String) (watts : ℕ) (zone : String) :
    ∀ w ∈ zonePlan t name watts zone, SafeWrite t w := by
  rw [zonePlan]
  split
  · simp
  · split
    · simp
    · exact existingPlan_safe (limit_not_isRange zone _) (ne_panel (by simp)) _

theorem raplPlan_safe (rapl : LinuxRapl) (name : String) (watts : ℕ) :
    ∀ w ∈ raplPlan rapl t name watts, SafeWrite t w :=
  safe_flatMap fun zone _ => zonePlan_safe name watts zone

theorem writeConstraint_eq (h : SameMachine t s.tree) (rapl : LinuxRapl) (name : String)
    (watts : ℕ) :
    (rapl.writeConstraint s name watts).1 = s.writeAll (raplPlan rapl t name watts) := by
  have hloop : ∀ (zones : List String) (acc : SysfsRoot × Option ℕ), SameMachine t acc.1.tree →
      (zones.foldl (LinuxRapl.writeZone name watts) acc).1
        = acc.1.writeAll (zones.flatMap (zonePlan t name watts)) := by
    intro zones
    induction zones with
    | nil => exact fun _ _ => rfl
    | cons zone zones ih =>
      intro acc hacc
      have hround : (LinuxRapl.writeZone name watts acc zone).1
          = acc.1.writeAll (zonePlan t name watts zone) := by
        rw [LinuxRapl.writeZone, constraintIndexIn_congr hacc.ranges, zonePlan]
        cases constraintIndexIn t zone name with
        | none => rfl
        | some i =>
          dsimp only
          rw [constraintBoundsWattsIn_congr hacc.ranges]
          cases constraintBoundsWattsIn t zone i with
          | none => rfl
          | some bounds =>
            dsimp only
            rw [← existing_eq hacc
              (not_unprobed_of_subsystem (subsystem_constraintNode zone i _) (by decide))]
            split <;> rfl
      have hnext := hacc.writeAll (zonePlan_safe name watts zone)
      rw [← hround] at hnext
      rw [List.foldl_cons, ih _ hnext, hround, List.flatMap_cons, Journal.writeAll_append]
  exact hloop rapl.domains (s, none) h

/-- `set_gpu_freq`. -/
def gpuPlan (gpu : LinuxGpu) (t : Tree) (mhz : ℕ) : List (Write Actor) :=
  match gpu.discoveredGpuBounds t with
  | none => []
  | some (lo, hi) =>
      existingPlan t (gpu.node "gt_min_freq_mhz") (decimal lo) ++
        existingPlan t (gpu.node "gt_max_freq_mhz") (decimal (clamp lo hi mhz))

theorem gpuNode_safe (gpu : LinuxGpu) {name : String} (hname : name ∉ gpuRangeLeaves) (value : ℕ) :
    ∀ w ∈ existingPlan t (gpu.node name) (decimal value), SafeWrite t w := by
  apply existingPlan_safe
  · apply not_isRange_of_drm (subsystem_gpuNode gpu name)
    rwa [LinuxGpu.node, leaf_append]
  · exact ne_panel (by rw [subsystem_gpuNode]; decide)

theorem gpuPlan_safe (gpu : LinuxGpu) (mhz : ℕ) : ∀ w ∈ gpuPlan gpu t mhz, SafeWrite t w := by
  rw [gpuPlan]
  split
  · simp
  · exact safe_append (gpuNode_safe gpu (by decide) _) (gpuNode_safe gpu (by decide) _)

theorem setGpuFreq_eq (h : SameMachine t s.tree) (gpu : LinuxGpu) (mhz : ℕ) :
    gpu.setGpuFreq s mhz = s.writeAll (gpuPlan gpu t mhz) := by
  have hcard : ∀ {s : SysfsRoot} (name : String) (value : ℕ), SameMachine t s.tree →
      gpu.cardWrite s name value = s.writeAll (existingPlan t (gpu.node name) (decimal value)) :=
    fun name value hs =>
      existing_eq hs (not_unprobed_of_subsystem (subsystem_gpuNode gpu name) (by decide)) _
  rw [LinuxGpu.setGpuFreq, discoveredGpuBounds_congr gpu h.ranges, gpuPlan]
  cases gpu.discoveredGpuBounds t with
  | none => rfl
  | some bounds =>
    have hmin : SameMachine t
        (s.writeAll (existingPlan t (gpu.node "gt_min_freq_mhz") (decimal bounds.1))).tree :=
      h.writeAll (gpuNode_safe gpu (by decide) bounds.1)
    dsimp only
    rw [hcard _ _ h, hcard _ _ hmin, Journal.writeAll_append]

end Limits

/-! ### Peripherals -/

section Peripherals

variable {t : Tree} {s : SysfsRoot}

theorem not_isRange_of_subsystem {p : Path} {sub : Subsystem} (h : subsystem p = sub)
    (hsub : sub ∉ [Subsystem.cpu, .powercap, .drm]) : ¬IsRange p := by
  intro hrange
  apply hsub
  rw [← h]
  exact hrange.isHardware

/-- `set_aspm_policy`, on the policies the node lists now. -/
def aspmPlan (now : Tree) (policy : String) : List (Write Actor) :=
  (resolvePolicy now policy).toList.map (put aspmPolicyPath)

theorem setAspmPolicy_eq (s : SysfsRoot) (policy : String) :
    LinuxAspm.setAspmPolicy s policy = s.writeAll (aspmPlan s.tree policy) := by
  rw [LinuxAspm.setAspmPolicy, aspmPlan]
  cases resolvePolicy s.tree policy with
  | none => rfl
  | some policy => rfl

theorem aspmPlan_safe (hexists : t.pathExists aspmPolicyPath = true) (now : Tree)
    (policy : String) : ∀ w ∈ aspmPlan now policy, SafeWrite t w := by
  intro w hw
  obtain ⟨v, -, rfl⟩ := List.mem_map.mp hw
  have hsub : subsystem aspmPolicyPath = .module := rfl
  exact ⟨not_isRange_of_subsystem hsub (by decide), ne_panel (p := aspmPolicyPath) (by decide),
    .inr hexists⟩

/-- The loop of `set_brightness_percent` over the panels with a maximum. -/
def panelPlan (t : Tree) (p : ℕ) : List (Write Actor) :=
  (LinuxBacklight.devices t).flatMap fun device =>
    if 0 < LinuxBacklight.maxBrightness t device then
      [put (backlightNode device "brightness")
        (toString ((wrapI64 (p * LinuxBacklight.maxBrightness t device)).tdiv 100))]
    else []

/-- What `brightnessctl` writes: only devices with a `brightness` file. -/
def toolPlan (tool : Brightnessctl) (now : Tree) (p : ℕ) : List (Write Actor) :=
  (tool.set now p).flatMap fun e =>
    if now.isFile (backlightNode e.1 "brightness") then
      [⟨.brightnessctl, backlightNode e.1 "brightness", e.2⟩]
    else []

theorem panelBrightness_safe (actor : Actor) (device v : String) :
    SafeWrite t ⟨actor, backlightNode device "brightness", v⟩ where
  not_range := not_isRange_of_subsystem (show subsystem (backlightNode device "brightness")
    = .backlight from rfl) (by decide)
  not_panel device' := by
    intro heq
    simp [backlightNode] at heq
  probed := .inl (.inr ⟨.inl rfl, rfl, by simp [backlightNode, backlightBase, leaf]⟩)

theorem panelPlan_safe (p : ℕ) : ∀ w ∈ panelPlan t p, SafeWrite t w := by
  apply safe_flatMap
  intro device _ w hw
  split at hw
  · obtain rfl := List.mem_singleton.mp hw
    exact panelBrightness_safe _ _ _
  · cases hw

theorem toolPlan_safe (tool : Brightnessctl) (now : Tree) (p : ℕ) :
    ∀ w ∈ toolPlan tool now p, SafeWrite t w := by
  apply safe_flatMap
  intro e _ w hw
  split at hw
  · obtain rfl := List.mem_singleton.mp hw
    exact panelBrightness_safe _ _ _
  · cases hw

theorem run_eq (tool : Brightnessctl) (s : SysfsRoot) (p : ℕ) :
    tool.run s p = s.writeAll (toolPlan tool s.tree p) := by
  refine foldl_eq_writeAll (R := fun t => ∀ q, t.isFile q = s.tree.isFile q) ?_ ?_ s fun _ => rfl
  · intro e _ s' hs'
    rw [hs']
    split <;> rfl
  · intro e _ s' hs' q
    split
    · rename_i hfile
      rw [Journal.writeAll_cons, Journal.writeAll_nil, Journal.tree_write,
        Tree.isFile_write_of_isFile _ ((hs' _).trans hfile), hs']
    · exact hs' q

theorem maxBrightness_eq (h : SameMachine t s.tree) (device : String) :
    LinuxBacklight.maxBrightness s.tree device = LinuxBacklight.maxBrightness t device := by
  rw [LinuxBacklight.maxBrightness, SysfsRoot.readI64_congr (h.panels device),
    LinuxBacklight.maxBrightness]

/-- `set_brightness_percent`: the panels, then the tool on the tree they leave. -/
theorem setBrightnessPercent_eq (h : SameMachine t s.tree) (tool : Brightnessctl) (percent : ℕ) :
    let s' := s.writeAll (panelPlan t (clamp 1 100 percent))
    LinuxBacklight.setBrightnessPercent tool s percent
      = s'.writeAll (toolPlan tool s'.tree (clamp 1 100 percent)) := by
  have hdevices : LinuxBacklight.devices s.tree = LinuxBacklight.devices t :=
    h.names_eq fun n => by simp [Unprobed, subsystem, backlightBase]
  have hloop : (LinuxBacklight.devices t).foldl (LinuxBacklight.setDevice (clamp 1 100 percent)) s
      = s.writeAll (panelPlan t (clamp 1 100 percent)) := by
    refine loop_eq ?_ ?_ h
    · intro device _ s hs
      rw [LinuxBacklight.setDevice, maxBrightness_eq hs]
      dsimp only
      split <;> rfl
    · intro device hdevice w hw
      exact panelPlan_safe _ w (List.mem_flatMap.mpr ⟨device, hdevice, hw⟩)
  intro s'
  rw [LinuxBacklight.setBrightnessPercent, hdevices, hloop, run_eq]

/-- `set_kbd_backlight(false)`. -/
def kbdPlan (t : Tree) : List (Write Actor) :=
  (kbdLeds t).map fun led => put (ledNode led "brightness") "0"

theorem kbdBrightness_safe (led v : String) : SafeWrite t (put (ledNode led "brightness") v) := by
  have hsub : subsystem (ledNode led "brightness") = .leds := rfl
  exact ⟨not_isRange_of_subsystem hsub (by decide),
    ne_panel (p := ledNode led "brightness") (by rw [hsub]; decide),
    .inl (.inr ⟨.inr rfl, rfl, by simp [ledNode, ledsBase, leaf]⟩)⟩

theorem kbdPlan_safe : ∀ w ∈ kbdPlan t, SafeWrite t w := by
  intro w hw
  obtain ⟨led, -, rfl⟩ := List.mem_map.mp hw
  exact kbdBrightness_safe led "0"

theorem kbdLeds_eq (h : SameMachine t s.tree) : kbdLeds s.tree = kbdLeds t := by
  rw [kbdLeds, h.names_eq fun n => by simp [Unprobed, subsystem, ledsBase], kbdLeds]

theorem setKbdBacklight_eq (h : SameMachine t s.tree) :
    setKbdBacklight s false = s.writeAll (kbdPlan t) := by
  rw [setKbdBacklight, kbdLeds_eq h, kbdPlan, Journal.writeAll, List.foldl_map]
  rfl

/-- The Wi-Fi tweak. -/
def wifiPlan (t : Tree) (enabled : Bool) : List (Write Actor) :=
  existingPlan t iwlwifiPowerSave (if enabled then "Y" else "N")

/-- The other tweaks, in the order every caller makes them. -/
def tweaksPlan (t : Tree) (powerSave watchdog : Bool) (seconds : ℕ) : List (Write Actor) :=
  existingPlan t sndHdaPowerSave (if powerSave then "1" else "0") ++
    existingPlan t sndHdaPowerSaveController (if powerSave then "Y" else "N") ++
    (Tweaks.controlNodes t).flatMap (existingPlan t · (if powerSave then "auto" else "on")) ++
    existingPlan t nmiWatchdogPath (if watchdog then "1" else "0") ++
    existingPlan t dirtyWriteback
      (decimal (clamp 100 6000 (min (seconds * 100) (2 ^ 32 - 1))))

/-- Nodes of the tweaks. -/
def TweakNode (p : Path) : Prop := subsystem p ∈ [Subsystem.module, .bus, .proc]

theorem TweakNode.safe {p : Path} (h : TweakNode p) (v : String) :
    ∀ w ∈ existingPlan t p v, SafeWrite t w := by
  have hsub : subsystem p ∉ [Subsystem.cpu, .powercap, .drm] ∧ subsystem p ≠ .backlight := by
    rw [TweakNode] at h
    revert h
    generalize subsystem p = sub
    revert sub
    decide
  exact existingPlan_safe (not_isRange_of_subsystem rfl hsub.1) (ne_panel hsub.2) v

theorem TweakNode.not_unprobed {p : Path} (h : TweakNode p) : ¬Unprobed p := by
  apply not_unprobed_of_subsystem rfl
  rw [TweakNode] at h
  revert h
  generalize subsystem p = sub
  revert sub
  decide

theorem tweakNode_control {p : Path} (h : p ∈ Tweaks.controlNodes t) : TweakNode p := by
  simp only [Tweaks.controlNodes, List.mem_flatMap, List.mem_cons, List.not_mem_nil, or_false,
    List.mem_map] at h
  obtain ⟨base, rfl | rfl, device, -, rfl⟩ := h
  · simp [TweakNode, subsystem, usbDevices]
  · simp [TweakNode, subsystem, pciDevices]

theorem tweakWrite_eq (h : SameMachine t s.tree) {p : Path} (hp : TweakNode p) (v : String) :
    Tweaks.writeNode s p v = s.writeAll (existingPlan t p v) :=
  existing_eq h hp.not_unprobed v

theorem wifiPlan_safe (enabled : Bool) : ∀ w ∈ wifiPlan t enabled, SafeWrite t w :=
  TweakNode.safe (by simp [TweakNode, subsystem, iwlwifiPowerSave]) _

theorem setWifiPowerSave_eq (h : SameMachine t s.tree) (enabled : Bool) :
    Tweaks.setWifiPowerSave s enabled = s.writeAll (wifiPlan t enabled) :=
  tweakWrite_eq h (by simp [TweakNode, subsystem, iwlwifiPowerSave]) _

/-- The tweaks besides Wi-Fi, called in a row. -/
def setTweaks (s : SysfsRoot) (powerSave watchdog : Bool) (seconds : ℕ) : SysfsRoot :=
  Tweaks.setVmWritebackSeconds (Tweaks.setNmiWatchdog (Tweaks.setAutosuspend
    (Tweaks.setAudioPowerSave s powerSave) powerSave) watchdog) seconds

theorem controlPlan_safe (v : String) :
    ∀ w ∈ (Tweaks.controlNodes t).flatMap (existingPlan t · v), SafeWrite t w :=
  safe_flatMap fun _ hp => (tweakNode_control hp).safe v

theorem setAutosuspend_eq (h : SameMachine t s.tree) (enabled : Bool) :
    Tweaks.setAutosuspend s enabled
      = s.writeAll ((Tweaks.controlNodes t).flatMap
          (existingPlan t · (if enabled then "auto" else "on"))) := by
  have hnodes : Tweaks.controlNodes s.tree = Tweaks.controlNodes t := by
    have husb : s.tree.names usbDevices = t.names usbDevices :=
      h.names_eq fun n =>
        not_unprobed_of_subsystem (show subsystem (usbDevices ++ [n]) = .bus from rfl) (by decide)
    have hpci : s.tree.names pciDevices = t.names pciDevices :=
      h.names_eq fun n =>
        not_unprobed_of_subsystem (show subsystem (pciDevices ++ [n]) = .bus from rfl) (by decide)
    simp only [Tweaks.controlNodes, List.flatMap_cons, List.flatMap_nil, husb, hpci]
  rw [Tweaks.setAutosuspend, hnodes]
  exact loop_eq (fun p hp s hs => tweakWrite_eq hs (tweakNode_control hp) _)
    (fun p hp => (tweakNode_control hp).safe _) h

theorem tweaksPlan_safe (powerSave watchdog : Bool) (seconds : ℕ) :
    ∀ w ∈ tweaksPlan t powerSave watchdog seconds, SafeWrite t w := by
  refine safe_append (safe_append (safe_append (safe_append ?_ ?_) (controlPlan_safe _)) ?_) ?_
  · exact TweakNode.safe (by simp [TweakNode, subsystem, sndHdaPowerSave]) _
  · exact TweakNode.safe (by simp [TweakNode, subsystem, sndHdaPowerSaveController]) _
  · exact TweakNode.safe (by simp [TweakNode, subsystem, nmiWatchdogPath]) _
  · exact TweakNode.safe (by simp [TweakNode, subsystem, dirtyWriteback]) _

theorem setTweaks_eq (h : SameMachine t s.tree) (powerSave watchdog : Bool) (seconds : ℕ) :
    setTweaks s powerSave watchdog seconds
      = s.writeAll (tweaksPlan t powerSave watchdog seconds) := by
  have hsnd : TweakNode sndHdaPowerSave := by simp [TweakNode, subsystem, sndHdaPowerSave]
  have hctl : TweakNode sndHdaPowerSaveController := by
    simp [TweakNode, subsystem, sndHdaPowerSaveController]
  have hnmi : TweakNode nmiWatchdogPath := by simp [TweakNode, subsystem, nmiWatchdogPath]
  have hvm : TweakNode dirtyWriteback := by simp [TweakNode, subsystem, dirtyWriteback]
  -- the machine after each setter
  have h₁ := h.writeAll (hsnd.safe (t := t) (if powerSave then "1" else "0"))
  have h₂ := h₁.writeAll (hctl.safe (t := t) (if powerSave then "Y" else "N"))
  have h₃ := h₂.writeAll (controlPlan_safe (t := t) (if powerSave then "auto" else "on"))
  have h₄ := h₃.writeAll (hnmi.safe (t := t) (if watchdog then "1" else "0"))
  rw [setTweaks, Tweaks.setAudioPowerSave, tweakWrite_eq h hsnd, tweakWrite_eq h₁ hctl,
    setAutosuspend_eq h₂, Tweaks.setNmiWatchdog, tweakWrite_eq h₃ hnmi,
    Tweaks.setVmWritebackSeconds, tweakWrite_eq h₄ hvm]
  simp only [tweaksPlan, Journal.writeAll_append]

end Peripherals

end WattWarden
