import Mathlib.Data.List.MinMax
import WattWarden.Platform.Sysfs

/-!
# CPU cores, frequency limits, turbo, EPP and governor

`LinuxCpuGovernor` as the source computes it: the CPU numbers are discovered once, the frequency
range is rediscovered from the immutable `cpuinfo_*` nodes on every call, and every setter is a
sequence of best-effort writes.

* `discoveredFreqBounds` / `setFreqLimit` / `setOnlineCores` / `setTurboEnabled` /
  `setEnergyPerformancePreference` — translated from the source;
* `CpuWrite cpu t` — every write these setters can make on a machine that `t` describes, ceilings
  included;
* `discovered_max_le` — **PROVED**: the discovered ceiling is one a CPU declares;
* `setFreqLimit_extends`, `setOnlineCores_extends`, … — **PROVED**: a setter extends the journal
  by `CpuWrite`s only.
-/

namespace WattWarden

open Library.FileTree Library.Journaling Library.Numerals

/-! ### Nodes -/

def cpuBase : Path := ["sys", "devices", "system", "cpu"]

def cpuRel (id : ℕ) : Path := cpuBase ++ ["cpu" ++ decimal id]

def cpufreqDir (id : ℕ) : Path := cpuRel id ++ ["cpufreq"]

def onlineNode (id : ℕ) : Path := cpuRel id ++ ["online"]

/-- A node of a CPU's `cpufreq` directory. -/
def cpufreqNode (id : ℕ) (name : String) : Path := cpufreqDir id ++ [name]

theorem cpuRel_inj {id id' : ℕ} : cpuRel id = cpuRel id' ↔ id = id' := by
  constructor
  · intro h
    simp only [cpuRel, cpuBase, List.cons_append, List.nil_append, List.cons.injEq, true_and,
      and_true] at h
    have hlist := congrArg String.toList h
    simp only [String.toList_append, List.append_cancel_left_eq] at hlist
    exact decimal_inj.mp (String.toList_inj.mp hlist)
  · exact congrArg cpuRel

theorem onlineNode_inj {id id' : ℕ} : onlineNode id = onlineNode id' ↔ id = id' := by
  rw [onlineNode, onlineNode, List.append_cancel_right_eq, cpuRel_inj]

theorem cpufreqNode_inj {id id' : ℕ} {name : String} :
    cpufreqNode id name = cpufreqNode id' name ↔ id = id' := by
  rw [cpufreqNode, cpufreqNode, List.append_cancel_right_eq, cpufreqDir, cpufreqDir,
    List.append_cancel_right_eq, cpuRel_inj]

def noTurboNode : Path := cpuBase ++ ["intel_pstate", "no_turbo"]

def boostNode : Path := cpuBase ++ ["cpufreq", "boost"]

/-! ### Discovery -/

/-- The CPU controller: the numbers found under `cpuBase`, ascending, and the parallelism the
operating system reports, which is used when there are none. -/
structure LinuxCpuGovernor where
  discovered : List ℕ
  availableParallelism : ℕ
  parallelism_pos : 0 < availableParallelism

/-- `str::strip_prefix`. -/
def stripPrefix (pre : String) (s : String) : Option String :=
  if pre.toList.isPrefixOf s.toList then some (String.ofList (s.toList.drop pre.toList.length))
  else none

namespace LinuxCpuGovernor

/-- The CPU numbers named by the entries of `cpuBase`. -/
def discover (t : Tree) : List ℕ :=
  (((t.names cpuBase).filterMap (stripPrefix "cpu")).filterMap
    (parseUnsigned (2 ^ 32))).insertionSort (· ≤ ·) |>.dedup

def withRoot (t : Tree) (availableParallelism : ℕ) (h : 0 < availableParallelism) :
    LinuxCpuGovernor :=
  ⟨discover t, availableParallelism, h⟩

def numCpus (cpu : LinuxCpuGovernor) : ℕ :=
  if cpu.discovered.isEmpty then cpu.availableParallelism else cpu.discovered.length

def cpuIds (cpu : LinuxCpuGovernor) : List ℕ :=
  if cpu.discovered.isEmpty then List.range cpu.numCpus else cpu.discovered

/-- There is always a CPU, so the bounds of `set_online_cores` are in order. -/
theorem numCpus_pos (cpu : LinuxCpuGovernor) : 0 < cpu.numCpus := by
  rw [numCpus]
  split
  · exact cpu.parallelism_pos
  · rename_i h
    exact List.length_pos_iff.mpr (by simpa using h)

end LinuxCpuGovernor

/-- The immutable frequency pair of one CPU in kHz, when both nodes parse and it is a range. -/
def cpuinfoPair (t : Tree) (id : ℕ) : Option (ℤ × ℤ) :=
  match SysfsRoot.readI64 t (cpufreqNode id "cpuinfo_min_freq"),
      SysfsRoot.readI64 t (cpufreqNode id "cpuinfo_max_freq") with
  | some lo, some hi => if lo ≤ 0 ∨ hi ≤ 0 ∨ hi < lo then none else some (lo, hi)
  | _, _ => none

/-- One round of the discovery loop: the lowest and the highest frequency seen so far. -/
def widen (t : Tree) (acc : Option ℤ × Option ℤ) (id : ℕ) : Option ℤ × Option ℤ :=
  match cpuinfoPair t id with
  | none => acc
  | some (lo, hi) => (some (acc.1.elim lo (min · lo)), some (acc.2.elim hi (max · hi)))

namespace LinuxCpuGovernor

/-- `(min, max)` MHz over every CPU with a usable `cpuinfo_*` pair; `none` when there is none or
the range is degenerate.  The casts to `u32` keep the low 32 bits. -/
def discoveredFreqBounds (cpu : LinuxCpuGovernor) (t : Tree) : Option (ℕ × ℕ) :=
  match cpu.cpuIds.foldl (widen t) (none, none) with
  | (some minKhz, some maxKhz) =>
      let minMhz := (minKhz / 1000 % 2 ^ 32).toNat
      let maxMhz := (maxKhz / 1000 % 2 ^ 32).toNat
      if maxMhz ≤ minMhz then none else some (minMhz, maxMhz)
  | _ => none

/-- `freq_bounds`: the discovered range, or the display-only fallback. -/
def freqBounds (cpu : LinuxCpuGovernor) (t : Tree) : ℕ × ℕ :=
  (cpu.discoveredFreqBounds t).getD (400, 1600)

/-! ### Getters and setters -/

/-- `online_cores`: CPU 0 counts as online. -/
def onlineCores (cpu : LinuxCpuGovernor) (t : Tree) : ℕ :=
  1 + ((cpu.cpuIds.drop 1).filter fun id => SysfsRoot.read t (onlineNode id) = "1").length

/-- `freq_limit`: the mutable limit of CPU 0 in MHz, 0 when it does not parse. -/
def freqLimit (t : Tree) : ℕ :=
  let v := (SysfsRoot.readI64 t (cpufreqNode 0 "scaling_max_freq")).getD 0
  if v = 0 then 0 else (v.tdiv 1000).toNat % 2 ^ 32

/-- The two writes of `set_freq_limit` to one CPU; only existing `cpufreq` directories are
targeted. -/
def writeScaling (khzMin khzMax : ℕ) (s : SysfsRoot) (id : ℕ) : SysfsRoot :=
  if s.tree.pathExists (cpufreqDir id) then
    let s := SysfsRoot.writeBestEffort s (cpufreqNode id "scaling_min_freq") (decimal khzMin)
    SysfsRoot.writeBestEffort s (cpufreqNode id "scaling_max_freq") (decimal khzMax)
  else s

def setFreqLimit (cpu : LinuxCpuGovernor) (s : SysfsRoot) (mhz : ℕ) : SysfsRoot :=
  match cpu.discoveredFreqBounds s.tree with
  | none => s
  | some (minMhz, maxMhz) =>
      let clamped := clamp minMhz maxMhz mhz
      cpu.cpuIds.foldl (writeScaling (minMhz * 1000) (clamped * 1000)) s

/-- The loop of `set_online_cores`: one `online` node per CPU but the first. -/
def writeOnline (cpu : LinuxCpuGovernor) (s : SysfsRoot) (n : ℕ) : SysfsRoot :=
  (cpu.cpuIds.zipIdx.drop 1).foldl
    (fun s e => SysfsRoot.writeBestEffort s (onlineNode e.1) (if e.2 < n then "1" else "0")) s

/-- `set_online_cores`: the `online` nodes, then the current limit again, so that newly online
cores inherit it. -/
def setOnlineCores (cpu : LinuxCpuGovernor) (s : SysfsRoot) (count : ℕ) : SysfsRoot :=
  let s := cpu.writeOnline s (clamp 1 cpu.numCpus count)
  let mhz := freqLimit s.tree
  if 0 < mhz then cpu.setFreqLimit s mhz else s

def turboEnabled (t : Tree) : Bool :=
  if t.pathExists noTurboNode then SysfsRoot.read t noTurboNode = "0"
  else if t.pathExists boostNode then SysfsRoot.read t boostNode = "1"
  else true

/-- `set_turbo_enabled`: `no_turbo` is inverted, and wins over `boost`. -/
def setTurboEnabled (s : SysfsRoot) (enabled : Bool) : SysfsRoot :=
  if s.tree.pathExists noTurboNode then
    SysfsRoot.writeBestEffort s noTurboNode (if enabled then "0" else "1")
  else if s.tree.pathExists boostNode then
    SysfsRoot.writeBestEffort s boostNode (if enabled then "1" else "0")
  else s

end LinuxCpuGovernor

/-! ### EPP and governor resolution -/

/-- Energy performance preferences, most performance first. -/
def eppOrder : List String :=
  ["performance", "balance_performance", "default", "balance_power", "power"]

/-- `EPP_ORDER.iter().position(..)`. -/
def eppRank (s : String) : Option ℕ := eppOrder.findIdx? (· = s)

/-- `abs_diff`. -/
def absDiff (m n : ℕ) : ℕ := max m n - min m n

def availableEpp (t : Tree) : List String :=
  splitWhitespace (SysfsRoot.read t (cpufreqNode 0 "energy_performance_available_preferences"))

/-- `resolve_epp`: the request when nothing is advertised or it is advertised, else the
advertised preference closest to it. -/
def resolveEpp (t : Tree) (pref : String) : Option String :=
  let available := availableEpp t
  if available.isEmpty ∨ pref ∈ available then some pref
  else (eppRank pref).bind fun target =>
    ((available.filterMap fun a => (eppRank a).map fun r => (absDiff r target, a)).argmin
      Prod.fst).map Prod.snd

def availableGovernors (t : Tree) : List String :=
  splitWhitespace (SysfsRoot.read t (cpufreqNode 0 "scaling_available_governors"))

/-- `resolve_governor`. -/
def resolveGovernor (t : Tree) (gov : String) : Option String :=
  let available := availableGovernors t
  if available.isEmpty ∨ gov ∈ available then some gov
  else ["powersave", "performance", "schedutil", "ondemand"].find? (· ∈ available)

/-- Write `value` to one leaf of every CPU's `cpufreq` directory that has it. -/
def writeExisting (name value : String) (s : SysfsRoot) (id : ℕ) : SysfsRoot :=
  if s.tree.pathExists (cpufreqNode id name) then
    SysfsRoot.writeBestEffort s (cpufreqNode id name) value
  else s

namespace LinuxCpuGovernor

def setEnergyPerformancePreference (cpu : LinuxCpuGovernor) (s : SysfsRoot) (pref : String) :
    SysfsRoot :=
  match resolveEpp s.tree pref with
  | none => s
  | some pref =>
      let s := cpu.cpuIds.foldl (writeExisting "energy_performance_preference" pref) s
      let requestedGov := if pref = "performance" then "performance" else "powersave"
      match resolveGovernor s.tree requestedGov with
      | none => s
      | some gov => cpu.cpuIds.foldl (writeExisting "scaling_governor" gov) s

end LinuxCpuGovernor

/-! ### What the CPU setters can write -/

/-- Every write of the CPU setters, on a machine that `t` describes. -/
inductive CpuWrite (cpu : LinuxCpuGovernor) (t : Tree) : Write Actor → Prop
  | online {id : ℕ} {v : String} : id ∈ cpu.cpuIds → CpuWrite cpu t ⟨.wattwarden, onlineNode id, v⟩
  | scalingMin {id lo hi : ℕ} : id ∈ cpu.cpuIds → cpu.discoveredFreqBounds t = some (lo, hi) →
      CpuWrite cpu t ⟨.wattwarden, cpufreqNode id "scaling_min_freq", decimal (lo * 1000)⟩
  | scalingMax {id lo hi mhz : ℕ} : id ∈ cpu.cpuIds → cpu.discoveredFreqBounds t = some (lo, hi) →
      lo ≤ mhz → mhz ≤ hi →
      CpuWrite cpu t ⟨.wattwarden, cpufreqNode id "scaling_max_freq", decimal (mhz * 1000)⟩
  | noTurbo {v : String} : CpuWrite cpu t ⟨.wattwarden, noTurboNode, v⟩
  | boost {v : String} : CpuWrite cpu t ⟨.wattwarden, boostNode, v⟩
  | epp {id : ℕ} {v : String} : id ∈ cpu.cpuIds →
      CpuWrite cpu t ⟨.wattwarden, cpufreqNode id "energy_performance_preference", v⟩
  | governor {id : ℕ} {v : String} : id ∈ cpu.cpuIds →
      CpuWrite cpu t ⟨.wattwarden, cpufreqNode id "scaling_governor", v⟩

theorem isRange_cpufreqNode (id : ℕ) (name : String) (h : name ∈ cpuRangeLeaves) :
    IsRange (cpufreqNode id name) :=
  .inl ⟨rfl, by rw [cpufreqNode, leaf_append]; exact h⟩

theorem cpuinfoPair_congr {t t' : Tree} (h : SameRanges t t') (id : ℕ) :
    cpuinfoPair t' id = cpuinfoPair t id := by
  have hmin := SysfsRoot.readI64_congr (h _ (isRange_cpufreqNode id "cpuinfo_min_freq" (by decide)))
  have hmax := SysfsRoot.readI64_congr (h _ (isRange_cpufreqNode id "cpuinfo_max_freq" (by decide)))
  rw [cpuinfoPair, cpuinfoPair, hmin, hmax]

/-- **No ratchet.**  The discovered range depends on the hardware's description only. -/
theorem discoveredFreqBounds_congr (cpu : LinuxCpuGovernor) {t t' : Tree} (h : SameRanges t t') :
    cpu.discoveredFreqBounds t' = cpu.discoveredFreqBounds t := by
  have hwiden : widen t' = widen t := by
    funext acc id
    rw [widen, widen, cpuinfoPair_congr h]
  rw [LinuxCpuGovernor.discoveredFreqBounds, LinuxCpuGovernor.discoveredFreqBounds, hwiden]

theorem resolveEpp_congr {t t' : Tree} (h : SameRanges t t') (pref : String) :
    resolveEpp t' pref = resolveEpp t pref := by
  have hlist : availableEpp t' = availableEpp t := by
    rw [availableEpp, availableEpp,
      SysfsRoot.read_congr (h _ (isRange_cpufreqNode 0 _ (by decide)))]
  rw [resolveEpp, resolveEpp, hlist]

theorem resolveGovernor_congr {t t' : Tree} (h : SameRanges t t') (gov : String) :
    resolveGovernor t' gov = resolveGovernor t gov := by
  have hlist : availableGovernors t' = availableGovernors t := by
    rw [availableGovernors, availableGovernors,
      SysfsRoot.read_congr (h _ (isRange_cpufreqNode 0 _ (by decide)))]
  rw [resolveGovernor, resolveGovernor, hlist]

theorem bounds_lt {cpu : LinuxCpuGovernor} {t : Tree} {lo hi : ℕ}
    (h : cpu.discoveredFreqBounds t = some (lo, hi)) : lo < hi := by
  rw [LinuxCpuGovernor.discoveredFreqBounds] at h
  split at h
  · simp only at h
    split at h
    · cases h
    · rename_i hlt
      cases h
      exact not_le.mp hlt
  · cases h

/-! ### The discovered ceiling is one the hardware declares -/

/-- `khz` is the `cpuinfo_max_freq` of a CPU with a usable pair. -/
def DeclaredMax (t : Tree) (ids : List ℕ) (khz : ℤ) : Prop :=
  ∃ id ∈ ids, ∃ lo, cpuinfoPair t id = some (lo, khz)

theorem widen_snd (t : Tree) (ids : List ℕ) :
    ∀ acc m, (ids.foldl (widen t) acc).2 = some m → acc.2 = some m ∨ DeclaredMax t ids m := by
  induction ids with
  | nil => exact fun acc m h => .inl h
  | cons id ids ih =>
    intro acc m h
    rcases ih _ m h with hacc | ⟨id', hid', lo', hpair⟩
    · rw [widen] at hacc
      split at hacc
      · exact .inl hacc
      · rename_i lo hi heq
        have hm : acc.2.elim hi (max · hi) = m := Option.some.inj hacc
        cases hsnd : acc.2 with
        | none =>
          rw [hsnd] at hm
          exact .inr ⟨id, by simp, lo, by rw [heq, ← hm]; rfl⟩
        | some m₀ =>
          rw [hsnd] at hm
          change max m₀ hi = m at hm
          rcases max_choice m₀ hi with hmax | hmax
          · exact .inl (by rw [← hm, hmax])
          · exact .inr ⟨id, by simp, lo, by rw [heq, ← hm, hmax]⟩
    · exact .inr ⟨id', List.mem_cons_of_mem _ hid', lo', hpair⟩

theorem cpuinfoPair_pos {t : Tree} {id : ℕ} {lo hi : ℤ} (h : cpuinfoPair t id = some (lo, hi)) :
    0 < lo ∧ lo ≤ hi := by
  rw [cpuinfoPair] at h
  split at h
  · split at h
    · cases h
    · rename_i hvalid
      cases h
      omega
  · cases h

/-- **The ceiling is declared.**  The discovered maximum, back in kHz, does not exceed the largest
valid `cpuinfo_max_freq`. -/
theorem discovered_max_le (cpu : LinuxCpuGovernor) {t : Tree} {lo hi : ℕ}
    (h : cpu.discoveredFreqBounds t = some (lo, hi)) :
    ∃ khz, DeclaredMax t cpu.cpuIds khz ∧ ((hi * 1000 : ℕ) : ℤ) ≤ khz := by
  rw [LinuxCpuGovernor.discoveredFreqBounds] at h
  split at h
  · rename_i minKhz maxKhz heq
    simp only at h
    split at h
    · cases h
    · cases h
      have hsnd : (cpu.cpuIds.foldl (widen t) (none, none)).2 = some maxKhz := by rw [heq]
      rcases widen_snd t cpu.cpuIds _ _ hsnd with hnone | hmax
      · cases hnone
      · refine ⟨maxKhz, hmax, ?_⟩
        obtain ⟨id, -, lo', hpair⟩ := hmax
        have hpos := cpuinfoPair_pos hpair
        omega
  · cases h

/-- `set_online_cores` is its `online` loop and, for some frequency, a frequency limit. -/
theorem setOnlineCores_cases (cpu : LinuxCpuGovernor) (s : SysfsRoot) (count : ℕ) :
    cpu.setOnlineCores s count = cpu.writeOnline s (clamp 1 cpu.numCpus count) ∨
    ∃ mhz, cpu.setOnlineCores s count
      = cpu.setFreqLimit (cpu.writeOnline s (clamp 1 cpu.numCpus count)) mhz := by
  unfold LinuxCpuGovernor.setOnlineCores
  simp only
  split
  · exact .inr ⟨_, rfl⟩
  · exact .inl rfl

/-! ### The setters stay inside `CpuWrite` -/

section Extends

variable {cpu : LinuxCpuGovernor} {P : Write Actor → Prop} {s₀ s : SysfsRoot}

theorem CpuWrite.not_isRange {t : Tree} {w : Write Actor} (h : CpuWrite cpu t w) :
    ¬IsRange w.path := by
  apply not_isRange_of_cpu
  · cases h <;> rfl
  · cases h <;>
      simp [onlineNode, cpufreqNode, noTurboNode, boostNode, cpuBase, leaf, cpuRangeLeaves]

variable (hP : ∀ w, CpuWrite cpu s₀.tree w → P w) (hfix : ∀ w, P w → ¬IsRange w.path)

include hP hfix

theorem setFreqLimit_extends (h : Extends P s₀ s) (mhz : ℕ) :
    Extends P s₀ (cpu.setFreqLimit s mhz) := by
  rw [LinuxCpuGovernor.setFreqLimit]
  rw [discoveredFreqBounds_congr cpu (sameRanges_of_extends hfix h)]
  split
  · exact h
  · rename_i minMhz maxMhz hbounds
    have hle : minMhz ≤ maxMhz := (bounds_lt hbounds).le
    apply h.foldl
    intro id hid s hs
    rw [LinuxCpuGovernor.writeScaling]
    split
    · exact (hs.write (hP _ (.scalingMin hid hbounds))).write
        (hP _ (.scalingMax hid hbounds (le_clamp hle) (clamp_le hle)))
    · exact hs

omit hfix in
theorem writeOnline_extends (h : Extends P s₀ s) (n : ℕ) : Extends P s₀ (cpu.writeOnline s n) := by
  apply h.foldl
  intro e he s hs
  have hid : e.1 ∈ cpu.cpuIds := List.fst_mem_of_mem_zipIdx (List.mem_of_mem_drop he)
  exact hs.write (hP _ (.online hid))

theorem setOnlineCores_extends (h : Extends P s₀ s) (count : ℕ) :
    Extends P s₀ (cpu.setOnlineCores s count) := by
  rcases setOnlineCores_cases cpu s count with heq | ⟨mhz, heq⟩
  · rw [heq]
    exact writeOnline_extends hP h _
  · rw [heq]
    exact setFreqLimit_extends hP hfix (writeOnline_extends hP h _) mhz

omit hfix in
theorem setTurboEnabled_extends (h : Extends P s₀ s) (enabled : Bool) :
    Extends P s₀ (LinuxCpuGovernor.setTurboEnabled s enabled) := by
  rw [LinuxCpuGovernor.setTurboEnabled]
  split
  · exact h.write (hP _ .noTurbo)
  · split
    · exact h.write (hP _ .boost)
    · exact h

omit hP hfix in
/-- The loop of one EPP or governor value over some CPUs. -/
theorem writeExisting_loop_extends {name value : String} {ids : List ℕ}
    (hP : ∀ id ∈ ids, P ⟨.wattwarden, cpufreqNode id name, value⟩) (h : Extends P s₀ s) :
    Extends P s₀ (ids.foldl (writeExisting name value) s) := by
  apply h.foldl
  intro id hid s hs
  rw [writeExisting]
  split
  · exact hs.write (hP id hid)
  · exact hs

omit hfix in
theorem setEpp_extends (h : Extends P s₀ s) (pref : String) :
    Extends P s₀ (cpu.setEnergyPerformancePreference s pref) := by
  rw [LinuxCpuGovernor.setEnergyPerformancePreference]
  split
  · exact h
  · rename_i epp hepp
    have hloop : Extends P s₀
        (cpu.cpuIds.foldl (writeExisting "energy_performance_preference" epp) s) :=
      writeExisting_loop_extends (fun id hid => hP _ (.epp hid)) h
    show Extends P s₀ (match resolveGovernor _ _ with | none => _ | some gov => _)
    split
    · exact hloop
    · exact writeExisting_loop_extends (fun id hid => hP _ (.governor hid)) hloop

end Extends

/-! ### What EPP and turbo leave behind -/

/-- A loop over the CPUs leaves its value in every existing node it writes. -/
theorem writeExisting_loop_content {name : String} {ids : List ℕ} {id : ℕ} (hid : id ∈ ids)
    {s : SysfsRoot} (hfile : s.tree.isFile (cpufreqNode id name) = true) (value : String) :
    (ids.foldl (writeExisting name value) s).tree.content (cpufreqNode id name) = some value := by
  have hkeep : ∀ (ids : List ℕ) (s : SysfsRoot),
      s.tree.content (cpufreqNode id name) = some value →
      (ids.foldl (writeExisting name value) s).tree.content (cpufreqNode id name)
        = some value := by
    intro ids
    induction ids with
    | nil => exact fun s hs => hs
    | cons id' ids ih =>
      intro s hs
      apply ih
      rw [writeExisting]
      split
      · rw [SysfsRoot.writeBestEffort, Journal.tree_write, Tree.content_write]
        split
        · rfl
        · exact hs
      · exact hs
  induction ids generalizing s with
  | nil => cases hid
  | cons id' ids ih =>
    by_cases heq : id = id'
    · subst heq
      have hexists : s.tree.pathExists (cpufreqNode id name) = true := by
        rw [Tree.pathExists, hfile, Bool.true_or]
      have hwrite : writeExisting name value s id
          = SysfsRoot.writeBestEffort s (cpufreqNode id name) value := by
        rw [writeExisting, if_pos hexists]
      rw [List.foldl_cons, hwrite]
      exact hkeep ids _ (Tree.content_write_self value (Tree.writable_of_isFile hfile))
    · have hmem : id ∈ ids := (List.mem_cons.mp hid).resolve_left heq
      apply ih hmem
      rw [writeExisting]
      split
      · rw [SysfsRoot.writeBestEffort, Journal.tree_write, Tree.isFile_write, hfile, Bool.true_or]
      · exact hfile

/-- **EPP lands.**  Where no preference is advertised, the requested one is written as it is. -/
theorem setEpp_content {cpu : LinuxCpuGovernor} {s : SysfsRoot} {id : ℕ} (hid : id ∈ cpu.cpuIds)
    (hfile : s.tree.isFile (cpufreqNode id "energy_performance_preference") = true)
    (hnone : availableEpp s.tree = []) (pref : String) :
    (cpu.setEnergyPerformancePreference s pref).tree.content
      (cpufreqNode id "energy_performance_preference") = some pref := by
  have hresolve : resolveEpp s.tree pref = some pref := by simp [resolveEpp, hnone]
  have hepp := writeExisting_loop_content hid hfile pref
  rw [LinuxCpuGovernor.setEnergyPerformancePreference, hresolve]
  show (match resolveGovernor _ _ with | none => _ | some gov => _ : SysfsRoot).tree.content _ = _
  split
  · exact hepp
  · rename_i gov _
    have hgov : Extends (fun w => leaf w.path = "scaling_governor")
        (cpu.cpuIds.foldl (writeExisting "energy_performance_preference" pref) s)
        (cpu.cpuIds.foldl (writeExisting "scaling_governor" gov)
          (cpu.cpuIds.foldl (writeExisting "energy_performance_preference" pref) s)) :=
      writeExisting_loop_extends (fun id _ => by simp [cpufreqNode]) (Extends.refl _ _)
    rw [← hepp]
    apply hgov.content_eq
    intro w hw
    apply ne_of_leaf_ne
    rw [hw]
    simp [cpufreqNode]

theorem setTurboEnabled_content (s : SysfsRoot) (enabled : Bool) {p : Path}
    (hturbo : p ≠ noTurboNode) (hboost : p ≠ boostNode) :
    (LinuxCpuGovernor.setTurboEnabled s enabled).tree.content p = s.tree.content p := by
  rw [LinuxCpuGovernor.setTurboEnabled]
  split
  · exact Tree.content_write_ne _ hturbo
  · split
    · exact Tree.content_write_ne _ hboost
    · rfl

end WattWarden
