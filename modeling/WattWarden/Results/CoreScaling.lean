import WattWarden.Platform.Plans

/-!
# Core scaling

`set_online_cores` switches a prefix of the CPU list on, the rest off, and sets the frequency limit in
force again for the cores that came back.

* `ScalableTree` — every CPU but the first has an `online` node, and nodes keep what is written;
* `filter_eq_take` — a predicate that holds of a prefix and nothing else counts that prefix;
* `content_onlineNode`, `content_scalingMax` — **PROVED**: what the plan of `set_online_cores` leaves
  behind;
* `setOnlineCores_spec` — **PROVED**: the requested prefix is online and counted, the limit is the old
  one inside the range, and no other node changes.
-/

namespace WattWarden

open Library.FileTree Library.Journaling Library.Numerals

/-- Filtering by a predicate that holds of the first `m` entries only takes these. -/
theorem filter_eq_take {α : Type*} {P : α → Bool} {l : List α} {m : ℕ}
    (h : ∀ i a, l[i]? = some a → (P a = true ↔ i < m)) : l.filter P = l.take m := by
  induction l generalizing m with
  | nil => simp
  | cons a l ih =>
    have hhead := h 0 a rfl
    have htail : ∀ i b, l[i]? = some b → (P b = true ↔ i + 1 < m) := fun i b hb => h (i + 1) b hb
    cases m with
    | zero =>
      have hnone : l.filter P = l.take 0 := by
        apply ih
        intro i b hb
        simpa using htail i b hb
      have hfalse : P a = false := by simpa using hhead
      rw [List.filter_cons_of_neg (by simp [hfalse]), hnone]
      rfl
    | succ m =>
      have hrest : l.filter P = l.take m := by
        apply ih
        intro i b hb
        rw [htail i b hb]
        omega
      rw [List.filter_cons_of_pos (by simpa using hhead), hrest, List.take_succ_cons]

/-! ### The online nodes -/

section Online

variable {cpu : LinuxCpuGovernor} {t : Tree} {w : Write Actor}

/-- A position other than the first. -/
theorem mem_drop_one {ids : List ℕ} {i id : ℕ} (hi : 1 ≤ i) (hid : ids[i]? = some id) :
    id ∈ ids.drop 1 := by
  rw [List.mem_iff_getElem?]
  exact ⟨i - 1, by rwa [List.getElem?_drop, Nat.add_sub_cancel' hi]⟩

/-- The position in the list decides what a CPU is written. -/
theorem mem_onlinePlan {n : ℕ} : w ∈ onlinePlan cpu n ↔
    ∃ i id, 1 ≤ i ∧ cpu.cpuIds[i]? = some id ∧
      w = put (onlineNode id) (if i < n then "1" else "0") := by
  have hpair : ∀ e : ℕ × ℕ, e ∈ cpu.cpuIds.zipIdx.drop 1 ↔
      1 ≤ e.2 ∧ cpu.cpuIds[e.2]? = some e.1 := by
    intro e
    simp only [List.mem_iff_getElem?, List.getElem?_drop, List.getElem?_zipIdx,
      Option.map_eq_some_iff]
    constructor
    · intro h
      obtain ⟨j, id, hid, rfl⟩ := h
      exact ⟨by simp, by simpa using hid⟩
    · intro h
      obtain ⟨hi, hid⟩ := h
      exact ⟨e.2 - 1, e.1, by rwa [Nat.add_sub_cancel' hi], by simp [hi]⟩
  rw [onlinePlan, List.mem_map]
  constructor
  · intro h
    obtain ⟨e, he, rfl⟩ := h
    exact ⟨e.2, e.1, ((hpair e).mp he).1, ((hpair e).mp he).2, rfl⟩
  · intro h
    obtain ⟨i, id, hi, hid, rfl⟩ := h
    exact ⟨(id, i), (hpair (id, i)).mpr ⟨hi, hid⟩, rfl⟩

theorem onlineNode_ne_cpufreqNode (id id' : ℕ) {name : String} (h : name ≠ "online") :
    onlineNode id ≠ cpufreqNode id' name := by
  apply ne_of_leaf_ne
  rw [onlineNode, cpufreqNode, leaf_append, leaf_append]
  exact h.symm

/-- **What is planned for an `online` node.** -/
theorem planned_onlineNode (hnodup : cpu.cpuIds.Nodup) {i id : ℕ} (hi : 1 ≤ i)
    (hid : cpu.cpuIds[i]? = some id) (limit count : ℕ) :
    planned (coresPlan cpu t limit count) (onlineNode id)
      = some (if i < clamp 1 cpu.numCpus count then "1" else "0") := by
  have honline : put (onlineNode id) (if i < clamp 1 cpu.numCpus count then "1" else "0")
      ∈ onlinePlan cpu (clamp 1 cpu.numCpus count) := mem_onlinePlan.mpr ⟨i, id, hi, hid, rfl⟩
  refine planned_eq_some ⟨_, List.mem_append_left _ honline, rfl⟩ ?_
  intro w hw hpath
  rw [coresPlan, List.mem_append] at hw
  rcases hw with hw | hw
  · obtain ⟨j, id', -, hid', rfl⟩ := mem_onlinePlan.mp hw
    obtain rfl : id' = id := onlineNode_inj.mp hpath
    -- an identifier stands in one position of the list
    obtain ⟨hj, -⟩ := List.getElem?_eq_some_iff.mp hid'
    have hsame : j = i := (List.getElem?_inj hj hnodup).mp (hid'.trans hid.symm)
    rw [hsame]
    rfl
  · exfalso
    split at hw
    · obtain ⟨lo, hi', -, id', -, -, rfl | rfl⟩ := (mem_freqPlan cpu).mp hw
      · exact onlineNode_ne_cpufreqNode id id' (by decide) hpath.symm
      · exact onlineNode_ne_cpufreqNode id id' (by decide) hpath.symm
    · cases hw

/-! ### The frequency limit -/

/-- **What is planned for an upper limit**, when there is a range. -/
theorem planned_freqPlan {lo hi mhz : ℕ} (hbounds : cpu.discoveredFreqBounds t = some (lo, hi))
    {id : ℕ} (hid : id ∈ cpu.cpuIds) (hdir : t.pathExists (cpufreqDir id) = true) :
    planned (freqPlan cpu t mhz) (cpufreqNode id "scaling_max_freq")
      = some (decimal (clamp lo hi mhz * 1000)) := by
  have hmem : put (cpufreqNode id "scaling_max_freq") (decimal (clamp lo hi mhz * 1000))
      ∈ freqPlan cpu t mhz :=
    (mem_freqPlan cpu).mpr ⟨lo, hi, hbounds, id, hid, hdir, .inr rfl⟩
  refine planned_eq_some ⟨_, hmem, rfl⟩ ?_
  intro w hw hpath
  obtain ⟨lo', hi', hbounds', id', -, -, rfl | rfl⟩ := (mem_freqPlan cpu).mp hw
  · -- the lower limit is another node
    exact absurd hpath (ne_of_leaf_ne (by simp [cpufreqNode]))
  · cases hbounds.symm.trans hbounds'
    rfl

/-- The cores come before the limit in force, which is set again. -/
theorem planned_scalingMax {lo hi limit : ℕ} (hbounds : cpu.discoveredFreqBounds t = some (lo, hi))
    (hlimit : 0 < limit) {id : ℕ} (hid : id ∈ cpu.cpuIds)
    (hdir : t.pathExists (cpufreqDir id) = true) (count : ℕ) :
    planned (coresPlan cpu t limit count) (cpufreqNode id "scaling_max_freq")
      = some (decimal (clamp lo hi limit * 1000)) := by
  rw [coresPlan, if_pos hlimit, planned_append, planned_freqPlan hbounds hid hdir, Option.some_or]

/-- The limit in force, read back. -/
theorem freqLimit_of_content {mhz : ℕ} (hmhz : mhz < 2 ^ 32)
    (h : t.content (cpufreqNode 0 "scaling_max_freq") = some (decimal (mhz * 1000))) :
    LinuxCpuGovernor.freqLimit t = mhz := by
  have hread : SysfsRoot.readI64 t (cpufreqNode 0 "scaling_max_freq") = some ((mhz * 1000 : ℕ) : ℤ) := by
    rw [SysfsRoot.readI64, SysfsRoot.read, h, Option.map_some, Option.getD_some, trim_decimal,
      parseSigned_decimal (by omega)]
  rw [LinuxCpuGovernor.freqLimit, hread]
  dsimp only [Option.getD_some]
  split
  · omega
  · rw [Int.tdiv_eq_ediv_of_nonneg (by omega)]
    omega

/-- A limit in force is the upper limit of CPU 0. -/
theorem isFile_of_freqLimit (h : 0 < LinuxCpuGovernor.freqLimit t) :
    t.isFile (cpufreqNode 0 "scaling_max_freq") = true := by
  by_contra hfile
  have hnone := Tree.content_of_isFile_false (by simpa using hfile)
  have hread : SysfsRoot.readI64 t (cpufreqNode 0 "scaling_max_freq") = none := by
    rw [SysfsRoot.readI64, SysfsRoot.read, hnone]
    decide
  rw [LinuxCpuGovernor.freqLimit, hread] at h
  exact absurd h (by decide)

/-- Megahertz are a `u32`. -/
theorem freq_max_lt {lo hi : ℕ} (h : cpu.discoveredFreqBounds t = some (lo, hi)) : hi < 2 ^ 32 := by
  rw [LinuxCpuGovernor.discoveredFreqBounds] at h
  split at h
  · dsimp only at h
    split at h
    · cases h
    · cases h
      omega
  · cases h

/-- **The footprint**: the `online` nodes, and with a range and a limit in force the two limits of the
CPUs with a `cpufreq` directory. -/
theorem mem_coresPlan_path {limit count : ℕ} (h : w ∈ coresPlan cpu t limit count) :
    (∃ id ∈ cpu.cpuIds.drop 1, w.path = onlineNode id) ∨
      ((cpu.discoveredFreqBounds t).isSome = true ∧ 0 < limit ∧
        ∃ id ∈ cpu.cpuIds, t.pathExists (cpufreqDir id) = true ∧
          (w.path = cpufreqNode id "scaling_min_freq" ∨
            w.path = cpufreqNode id "scaling_max_freq")) := by
  rw [coresPlan, List.mem_append] at h
  rcases h with h | h
  · obtain ⟨i, id, hi, hid, rfl⟩ := mem_onlinePlan.mp h
    exact .inl ⟨id, mem_drop_one hi hid, rfl⟩
  · split at h
    · rename_i hlimit
      obtain ⟨lo, hi, hbounds, id, hid, hdir, hw⟩ := (mem_freqPlan cpu).mp h
      refine .inr ⟨by rw [hbounds]; rfl, hlimit, id, hid, hdir, ?_⟩
      exact hw.imp (congrArg Write.path) (congrArg Write.path)
    · cases h

end Online

/-! ### Scaling the cores -/

/-- A tree on which the cores of `cpu` can be scaled: files lie in directories, every CPU but the first
has an `online` node, and the upper limits keep what is written. -/
structure ScalableTree (cpu : LinuxCpuGovernor) (t : Tree) : Prop where
  rooted : ∀ p, t.isFile p = true → t.isDir p.dropLast = true
  online : ∀ id ∈ cpu.cpuIds.drop 1, t.isFile (onlineNode id) = true
  keeps : ∀ id ∈ cpu.cpuIds, t.pathExists (cpufreqDir id) = true →
    t.writable (cpufreqNode id "scaling_max_freq") = true

section Scaling

variable {cpu : LinuxCpuGovernor} {t : Tree}

theorem content_onlineNode (h : ScalableTree cpu t) (hnodup : cpu.cpuIds.Nodup) {i id : ℕ}
    (hi : 1 ≤ i) (hid : cpu.cpuIds[i]? = some id) (count : ℕ) :
    (cpu.setOnlineCores (.start t) count).tree.content (onlineNode id)
      = some (if i < clamp 1 cpu.numCpus count then "1" else "0") := by
  rw [setOnlineCores_eq cpu (SameMachine.refl t), Journal.content_writeAll,
    planned_onlineNode hnodup hi hid]
  exact if_pos (Tree.writable_of_isFile (h.online id (mem_drop_one hi hid)))

theorem read_onlineNode (h : ScalableTree cpu t) (hnodup : cpu.cpuIds.Nodup) {i id : ℕ}
    (hi : 1 ≤ i) (hid : cpu.cpuIds[i]? = some id) (count : ℕ) :
    SysfsRoot.read (cpu.setOnlineCores (.start t) count).tree (onlineNode id)
      = if i < clamp 1 cpu.numCpus count then "1" else "0" := by
  rw [SysfsRoot.read, content_onlineNode h hnodup hi hid]
  split <;> decide

/-- **Counting back.**  The online nodes read `1` on a prefix of the list, so the count is its
length. -/
theorem onlineCores_setOnlineCores (h : ScalableTree cpu t) (hnodup : cpu.cpuIds.Nodup)
    (hlength : cpu.cpuIds.length = cpu.numCpus) (count : ℕ) :
    cpu.onlineCores (cpu.setOnlineCores (.start t) count).tree = clamp 1 cpu.numCpus count := by
  have hpos := cpu.numCpus_pos
  have hlo : 1 ≤ clamp 1 cpu.numCpus count := le_clamp hpos
  have hhi : clamp 1 cpu.numCpus count ≤ cpu.numCpus := clamp_le hpos
  have hprefix : (cpu.cpuIds.drop 1).filter (fun id => decide (SysfsRoot.read
      (cpu.setOnlineCores (.start t) count).tree (onlineNode id) = "1"))
      = (cpu.cpuIds.drop 1).take (clamp 1 cpu.numCpus count - 1) := by
    apply filter_eq_take
    intro i id hid
    rw [List.getElem?_drop] at hid
    rw [decide_eq_true_eq, read_onlineNode h hnodup (by omega) hid]
    split
    · exact iff_of_true rfl (by omega)
    · exact iff_of_false (by decide) (by omega)
  rw [LinuxCpuGovernor.onlineCores, hprefix, List.length_take, List.length_drop]
  omega

theorem content_scalingMax (h : ScalableTree cpu t) {lo hi : ℕ}
    (hbounds : cpu.discoveredFreqBounds t = some (lo, hi))
    (hlimit : 0 < LinuxCpuGovernor.freqLimit t) {id : ℕ} (hid : id ∈ cpu.cpuIds)
    (hdir : t.pathExists (cpufreqDir id) = true) (count : ℕ) :
    (cpu.setOnlineCores (.start t) count).tree.content (cpufreqNode id "scaling_max_freq")
      = some (decimal (clamp lo hi (LinuxCpuGovernor.freqLimit t) * 1000)) := by
  rw [setOnlineCores_eq cpu (SameMachine.refl t), Journal.content_writeAll, Journal.tree_start,
    planned_scalingMax hbounds hlimit hid hdir]
  exact if_pos (h.keeps id hid hdir)

/-- The `cpufreq` directory of CPU 0 is there when a limit is in force. -/
theorem cpufreqDir_of_freqLimit (h : ScalableTree cpu t) (hlimit : 0 < LinuxCpuGovernor.freqLimit t) :
    t.pathExists (cpufreqDir 0) = true := by
  have hparent := h.rooted _ (isFile_of_freqLimit hlimit)
  rw [cpufreqNode, List.dropLast_concat] at hparent
  rw [Tree.pathExists, hparent, Bool.or_true]

/-- **The frame.**  Whatever changed was planned. -/
theorem changed_setOnlineCores {count : ℕ} {p : Path}
    (hchanged : (cpu.setOnlineCores (.start t) count).tree.content p ≠ t.content p) :
    ∃ w ∈ coresPlan cpu t (LinuxCpuGovernor.freqLimit t) count, w.path = p := by
  by_contra hnone
  apply hchanged
  rw [setOnlineCores_eq cpu (SameMachine.refl t), Journal.content_writeAll_of_not_mem,
    Journal.tree_start]
  intro w hw hpath
  exact hnone ⟨w, hw, hpath⟩

end Scaling

/-- The CPUs of a machine that lists some. -/
theorem withRoot_cpuIds {t : Tree} (parallelism : ℕ) (hpar : 0 < parallelism)
    (hsome : LinuxCpuGovernor.discover t ≠ []) :
    let cpu := LinuxCpuGovernor.withRoot t parallelism hpar
    cpu.cpuIds = LinuxCpuGovernor.discover t ∧ cpu.cpuIds.length = cpu.numCpus ∧
      cpu.cpuIds.Nodup := by
  intro cpu
  have hids : cpu.cpuIds = LinuxCpuGovernor.discover t := by
    simp [cpu, LinuxCpuGovernor.cpuIds, LinuxCpuGovernor.withRoot, hsome]
  rw [hids]
  refine ⟨rfl, ?_, List.nodup_dedup _⟩
  simp [cpu, LinuxCpuGovernor.numCpus, LinuxCpuGovernor.withRoot, hsome]

/-- **Core scaling.**  On a tree whose discovered CPUs begin with number 0, the first `n` CPUs of the
list are online afterwards and no others, and they are counted; the limit in force is the one before,
inside the discovered range; and only the nodes concerned change. -/
theorem setOnlineCores_spec (t : Tree) (parallelism : ℕ) (hpar : 0 < parallelism) (count : ℕ)
    (hzero : (LinuxCpuGovernor.discover t).head? = some 0)
    (htree : ScalableTree (LinuxCpuGovernor.withRoot t parallelism hpar) t) :
    let cpu := LinuxCpuGovernor.withRoot t parallelism hpar
    let n := clamp 1 cpu.numCpus count
    let t' := (cpu.setOnlineCores (.start t) count).tree
    let f := LinuxCpuGovernor.freqLimit t
    (∀ i id, 1 ≤ i → cpu.cpuIds[i]? = some id →
      SysfsRoot.read t' (onlineNode id) = if i < n then "1" else "0") ∧
    cpu.onlineCores t' = n ∧
    (∀ lo hi, cpu.discoveredFreqBounds t = some (lo, hi) → 0 < f →
      (∀ id ∈ cpu.cpuIds, t.pathExists (cpufreqDir id) = true →
        t'.content (cpufreqNode id "scaling_max_freq") = some (decimal (1000 * clamp lo hi f))) ∧
      LinuxCpuGovernor.freqLimit t' = clamp lo hi f) ∧
    ∀ p, t'.content p ≠ t.content p →
      (∃ id ∈ cpu.cpuIds.drop 1, p = onlineNode id) ∨
      ((cpu.discoveredFreqBounds t).isSome = true ∧ 0 < f ∧
        ∃ id ∈ cpu.cpuIds, t.pathExists (cpufreqDir id) = true ∧
          (p = cpufreqNode id "scaling_min_freq" ∨ p = cpufreqNode id "scaling_max_freq")) := by
  intro cpu n t' f
  have hsome : LinuxCpuGovernor.discover t ≠ [] := by
    intro hnil
    rw [hnil] at hzero
    cases hzero
  obtain ⟨hids, hlength, hnodup⟩ := withRoot_cpuIds parallelism hpar hsome
  refine ⟨?_, ?_, ?_, ?_⟩
  · intro i id hi hid
    exact read_onlineNode htree hnodup hi hid count
  · exact onlineCores_setOnlineCores htree hnodup hlength count
  · intro lo hi hbounds hf
    have hlt : clamp lo hi f < 2 ^ 32 :=
      lt_of_le_of_lt (clamp_le (le_of_lt (bounds_lt hbounds))) (freq_max_lt hbounds)
    have hmax : ∀ id ∈ cpu.cpuIds, t.pathExists (cpufreqDir id) = true →
        t'.content (cpufreqNode id "scaling_max_freq") = some (decimal (clamp lo hi f * 1000)) :=
      fun id hid hdir => content_scalingMax htree hbounds hf hid hdir count
    have hfirst : 0 ∈ cpu.cpuIds := by
      rw [hids]
      exact List.mem_of_mem_head? hzero
    constructor
    · intro id hid hdir
      rw [Nat.mul_comm]
      exact hmax id hid hdir
    · exact freqLimit_of_content hlt (hmax 0 hfirst (cpufreqDir_of_freqLimit htree hf))
  · intro p hchanged
    obtain ⟨w, hw, rfl⟩ := changed_setOnlineCores hchanged
    exact mem_coresPlan_path hw

/-- CPUs 0, 2 and 5 of a machine limited to 2 GHz; the last one shows no `cpufreq` directory. -/
def gappedCpus : Tree := .ofFiles [
  (onlineNode 2, "1"),
  (onlineNode 5, "1"),
  (cpufreqNode 0 "cpuinfo_min_freq", "400000"),
  (cpufreqNode 0 "cpuinfo_max_freq", "3500000"),
  (cpufreqNode 0 "scaling_max_freq", "2000000"),
  (cpufreqNode 2 "scaling_max_freq", "3500000")]

/-- Two of the three CPUs are left online, and CPU 2 gets the limit of CPU 0. -/
theorem setOnlineCores_gapped :
    let cpu := LinuxCpuGovernor.withRoot gappedCpus 1 (by decide)
    let t' := (cpu.setOnlineCores (.start gappedCpus) 2).tree
    SysfsRoot.read t' (onlineNode 2) = "1" ∧ SysfsRoot.read t' (onlineNode 5) = "0" ∧
      cpu.onlineCores t' = 2 ∧
      t'.content (cpufreqNode 2 "scaling_max_freq") = some (decimal (1000 * 2000)) := by
  intro cpu t'
  have hids : cpu.cpuIds = [0, 2, 5] := by decide +kernel
  have htree : ScalableTree cpu gappedCpus := by
    constructor
    · intro p hp
      have hmem : p ∈ gappedCpus.paths := Tree.mem_paths.mpr (by rw [Tree.pathExists, hp]; rfl)
      have hall : ∀ p ∈ gappedCpus.paths,
          gappedCpus.isFile p = true → gappedCpus.isDir p.dropLast = true := by decide +kernel
      exact hall p hmem hp
    · rw [hids]
      decide +kernel
    · rw [hids]
      decide +kernel
  obtain ⟨hread, hcount, hlimit, -⟩ :=
    setOnlineCores_spec gappedCpus 1 (by decide) 2 (by decide +kernel) htree
  have hmax := (hlimit 400 3500 (by decide +kernel) (by decide +kernel)).1 2
    (by rw [hids]; decide) (by decide +kernel)
  refine ⟨?_, ?_, ?_, ?_⟩
  · rw [hread 1 2 (by decide) (by rw [hids]; rfl)]
    decide +kernel
  · rw [hread 2 5 (by decide) (by rw [hids]; rfl)]
    decide +kernel
  · rw [hcount]
    decide +kernel
  · rw [hmax]
    decide +kernel

end WattWarden
