import WattWarden.Platform.Resolvers

/-!
# Only what the hardware advertises

What `set_energy_performance_preference` and `set_aspm_policy` write, seen against the lists the
hardware advertises.

* `mem_eppPlan` — **PROVED**: every write of the first setter, with the choice behind it;
* `eppNode_written_iff`, `governorNode_written_iff` — **PROVED**: what each node of a CPU is written;
* `writes_advertised` — **PROVED**: every preference node there is, governor node and ASPM node is
  written its choice and nothing else; the choice is on the list, and the preference is the request
  or the first nearest listed one;
* `spares_performance_iff` — **PROVED**: when a request for anything but performance leaves the
  performance governor alone;
* `power_selects_performance` — `power` selects it where `schedutil` is offered besides.
-/

namespace WattWarden

open Library.FileTree Library.Journaling Library.Numerals Library.Nearest

/-! ### The writes -/

section Writes

variable {cpu : LinuxCpuGovernor} {t : Tree} {w : Write Actor}

theorem mem_leavesPlan {name value : String} : w ∈ leavesPlan cpu t name value ↔
    ∃ id ∈ cpu.cpuIds, t.pathExists (cpufreqNode id name) = true ∧
      w = put (cpufreqNode id name) value := by
  simp only [leavesPlan, List.mem_flatMap, mem_existingPlan]

/-- The governor a preference asks for. -/
def requestedGovernor (pref : String) : String :=
  if pref = "performance" then "performance" else "powersave"

theorem requestedGovernor_cases (pref : String) :
    requestedGovernor pref = "performance" ∨ requestedGovernor pref = "powersave" := by
  rw [requestedGovernor]
  split
  · exact .inl rfl
  · exact .inr rfl

theorem requestedGovernor_eq_performance {pref : String} :
    requestedGovernor pref = "performance" ↔ pref = "performance" := by
  rw [requestedGovernor]
  split <;> simp_all

/-- **One write of the setter.** -/
theorem mem_eppPlan {pref : String} : w ∈ eppPlan cpu t pref ↔
    ∃ tok, resolveEpp t pref = some tok ∧
      (w ∈ leavesPlan cpu t "energy_performance_preference" tok ∨
        ∃ gov, resolveGovernor t (requestedGovernor tok) = some gov ∧
          w ∈ leavesPlan cpu t "scaling_governor" gov) := by
  rw [eppPlan]
  cases resolveEpp t pref with
  | none => simp
  | some tok =>
    simp only [List.mem_append, Option.some.injEq, exists_eq_left']
    apply or_congr_right
    rw [requestedGovernor]
    cases resolveGovernor t (if tok = "performance" then "performance" else "powersave") with
    | none => simp
    | some gov => simp

/-- Preferences and governors go to different nodes. -/
theorem eppNode_ne_governorNode (id id' : ℕ) : cpufreqNode id "energy_performance_preference"
    ≠ cpufreqNode id' "scaling_governor" :=
  ne_of_leaf_ne (by simp [cpufreqNode])

theorem mem_log_setEpp {pref : String} :
    w ∈ (cpu.setEnergyPerformancePreference (.start t) pref).log ↔ w ∈ eppPlan cpu t pref := by
  rw [setEpp_eq cpu (SameMachine.refl t), Journal.mem_log_writeAll]

/-- **What a preference node is written.**  Every one there is gets the resolved preference. -/
theorem eppNode_written_iff {pref tok : String} {id : ℕ} :
    (∃ w ∈ (cpu.setEnergyPerformancePreference (.start t) pref).log,
      w.path = cpufreqNode id "energy_performance_preference" ∧ w.value = tok) ↔
    (id ∈ cpu.cpuIds ∧ t.pathExists (cpufreqNode id "energy_performance_preference") = true) ∧
      resolveEpp t pref = some tok := by
  constructor
  · intro h
    obtain ⟨w, hw, hpath, rfl⟩ := h
    obtain ⟨tok, htok, hplan | ⟨gov, -, hplan⟩⟩ := mem_eppPlan.mp (mem_log_setEpp.mp hw)
    · obtain ⟨id', hid', hexists, rfl⟩ := mem_leavesPlan.mp hplan
      obtain rfl := cpufreqNode_inj.mp hpath
      exact ⟨⟨hid', hexists⟩, htok⟩
    · obtain ⟨id', -, -, rfl⟩ := mem_leavesPlan.mp hplan
      exact absurd hpath.symm (eppNode_ne_governorNode id id')
  · intro h
    obtain ⟨⟨hid, hexists⟩, htok⟩ := h
    refine ⟨put (cpufreqNode id "energy_performance_preference") tok, ?_, rfl, rfl⟩
    rw [mem_log_setEpp, mem_eppPlan]
    exact ⟨tok, htok, .inl (mem_leavesPlan.mpr ⟨id, hid, hexists, rfl⟩)⟩

/-- **What a governor node is written.**  Every one there is gets the governor resolved for the
resolved preference. -/
theorem governorNode_written_iff {pref gov : String} {id : ℕ} :
    (∃ w ∈ (cpu.setEnergyPerformancePreference (.start t) pref).log,
      w.path = cpufreqNode id "scaling_governor" ∧ w.value = gov) ↔
    (id ∈ cpu.cpuIds ∧ t.pathExists (cpufreqNode id "scaling_governor") = true) ∧
      ∃ tok, resolveEpp t pref = some tok ∧
        resolveGovernor t (requestedGovernor tok) = some gov := by
  constructor
  · intro h
    obtain ⟨w, hw, hpath, rfl⟩ := h
    obtain ⟨tok, htok, hplan | ⟨gov, hgov, hplan⟩⟩ := mem_eppPlan.mp (mem_log_setEpp.mp hw)
    · obtain ⟨id', -, -, rfl⟩ := mem_leavesPlan.mp hplan
      exact absurd hpath (eppNode_ne_governorNode id' id)
    · obtain ⟨id', hid', hexists, rfl⟩ := mem_leavesPlan.mp hplan
      obtain rfl := cpufreqNode_inj.mp hpath
      exact ⟨⟨hid', hexists⟩, tok, htok, hgov⟩
  · intro h
    obtain ⟨⟨hid, hexists⟩, tok, htok, hgov⟩ := h
    refine ⟨put (cpufreqNode id "scaling_governor") gov, ?_, rfl, rfl⟩
    rw [mem_log_setEpp, mem_eppPlan]
    exact ⟨tok, htok, .inr ⟨gov, hgov, mem_leavesPlan.mpr ⟨id, hid, hexists, rfl⟩⟩⟩

/-- **When a CPU gets a governor.** -/
theorem governor_written_iff {pref gov : String} :
    (∃ w ∈ (cpu.setEnergyPerformancePreference (.start t) pref).log,
      ∃ id, w.path = cpufreqNode id "scaling_governor" ∧ w.value = gov) ↔
    (∃ id ∈ cpu.cpuIds, t.pathExists (cpufreqNode id "scaling_governor") = true) ∧
      ∃ tok, resolveEpp t pref = some tok ∧
        resolveGovernor t (requestedGovernor tok) = some gov := by
  constructor
  · intro h
    obtain ⟨w, hw, id, hwrite⟩ := h
    obtain ⟨hnode, hchosen⟩ := governorNode_written_iff.mp ⟨w, hw, hwrite⟩
    exact ⟨⟨id, hnode⟩, hchosen⟩
  · intro h
    obtain ⟨⟨id, hnode⟩, hchosen⟩ := h
    obtain ⟨w, hw, hwrite⟩ := governorNode_written_iff.mpr ⟨hnode, hchosen⟩
    exact ⟨w, hw, id, hwrite⟩

end Writes

/-! ### Advertised tokens -/

/-- The choice from the advertised preferences: the request if it is listed, and else the first
nearest known one. -/
def ChosenEpp (t : Tree) (pref tok : String) : Prop :=
  if pref ∈ availableEpp t then tok = pref
  else FirstNearest (eppDistance pref) (availableEpp t) tok

/-- The choice from the advertised policies: the request if it is listed, and else `default` if that
is. -/
def ChosenPolicy (t : Tree) (policy choice : String) : Prop :=
  choice ∈ availablePolicies t ∧
    if policy ∈ availablePolicies t then choice = policy else choice = "default"

theorem chosenEpp_iff {t : Tree} {pref tok : String} (hlist : availableEpp t ≠ []) :
    resolveEpp t pref = some tok ↔ ChosenEpp t pref tok := by
  have hpassed : EppPassed t pref ↔ pref ∈ availableEpp t := or_iff_right hlist
  rw [resolveEpp_eq_some_iff, hpassed, ChosenEpp]
  split
  · rename_i hlisted
    simp [hlisted]
  · rename_i hmissing
    simp [hmissing]

theorem ChosenEpp.mem {t : Tree} {pref tok : String} (h : ChosenEpp t pref tok) :
    tok ∈ availableEpp t := by
  rw [ChosenEpp] at h
  split at h
  · rwa [h]
  · exact h.mem

theorem chosenPolicy_iff {t : Tree} {policy choice : String} (hlist : availablePolicies t ≠ []) :
    resolvePolicy t policy = some choice ↔ ChosenPolicy t policy choice := by
  rw [ChosenPolicy]
  by_cases hlisted : policy ∈ availablePolicies t
  · rw [resolvePolicy_of_mem hlisted, if_pos hlisted, Option.some.injEq, eq_comm]
    exact ⟨fun h => ⟨h ▸ hlisted, h⟩, And.right⟩
  · rw [if_neg hlisted, resolvePolicy, if_neg (by simp [hlist, hlisted]), find?_default]
    constructor
    · intro h
      split at h
      · rename_i hdefault
        obtain rfl := Option.some.inj h
        exact ⟨hdefault, rfl⟩
      · cases h
    · rintro ⟨hmem, rfl⟩
      exact if_pos hmem

/-- Without a preference to choose nothing is written at all. -/
theorem log_setEpp_eq_nil {cpu : LinuxCpuGovernor} {t : Tree} {pref : String}
    (h : resolveEpp t pref = none) :
    (cpu.setEnergyPerformancePreference (.start t) pref).log = [] := by
  rw [List.eq_nil_iff_forall_not_mem]
  intro w hw
  obtain ⟨tok, htok, -⟩ := mem_eppPlan.mp (mem_log_setEpp.mp hw)
  rw [h] at htok
  cases htok

/-- **Only advertised tokens are written, and the nearest one is chosen.**  For every machine and
every request: where preferences are advertised, each preference node of a CPU is written the choice,
a listed token, and nothing else, and without a choice nothing at all is written; where governors are
advertised, each governor node is written the governor for that choice, one of the list, and nothing
else; where the ASPM node lists policies, it is written the choice, one of them, and no other node is
written. -/
theorem writes_advertised (cpu : LinuxCpuGovernor) (t : Tree) (pref policy : String) :
    let log := (cpu.setEnergyPerformancePreference (.start t) pref).log
    let aspmLog := (LinuxAspm.setAspmPolicy (.start t) policy).log
    (availableEpp t ≠ [] →
      (∀ id tok, (∃ w ∈ log,
          w.path = cpufreqNode id "energy_performance_preference" ∧ w.value = tok) ↔
        (id ∈ cpu.cpuIds ∧
          t.pathExists (cpufreqNode id "energy_performance_preference") = true) ∧
            ChosenEpp t pref tok) ∧
      (∀ tok, ChosenEpp t pref tok → tok ∈ availableEpp t) ∧
      (pref ∉ availableEpp t → (∀ a ∈ availableEpp t, eppDistance pref a = none) → log = [])) ∧
    (availableGovernors t ≠ [] →
      (∀ id gov, (∃ w ∈ log, w.path = cpufreqNode id "scaling_governor" ∧ w.value = gov) ↔
        (id ∈ cpu.cpuIds ∧ t.pathExists (cpufreqNode id "scaling_governor") = true) ∧
          ∃ tok, resolveEpp t pref = some tok ∧
            resolveGovernor t (requestedGovernor tok) = some gov) ∧
      (∀ tok gov, resolveGovernor t (requestedGovernor tok) = some gov →
        gov ∈ availableGovernors t)) ∧
    (availablePolicies t ≠ [] →
      (∀ w ∈ aspmLog, w.path = aspmPolicyPath) ∧
      ∀ choice, (∃ w ∈ aspmLog, w.value = choice) ↔ ChosenPolicy t policy choice) := by
  intro log aspmLog
  have haspm : aspmLog = (resolvePolicy t policy).toList.map (put aspmPolicyPath) := by
    show (LinuxAspm.setAspmPolicy (.start t) policy).log = _
    rw [setAspmPolicy_eq, Journal.tree_start, aspmPlan]
    cases resolvePolicy t policy <;> rfl
  refine ⟨?_, ?_, ?_⟩
  · intro hlist
    refine ⟨?_, fun tok => ChosenEpp.mem, ?_⟩
    · intro id tok
      rw [← chosenEpp_iff hlist]
      exact eppNode_written_iff
    · intro hmissing hunknown
      exact log_setEpp_eq_nil (resolveEpp_eq_none_iff.mpr ⟨not_or.mpr ⟨hlist, hmissing⟩, hunknown⟩)
  · intro hlist
    exact ⟨fun id gov => governorNode_written_iff, fun tok gov => resolveGovernor_mem hlist⟩
  · intro hlist
    constructor
    · intro w hw
      rw [haspm] at hw
      obtain ⟨choice, -, rfl⟩ := List.mem_map.mp hw
      rfl
    · intro choice
      rw [← chosenPolicy_iff hlist, haspm]
      cases resolvePolicy t policy with
      | none => simp
      | some chosen => simp [put]

/-! ### The performance governor -/

/-- The hardware refuses the request: other preferences are advertised, none with a distance. -/
def EppRefused (t : Tree) (pref : String) : Prop :=
  ¬EppPassed t pref ∧ ∀ a ∈ availableEpp t, eppDistance pref a = none

/-- The request is mapped onto the performance preference. -/
def MappedToPerformance (t : Tree) (pref : String) : Prop :=
  ¬EppPassed t pref ∧ FirstNearest (eppDistance pref) (availableEpp t) "performance"

theorem resolveEpp_performance_iff {t : Tree} {pref : String} (h : pref ≠ "performance") :
    resolveEpp t pref = some "performance" ↔ MappedToPerformance t pref := by
  rw [resolveEpp_eq_some_iff]
  exact or_iff_right fun hpassed => h hpassed.2.symm

/-- **When the performance governor is chosen.** -/
theorem performance_chosen_iff {t : Tree} {pref : String} (hpref : pref ≠ "performance")
    (hlist : ∃ g ∈ ["powersave", "schedutil", "ondemand"], g ∈ availableGovernors t) :
    (∃ tok, resolveEpp t pref = some tok ∧
      resolveGovernor t (requestedGovernor tok) = some "performance") ↔
    "performance" ∈ availableGovernors t ∧ ¬EppRefused t pref ∧
      ("powersave" ∈ availableGovernors t → MappedToPerformance t pref) := by
  have hgov (tok : String) : resolveGovernor t (requestedGovernor tok) = some "performance" ↔
      "performance" ∈ availableGovernors t ∧
        (tok = "performance" ∨ "powersave" ∉ availableGovernors t) := by
    rw [resolveGovernor_performance_iff hlist (requestedGovernor_cases tok),
      requestedGovernor_eq_performance]
  have hrefused : EppRefused t pref ↔ resolveEpp t pref = none := resolveEpp_eq_none_iff.symm
  rw [hrefused, ← resolveEpp_performance_iff hpref]
  constructor
  · intro h
    obtain ⟨tok, htok, hchosen⟩ := h
    obtain ⟨hoffered, hcase⟩ := (hgov tok).mp hchosen
    refine ⟨hoffered, by simp [htok], fun hsave => ?_⟩
    rcases hcase with rfl | hnosave
    · exact htok
    · exact absurd hsave hnosave
  · intro h
    obtain ⟨hoffered, hresolved, hmapped⟩ := h
    obtain ⟨tok, htok⟩ := Option.ne_none_iff_exists'.mp hresolved
    refine ⟨tok, htok, (hgov tok).mpr ⟨hoffered, ?_⟩⟩
    by_cases hsave : "powersave" ∈ availableGovernors t
    · exact .inl (Option.some.inj (htok.symm.trans (hmapped hsave)))
    · exact .inr hsave

/-- **When the performance governor is left alone.**  Let a governor other than performance be
offered and the request be another one.  No CPU gets the performance governor if and only if there
is no governor node, the governor is not offered, the request is refused, or `powersave` is offered
and the request is not mapped onto the performance preference. -/
theorem spares_performance_iff (cpu : LinuxCpuGovernor) (t : Tree) (pref : String)
    (hpref : pref ≠ "performance")
    (hlist : ∃ g ∈ ["powersave", "schedutil", "ondemand"], g ∈ availableGovernors t) :
    (∀ w ∈ (cpu.setEnergyPerformancePreference (.start t) pref).log,
      ∀ id, w.path = cpufreqNode id "scaling_governor" → w.value ≠ "performance") ↔
    (∀ id ∈ cpu.cpuIds, t.pathExists (cpufreqNode id "scaling_governor") = false) ∨
      "performance" ∉ availableGovernors t ∨ EppRefused t pref ∨
      ("powersave" ∈ availableGovernors t ∧ ¬MappedToPerformance t pref) := by
  calc (∀ w ∈ (cpu.setEnergyPerformancePreference (.start t) pref).log,
        ∀ id, w.path = cpufreqNode id "scaling_governor" → w.value ≠ "performance")
    _ ↔ ¬∃ w ∈ (cpu.setEnergyPerformancePreference (.start t) pref).log,
        ∃ id, w.path = cpufreqNode id "scaling_governor" ∧ w.value = "performance" := by
      push Not
      rfl
    _ ↔ ¬((∃ id ∈ cpu.cpuIds, t.pathExists (cpufreqNode id "scaling_governor") = true) ∧
        "performance" ∈ availableGovernors t ∧ ¬EppRefused t pref ∧
        ("powersave" ∈ availableGovernors t → MappedToPerformance t pref)) := by
      rw [governor_written_iff, performance_chosen_iff hpref hlist]
    _ ↔ _ := by
      simp only [not_and_or, not_not, Classical.not_imp, not_exists, Bool.not_eq_true,
        ← imp_iff_not_or]

/-- One CPU whose driver offers `performance` and `schedutil`. -/
def schedutilCpu : Tree :=
  .ofFiles [
    (cpufreqNode 0 "scaling_governor", "schedutil\n"),
    (cpufreqNode 0 "scaling_available_governors", "performance schedutil\n")]

/-- Where `powersave` is offered besides, the request is harmless. -/
theorem spares_performance_iff_powersave :
    let t : Tree := .ofFiles [
      (cpufreqNode 0 "scaling_governor", "powersave\n"),
      (cpufreqNode 0 "scaling_available_governors", "performance powersave\n")]
    ∀ w ∈ ((LinuxCpuGovernor.withRoot t 1 (by decide)).setEnergyPerformancePreference
        (.start t) "power").log,
      ∀ id, w.path = cpufreqNode id "scaling_governor" → w.value ≠ "performance" := by
  intro t
  have hsave : "powersave" ∈ availableGovernors t := by decide +kernel
  have hnone : availableEpp t = [] := by decide +kernel
  refine (spares_performance_iff _ t "power" (by decide) ⟨"powersave", by decide, hsave⟩).mpr ?_
  exact .inr (.inr (.inr ⟨hsave, fun h => h.1 (.inl hnone)⟩))

/-- **Power selects performance.**  `schedutil` is offered, yet a request for `power` puts the only
CPU on the performance governor. -/
theorem power_selects_performance : ¬∀ (cpu : LinuxCpuGovernor) (t : Tree) (pref : String),
    pref ≠ "performance" →
    (∃ g ∈ ["powersave", "schedutil", "ondemand"], g ∈ availableGovernors t) →
    ∀ w ∈ (cpu.setEnergyPerformancePreference (.start t) pref).log,
      ∀ id, w.path = cpufreqNode id "scaling_governor" → w.value ≠ "performance" := by
  intro h
  have hwritten : (cpufreqNode 0 "scaling_governor", "performance") ∈
      ((LinuxCpuGovernor.withRoot schedutilCpu 1 (by decide)).setEnergyPerformancePreference
        (.start schedutilCpu) "power").log.map fun w => (w.path, w.value) := by
    decide +kernel
  obtain ⟨w, hw, heq⟩ := List.mem_map.mp hwritten
  obtain ⟨hpath, hvalue⟩ := Prod.mk.inj heq
  exact h _ schedutilCpu "power" (by decide) ⟨"schedutil", by decide, by decide +kernel⟩ w hw 0
    hpath hvalue

end WattWarden
