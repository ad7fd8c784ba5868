import WattWarden.Results.RowNodes

/-!
# The rows of the dashboard do not interfere

Left and right on the hardware rows in any order.

* `Sees t row s₁ s₂` — two trees look alike to a row;
* `adjust_sees`, `adjust_unseen` — **PROVED**: an adjustment that concerns the row treats both
  alike, and another one is out of view;
* `rows_independent` — **PROVED**: what a row shows and announces depends on its own adjustments.
-/

namespace WattWarden

open Library.FileTree Library.Journaling Library.Runs Library.Views

/-! ### What a row depends on -/

/-- The two trees look alike to a row of a machine that `t` describes. -/
structure Sees (t : Tree) (row : HardwareRow) (s₁ s₂ : SysfsRoot) : Prop where
  agree : Agree (View t row) s₁.tree s₂.tree
  ranges : SameRanges t s₁.tree

section Rows

variable {t : Tree} {row : HardwareRow} {s₁ s₂ : SysfsRoot} {b : LinuxBackend}

theorem view_ranges (p : Path) (hp : IsRange p) : View t row p := view_of_isRange hp

theorem view_cpufreqDir (id : ℕ) : View t .freqLimit (cpufreqDir id) :=
  view_of_cpu rfl (by rw [cpufreqDir, leaf_append]; decide)

theorem view_maxFreq : View t .freqLimit (cpufreqNode 0 "scaling_max_freq") :=
  view_of_cpu rfl (by rw [cpufreqNode, leaf_append]; decide)

theorem view_gpuNode (gpu : LinuxGpu) (name : String) : View t .gpuFreq (gpu.node name) :=
  view_of_own (by decide) (subsystem_gpuNode gpu name)

/-- What is left of a powercap zone. -/
theorem view_package {row other : HardwareRow}
    (hrow : row = .raplPl1 ∧ other = .raplPl2 ∨ row = .raplPl2 ∧ other = .raplPl1)
    (zone : String) : View t row (zonePath zone ++ ["min_power_range_uw"]) ∧
      View t row (zonePath zone ++ ["max_power_range_uw"]) := by
  have hnode : ∀ name, ending name ≠ ending "_power_limit_uw" →
      View t row (zonePath zone ++ [name]) := by
    intro name hname
    have hlimit : ∀ constraint, ¬IsLimitOf t constraint (zonePath zone ++ [name]) := by
      intro constraint hlimit
      obtain ⟨zone', i, -, hpath⟩ := hlimit
      have hleaf := congrArg leaf hpath
      rw [constraintNode, leaf_append, leaf_append] at hleaf
      apply hname
      rw [hleaf, ending_constraintLeaf i (by decide)]
    apply view_of_powercap rfl hrow
    rcases hrow with ⟨-, rfl⟩ | ⟨-, rfl⟩
    · exact hlimit shortTerm
    · exact hlimit longTerm
  exact ⟨hnode _ (by decide), hnode _ (by decide)⟩

theorem seesLimits_pl1 : SeesLimits t longTerm (View t .raplPl1) := fun _ _ hindex =>
  view_of_powercap rfl (.inl ⟨rfl, rfl⟩) (not_isLimitOf (by decide) hindex)

theorem seesLimits_pl2 : SeesLimits t shortTerm (View t .raplPl2) := fun _ _ hindex =>
  view_of_powercap rfl (.inr ⟨rfl, rfl⟩) (not_isLimitOf (by decide) hindex)

/-- The limits a tree has are those of the machine. -/
theorem SeesLimits.of_ranges {S : Path → Prop} {name : String} {t' : Tree}
    (h : SeesLimits t name S) (hsame : SameRanges t t') : SeesLimits t' name S := by
  intro zone i hindex
  rw [constraintIndexIn_congr hsame] at hindex
  exact h zone i hindex

/-- **An adjustment of the row itself.** -/
theorem own_alike (h : Sees t row s₁ s₂) (tools : RadioTools) (direction : Direction) :
    Agree (View t row) (adjustRow b s₁ ⟨tools, direction, row⟩).tree
      (adjustRow b s₂ ⟨tools, direction, row⟩).tree ∧
    adjustToast b s₁ ⟨tools, direction, row⟩ = adjustToast b s₂ ⟨tools, direction, row⟩ := by
  obtain ⟨hagree, hranges⟩ := h
  cases row with
  | cores =>
    have hcur := onlineCores_agree hagree view_online b.cpu
    simp only [adjustRow, adjustToast, App.handle, hcur, and_true]
    have honline := writeOnline_agree hagree b.cpu
    have hout : ∀ s : SysfsRoot, ∀ w : Write Actor, Target b.cpu s.tree w.path →
        ¬View t .cores w.path := by
      intro s w hw hview
      apply hview .freqLimit (by decide)
      refine ⟨?_, hw.leaf_mem⟩
      obtain ⟨id, -, -, hpath | hpath⟩ := hw <;> rw [hpath] <;> rfl
    exact ((honline _).left (setOnlineCores_targets b.cpu s₁ _) (hout _)).right
      (setOnlineCores_targets b.cpu s₂ _) (hout _)
  | freqLimit =>
    have hcur := freqLimit_agree hagree view_maxFreq
    have hbounds : b.cpu.freqBounds s₁.tree = b.cpu.freqBounds s₂.tree := by
      rw [LinuxCpuGovernor.freqBounds, LinuxCpuGovernor.freqBounds,
        discoveredFreqBounds_congr b.cpu (sameRanges_of_agree view_ranges hagree)]
    simp only [adjustRow, adjustToast, App.handle, hcur, hbounds, and_true]
    exact setFreqLimit_agree view_ranges view_cpufreqDir hagree b.cpu _
  | gpuFreq =>
    simp only [adjustRow, adjustToast, App.handle]
    split
    · exact ⟨hagree, rfl⟩
    · rename_i gpu hgpu
      have hread := cardRead_agree hagree gpu (view_gpuNode gpu)
      simp only [LinuxGpu.gpuBounds, LinuxGpu.gpuFreq, hread, and_true]
      exact setGpuFreq_agree hagree gpu (view_gpuNode gpu) _
  | raplPl1 =>
    simp only [adjustRow, adjustToast, App.handle, App.handleRapl]
    split
    · exact ⟨hagree, rfl⟩
    · rename_i rapl hrapl
      have hbounds := bounds_agree view_ranges rapl (view_package (.inl ⟨rfl, rfl⟩)) hagree
      have hcur := getLimit_agree view_ranges rapl hagree (seesLimits_pl1.of_ranges hranges)
      simp only [hbounds, hcur, and_true]
      exact writeConstraint_agree view_ranges seesLimits_pl1 hranges hagree rapl _
  | raplPl2 =>
    simp only [adjustRow, adjustToast, App.handle, App.handleRapl]
    split
    · exact ⟨hagree, rfl⟩
    · rename_i rapl hrapl
      have hbounds := bounds_agree view_ranges rapl (view_package (.inr ⟨rfl, rfl⟩)) hagree
      have hcur := getLimit_agree view_ranges rapl hagree (seesLimits_pl2.of_ranges hranges)
      simp only [hbounds, hcur, and_true]
      exact writeConstraint_agree view_ranges seesLimits_pl2 hranges hagree rapl _
  | turbo =>
    have hcur := turboEnabled_agree hagree fun p hp => view_turbo hp
    simp only [adjustRow, adjustToast, App.handle, App.toggled, hcur, and_true]
    exact setTurboEnabled_agree hagree (fun p hp => view_turbo hp) _
  | kbdBacklight =>
    have hleds : ∀ p, subsystem p = .leds → View t .kbdBacklight p := fun p hp =>
      view_of_own (by decide) hp
    have hcur := kbdBacklight_agree hagree hleds
    simp only [adjustRow, adjustToast, App.handle, App.toggled, hcur, and_true]
    exact setKbdBacklight_agree hagree hleds _
  | bluetooth => exact ⟨hagree, rfl⟩
  | wifiEnable => exact ⟨hagree, rfl⟩
  | wifiPowerSave =>
    have hcur := wifiPowerSave_agree hagree view_wifi tools.iwPowerSave
    simp only [adjustRow, adjustToast, App.handle, App.toggled, hcur, and_true]
    exact writeNode_agree view_wifi hagree _
  | audioPowerSave =>
    have hnode : View t .audioPowerSave sndHdaPowerSave := view_audio (.inl rfl)
    have hcur := audioPowerSave_agree hagree hnode
    simp only [adjustRow, adjustToast, App.handle, App.toggled, hcur, and_true]
    exact writeNode_agree (view_audio (.inr rfl)) (writeNode_agree hnode hagree _) _
  | autosuspend =>
    have hbus : ∀ p, subsystem p = .bus → View t .autosuspend p := fun p hp =>
      view_of_own (by decide) hp
    have hcur := autosuspend_agree hagree hbus
    simp only [adjustRow, adjustToast, App.handle, App.toggled, hcur, and_true]
    exact setAutosuspend_agree hagree hbus _
  | watchdog =>
    have hcur := nmiWatchdog_agree hagree view_watchdog
    simp only [adjustRow, adjustToast, App.handle, App.toggled, hcur, and_true]
    exact writeNode_agree view_watchdog hagree _
  | vmWriteback =>
    have hset := writeNode_agree view_vmWriteback hagree
    simp only [adjustRow, adjustToast, App.handle, vmWriteback_agree hagree view_vmWriteback]
    refine ⟨hset _, ?_⟩
    rw [Tweaks.setVmWritebackCentisecs, Tweaks.setVmWritebackCentisecs,
      vmWriteback_agree (hset _) view_vmWriteback]

/-- The frequency limit and the cores, which it depends on. -/
theorem cores_alike (h : Sees t .freqLimit s₁ s₂) (tools : RadioTools) (direction : Direction) :
    Agree (View t .freqLimit) (adjustRow b s₁ ⟨tools, direction, .cores⟩).tree
      (adjustRow b s₂ ⟨tools, direction, .cores⟩).tree ∧
    adjustToast b s₁ ⟨tools, direction, .cores⟩ = adjustToast b s₂ ⟨tools, direction, .cores⟩ := by
  have honline : ∀ id, View t .freqLimit (onlineNode id) := fun id =>
    view_of_cpu rfl (by rw [onlineNode, leaf_append]; decide)
  have hcur := onlineCores_agree h.agree honline b.cpu
  simp only [adjustRow, adjustToast, App.handle, hcur, and_true]
  exact setOnlineCores_agree view_ranges view_cpufreqDir view_maxFreq h.agree b.cpu _

theorem sameRanges_adjust (h : SameRanges t s₁.tree) (a : Adjustment) :
    SameRanges t (adjustRow b s₁ a).tree := by
  intro p hp
  have hfix : ∀ w : Write Actor, Writes t w.path a.row → ¬IsRange w.path :=
    fun _ hw => hw.not_isRange
  rw [sameRanges_of_extends hfix (adjust_writes h b a) p hp]
  exact h p hp

/-- **An adjustment that concerns a row** treats two trees alike that look alike to it. -/
theorem adjust_sees (h : Sees t row s₁ s₂) (a : Adjustment) (ha : row.concerns a.row = true) :
    Sees t row (adjustRow b s₁ a) (adjustRow b s₂ a) ∧ adjustToast b s₁ a = adjustToast b s₂ a := by
  have halike : Agree (View t row) (adjustRow b s₁ a).tree (adjustRow b s₂ a).tree ∧
      adjustToast b s₁ a = adjustToast b s₂ a := by
    obtain ⟨tools, direction, other⟩ := a
    rcases of_decide_eq_true ha with hown | ⟨hrow, hcores⟩
    · dsimp only at hown
      subst hown
      exact own_alike h tools direction
    · dsimp only at hcores
      subst hrow hcores
      exact cores_alike h tools direction
  exact ⟨⟨halike.1, sameRanges_adjust h.ranges a⟩, halike.2⟩

/-- **Another adjustment** is out of view. -/
theorem adjust_unseen (h : Sees t row s₁ s₂) (a : Adjustment) (ha : row.concerns a.row = false) :
    Sees t row (adjustRow b s₁ a) s₂ :=
  ⟨h.agree.left (adjust_writes h.ranges b a) fun _ hw hview => hview a.row ha hw,
    sameRanges_adjust h.ranges a⟩

end Rows

/-- What a row shows. -/
def shownRow (sources : RowSources) (s : SysfsRoot) (row : HardwareRow) : RowInfo :=
  rowInfo { sources with tree := s.tree } row.item

/-- What a row shows is in its view. -/
theorem shown_alike {t : Tree} {row : HardwareRow} {s₁ s₂ : SysfsRoot} (h : Sees t row s₁ s₂)
    (sources : RowSources) : shownRow sources s₁ row = shownRow sources s₂ row := by
  obtain ⟨hagree, hranges⟩ := h
  cases row with
  | cores => simp only [shownRow, HardwareRow.item, rowInfo, onlineCores_agree hagree view_online]
  | freqLimit =>
    simp only [shownRow, HardwareRow.item, rowInfo, freqLimit_agree hagree view_maxFreq]
  | gpuFreq =>
    have hread : ∀ gpu : LinuxGpu, gpu.gpuFreq s₁.tree = gpu.gpuFreq s₂.tree := by
      intro gpu
      rw [LinuxGpu.gpuFreq, LinuxGpu.gpuFreq, cardRead_agree hagree gpu (view_gpuNode gpu)]
    simp only [shownRow, HardwareRow.item, rowInfo, hread]
  | raplPl1 =>
    have hread : ∀ rapl : LinuxRapl,
        rapl.getLimit s₁.tree longTerm = rapl.getLimit s₂.tree longTerm :=
      fun rapl => getLimit_agree view_ranges rapl hagree (seesLimits_pl1.of_ranges hranges)
    simp only [shownRow, HardwareRow.item, rowInfo, hread]
  | raplPl2 =>
    have hread : ∀ rapl : LinuxRapl,
        rapl.getLimit s₁.tree shortTerm = rapl.getLimit s₂.tree shortTerm :=
      fun rapl => getLimit_agree view_ranges rapl hagree (seesLimits_pl2.of_ranges hranges)
    simp only [shownRow, HardwareRow.item, rowInfo, hread]
  | turbo =>
    simp only [shownRow, HardwareRow.item, rowInfo,
      turboEnabled_agree hagree fun p hp => view_turbo hp]
  | kbdBacklight =>
    simp only [shownRow, HardwareRow.item, rowInfo,
      kbdBacklight_agree hagree fun p hp => view_of_own (by decide) hp]
  | bluetooth => rfl
  | wifiEnable => rfl
  | wifiPowerSave =>
    simp only [shownRow, HardwareRow.item, rowInfo, wifiPowerSave_agree hagree view_wifi]
  | audioPowerSave =>
    simp only [shownRow, HardwareRow.item, rowInfo,
      audioPowerSave_agree hagree (view_audio (.inl rfl))]
  | autosuspend =>
    simp only [shownRow, HardwareRow.item, rowInfo,
      autosuspend_agree hagree fun p hp => view_of_own (by decide) hp]
  | watchdog =>
    simp only [shownRow, HardwareRow.item, rowInfo, nmiWatchdog_agree hagree view_watchdog]
  | vmWriteback =>
    simp only [shownRow, HardwareRow.item, rowInfo, vmWriteback_agree hagree view_vmWriteback]

/-- **The rows do not interfere.**  After any sequence of left and right on the rows that pause the
daemon, a row shows what it would show after its own adjustments alone, and these announced the same
on the way; only the frequency limit also depends on the adjustments of the cores. -/
theorem rows_independent (b : LinuxBackend) (sources : RowSources) (s : SysfsRoot)
    (adjustments : List Adjustment) (row : HardwareRow) :
    let own := adjustments.filter fun a => row.concerns a.row
    shownRow sources (run (adjustRow b) s adjustments) row
      = shownRow sources (run (adjustRow b) s own) row ∧
    ((visits (adjustRow b) s adjustments).filter fun v => row.concerns v.2.row).map
        (fun v => adjustToast b v.1 v.2)
      = (visits (adjustRow b) s own).map fun v => adjustToast b v.1 v.2 := by
  intro own
  have hstart : Sees s.tree row s s := ⟨.refl _ _, .refl _⟩
  have hown : ∀ (s₁ s₂ : SysfsRoot) (a : Adjustment), row.concerns a.row = true →
      Sees s.tree row s₁ s₂ →
      Sees s.tree row (adjustRow b s₁ a) (adjustRow b s₂ a) ∧
        adjustToast b s₁ a = adjustToast b s₂ a :=
    fun s₁ s₂ a ha h => adjust_sees h a ha
  have hother : ∀ (s₁ s₂ : SysfsRoot) (a : Adjustment), row.concerns a.row = false →
      Sees s.tree row s₁ s₂ → Sees s.tree row (adjustRow b s₁ a) s₂ :=
    fun s₁ s₂ a ha h => adjust_unseen h a ha
  obtain ⟨hend, hout⟩ := run_purge hown hother adjustments hstart
  exact ⟨shown_alike hend sources, hout⟩

end WattWarden
