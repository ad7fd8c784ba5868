import WattWarden.FrontEnds.Computer
import WattWarden.Results.Ceilings
import WattWarden.Results.OneDaemon

/-!
# What the whole program may do to the hardware

Daemons, dashboards and command lines in any number and any order.  Each of them discovered the
hardware at a moment of its own, but nobody writes what describes it, so every range is the one it
was at the start, and no limit is ever set above it.

* `SystemWrite t` — every write any of them makes, on a machine that `t` describes;
* `operation_preserves` — **PROVED**: what an operation does is a charge limit, a profile or a
  brightness; `handle_extends`, `operation_extends`, … — **PROVED**: keys and operations make such
  writes;
* `ComputerInv` / `computerStep_inv` — **PROVED**: so does every event;
* `HardwareLimits` — what holds of a tree after such writes;
* `computer_limits` — **PROVED**: it holds after every run.
-/

namespace WattWarden

open Library.FileTree Library.Floats Library.Journaling Library.Numerals Library.Runs Threshold

/-- Every write of the program, whichever hardware a process has discovered, and of the machine. -/
inductive SystemWrite (t : Tree) (w : Write Actor) : Prop
  | program {b : LinuxBackend} : ProfileWrite b t w → SystemWrite t w
  | threshold : ThresholdWrite t w → SystemWrite t w
  | purge : w.path = dropCaches → SystemWrite t w
  | outside : AmbientWrite t w → SystemWrite t w

section Writes

variable {t t' : Tree} {w : Write Actor}

theorem SystemWrite.powerWrite (h : SystemWrite t w) (hhard : IsHardware w.path) :
    ∃ b, PowerWrite b t w := by
  cases h with
  | program h => exact ⟨_, .program h⟩
  | threshold h => exact absurd hhard (thresholdWrite_not_isHardware h)
  | purge h =>
    rw [h] at hhard
    exact absurd hhard (by decide)
  | outside h => exact absurd hhard h.not_isHardware

theorem SystemWrite.not_isRange (h : SystemWrite t w) : ¬IsRange w.path := by
  intro hrange
  obtain ⟨b, hwrite⟩ := h.powerWrite hrange.isHardware
  exact hwrite.not_isRange hrange

theorem SystemWrite.keepsSupplies : KeepsSupplies t (SystemWrite t) := by
  intro w h hsupply
  cases h with
  | program h => exact absurd hsupply h.not_supply
  | threshold h => exact h.pathExists
  | purge h =>
    rw [h] at hsupply
    exact absurd hsupply (by decide)
  | outside h => exact h.exists_of_supply hsupply

/-- What is written inside ranges that were discovered later is written inside those of `t`. -/
theorem ProfileWrite.congr (hsame : SameRanges t t') {b : LinuxBackend} (h : ProfileWrite b t' w) :
    ProfileWrite b t w := by
  cases h with
  | hardware h =>
    apply ProfileWrite.hardware
    cases h with
    | cpu h =>
      apply HardwareWrite.cpu
      cases h with
      | online hid => exact .online hid
      | scalingMin hid hbounds =>
        exact .scalingMin hid (by rwa [discoveredFreqBounds_congr b.cpu hsame] at hbounds)
      | scalingMax hid hbounds hlo hhi =>
        exact .scalingMax hid (by rwa [discoveredFreqBounds_congr b.cpu hsame] at hbounds) hlo hhi
      | noTurbo => exact .noTurbo
      | boost => exact .boost
      | epp hid => exact .epp hid
      | governor hid => exact .governor hid
    | rapl hrapl h =>
      apply HardwareWrite.rapl hrapl
      cases h with
      | limit hzone hbounds hlo hhi =>
        exact .limit hzone (by rwa [constraintBoundsWattsIn_congr hsame] at hbounds) hlo hhi
    | gpu hgpu h =>
      apply HardwareWrite.gpu hgpu
      cases h with
      | gtMin hbounds => exact .gtMin (by rwa [discoveredGpuBounds_congr _ hsame] at hbounds)
      | gtMax hbounds hlo hhi =>
        exact .gtMax (by rwa [discoveredGpuBounds_congr _ hsame] at hbounds) hlo hhi
  | peripheral h => exact .peripheral h
  | backlight h => exact .backlight h

theorem Threshold.ThresholdWrite.congr (hsame : SameSupplies t t') (h : ThresholdWrite t' w) :
    ThresholdWrite t w := by
  cases h with
  | node hnode hp =>
    rw [discover_congr hsame] at hnode
    exact .node hnode hp

/-- What a daemon's configuration asks for. -/
theorem AskedWrite.systemWrite (hranges : SameRanges t t') (hsupplies : SameSupplies t t')
    {b : LinuxBackend} {config : Config} (h : AskedWrite b t' config w) : SystemWrite t w := by
  cases h with
  | profile _ h => exact .program (h.congr hranges)
  | ladder _ h => exact .program (h.profileWrite.congr hranges)
  | brightness _ h => exact .program (b := b) (.backlight h)
  | threshold _ h => exact .threshold (h.congr hsupplies)

end Writes

/-! ### Operations as a whole -/

section Preserves

variable {P : SysfsRoot → Prop} {s : SysfsRoot}

theorem start_preserves (h : P s) (hset : ∀ n, P (setChargeThreshold s n).1)
    (file : Calibrate.StateFile) (outcome : Calibrate.SaveOutcome) :
    P (Calibrate.start linuxChargeThreshold s file outcome).device := by
  rcases Calibrate.start_device linuxChargeThreshold s file outcome with hdev | hdev
  · rw [hdev]
    exact h
  · rw [hdev]
    exact hset 100

theorem finish_preserves (h : P s) (hset : ∀ n, P (setChargeThreshold s n).1)
    (file : Calibrate.StateFile) :
    P (Calibrate.finish linuxChargeThreshold s file).device := by
  rcases Calibrate.finish_device linuxChargeThreshold s file with hdev | ⟨threshold, hdev, -⟩
  · rw [hdev]
    exact h
  · rw [hdev]
    exact hset threshold

/-- **What an operation of the runtime preserves**: what a charge limit, a profile and a brightness
do. -/
theorem operation_preserves {w : World} {o : Circumstances} (h : P w.sysfs) (r : CliRequest)
    (hdaemon : ∀ w, (o.daemonRuns w).2 = w) (hdashboard : ∀ w, (o.dashboardRuns w).2 = w)
    (hset : ∀ n, P (setChargeThreshold w.sysfs n).1)
    (hprofile : ∀ profile,
      P ((LinuxBackend.withRoot o.host w.sysfs.tree).applyProfile w.sysfs profile))
    (hpanel : ∀ percent,
      P (LinuxBacklight.setBrightnessPercent o.host.brightnessctl w.sysfs percent)) :
    P (RealRuntime.operation o (fun w => (none, w)) r w).2.sysfs := by
  cases r with
  | runDaemon =>
    show P (o.daemonRuns w).2.sysfs
    rw [hdaemon]
    exact h
  | launchDashboard =>
    show P (o.dashboardRuns w).2.sysfs
    rw [hdashboard]
    exact h
  | setChargeLimit limit =>
    show P (RealRuntime.setChargeLimit o w limit).2.sysfs
    rw [RealRuntime.setChargeLimit, RealRuntime.saveSetting]
    split
    · rename_i e w' hsave
      have hsame : w'.sysfs = w.sysfs := congrArg (fun x => x.2.sysfs) hsave.symm
      show P w'.sysfs
      rw [hsame]
      exact h
    · rename_i w' hsave
      have hsame : w'.sysfs = w.sysfs := congrArg (fun x => x.2.sysfs) hsave.symm
      rw [← hsame] at h hset
      cases limit with
      | none => exact h
      | some n =>
        dsimp only
        split
        · exact h
        · exact hset n
  | calibrateStart => exact start_preserves h hset w.state o.saved
  | calibrateStatus =>
    show P (Calibrate.status _ w.sysfs w.state o.saved).device
    rw [Calibrate.status_device]
    exact h
  | calibrateFinish => exact finish_preserves h hset w.state
  | setProfile profile => exact hprofile _
  | setBrightnessPercent percent =>
    show P (RealRuntime.setBrightnessPercent o w percent).2.sysfs
    rw [RealRuntime.setBrightnessPercent]
    split
    · exact h
    · exact hpanel _
  | _ => exact h

end Preserves

/-! ### Keys and operations -/

section Keys

variable {t : Tree} {s : SysfsRoot} (h : Extends (SystemWrite t) (.start t) s)

include h

theorem sameSupplies_of_system : SameSupplies t s.tree := by
  have hkeep : KeepsSupplies (Journal.start t : SysfsRoot).tree (SystemWrite t) :=
    SystemWrite.keepsSupplies
  exact sameSupplies_of_extends hkeep h

theorem setChargeThreshold_system (threshold : ℕ) :
    Extends (SystemWrite t) (.start t) (setChargeThreshold s threshold).1 :=
  setChargeThreshold_extends (fun _ hw => .threshold hw) (sameSupplies_of_system h) h threshold

theorem applyProfile_system (b : LinuxBackend) (profile : PowerProfile) :
    Extends (SystemWrite t) (.start t) (b.applyProfile s profile) :=
  applyProfile_extends (fun _ hw => hw.not_isRange) (fun _ hw => .program hw) h profile

theorem setBrightnessPercent_system (tool : Brightnessctl) (percent : ℕ) :
    Extends (SystemWrite t) (.start t) (LinuxBacklight.setBrightnessPercent tool s percent) :=
  setBrightnessPercent_extends (fun _ hw => .program (b := .withRoot .plain t) (.backlight hw)) h
    tool percent

theorem handle_extends (b : LinuxBackend) (tools : RadioTools) (direction : Direction)
    (row : HardwareRow) :
    Extends (SystemWrite t) (.start t) (App.handle b tools direction s row).1 := by
  have hfix : ∀ w, SystemWrite t w → ¬IsRange w.path := fun w hw => hw.not_isRange
  have hhard : ∀ w, HardwareWrite b t w → SystemWrite t w := fun w hw => .program (.hardware hw)
  have hcpu : ∀ w, CpuWrite b.cpu t w → SystemWrite t w := fun w hw => hhard w (.cpu hw)
  have htweak : ∀ w, TweakWrite w → SystemWrite t w := fun w hw =>
    .program (b := b) (.peripheral (.tweak hw))
  have hrapl : ∀ label constraint (set : LinuxRapl → ℕ → SysfsRoot),
      (∀ rapl, b.rapl = some rapl → ∀ watts, Extends (SystemWrite t) (.start t) (set rapl watts)) →
      Extends (SystemWrite t) (.start t) (App.handleRapl b direction s label constraint set).1 := by
    intro label constraint set hset
    rw [App.handleRapl]
    split
    · exact h
    · rename_i rapl hrapl
      exact hset rapl hrapl _
  cases row with
  | cores => exact setOnlineCores_extends hcpu hfix h _
  | freqLimit => exact setFreqLimit_extends hcpu hfix h _
  | gpuFreq =>
    rw [App.handle]
    split
    · exact h
    · rename_i gpu hgpu
      exact setGpuFreq_extends (fun w hw => hhard w (.gpu hgpu hw)) hfix h _
  | raplPl1 =>
    exact hrapl _ _ _ fun rapl hsome watts =>
      setPl1Watts_extends (fun w hw => hhard w (.rapl hsome hw)) hfix h watts
  | raplPl2 =>
    exact hrapl _ _ _ fun rapl hsome watts =>
      setPl2Watts_extends (fun w hw => hhard w (.rapl hsome hw)) hfix h watts
  | turbo => exact setTurboEnabled_extends hcpu h _
  | kbdBacklight =>
    exact setKbdBacklight_extends (fun w hw => .program (b := b) (.peripheral (.kbd hw))) h _
  | bluetooth => exact h
  | wifiEnable => exact h
  | wifiPowerSave => exact setWifiPowerSave_extends htweak h _
  | audioPowerSave => exact setAudioPowerSave_extends htweak h _
  | autosuspend => exact setAutosuspend_extends htweak h _
  | watchdog => exact setNmiWatchdog_extends htweak h _
  | vmWriteback => exact writeNode_extends (htweak _ .writeback) h

theorem handleBrightness_extends (b : LinuxBackend) (config : Config) (direction : Direction) :
    Extends (SystemWrite t) (.start t) (App.handleBrightness b config direction s).1 := by
  rw [App.handleBrightness]
  split
  · exact setBrightnessPercent_system h _ _
  · exact h

theorem processPurge_extends : Extends (SystemWrite t) (.start t) (Tweaks.processPurge s) :=
  writeNode_extends (.purge rfl) h

end Keys

/-- An operation of the runtime. -/
theorem operation_extends {t : Tree} {w : World} (h : Extends (SystemWrite t) (.start t) w.sysfs)
    (o : Circumstances) (hdaemon : ∀ w, (o.daemonRuns w).2 = w)
    (hdashboard : ∀ w, (o.dashboardRuns w).2 = w) (r : CliRequest) :
    Extends (SystemWrite t) (.start t)
      (RealRuntime.operation o (fun w => (none, w)) r w).2.sysfs := by
  apply operation_preserves (P := Extends (SystemWrite t) (.start t)) h r hdaemon hdashboard
  · exact setChargeThreshold_system h
  · exact fun profile => applyProfile_system h _ profile
  · exact fun percent => setBrightnessPercent_system h _ percent

/-! ### Every event -/

/-- On a machine that `t` describes. -/
structure ComputerInv (t : Tree) (c : Computer) : Prop where
  daemons : DaemonsInv c.daemons
  sysfs : Extends (SystemWrite t) (.start t) c.sysfs

section Computer

variable {F : Type} [FloatLike F] {host : Host} {t : Tree} {c : Computer}

theorem computerInv_start (t : Tree) (file : ConfigFile) (healthLog : String)
    (state : Calibrate.StateFile) : ComputerInv t (.start t file healthLog state) where
  daemons := daemonsInv_start _
  sysfs := Extends.refl _ _

theorem ComputerInv.putWorld (h : ComputerInv t c) {w : World}
    (hw : Extends (SystemWrite t) (.start t) w.sysfs) : ComputerInv t (c.putWorld w) where
  daemons := ⟨h.daemons.machine, h.daemons.alive, h.daemons.active_iff⟩
  sysfs := hw

theorem ComputerInv.onDashboard (h : ComputerInv t c) (id : ℕ) {f : LinuxBackend → SysfsRoot}
    (hf : ∀ b, Extends (SystemWrite t) (.start t) (f b)) : ComputerInv t (c.onDashboard id f) := by
  rw [Computer.onDashboard]
  split
  · rename_i backend _
    exact h.putWorld (hf backend)
  · exact h

theorem ComputerInv.calibrates (h : ComputerInv t c) (id : ℕ)
    {f : LinuxBackend → Calibrate.Outcome SysfsRoot}
    (hf : ∀ b, Extends (SystemWrite t) (.start t) (f b).device) :
    ComputerInv t (c.calibrates id f) := by
  rw [Computer.calibrates]
  split
  · rename_i backend _
    exact h.putWorld (hf backend)
  · exact h

/-- An event of the daemons: what the holder of the lock is asked to write. -/
theorem ComputerInv.daemons_extends (h : ComputerInv t c) (e : DaemonsEvent) (hown : e.Own) :
    Extends (SystemWrite t) (.start t) (daemonsStep F host c.daemons e).site.sysfs := by
  have hsite : (daemonsStep F host c.daemons e).site = c.daemons.site ∨
      (∃ site, e = .outside site) ∨
      ∃ pid r, Written c.daemons pid r (daemonsStep F host c.daemons e).site :=
    daemonsStep_site h.daemons e
  rcases hsite with hsame | ⟨site, rfl⟩ | ⟨pid, r, hwritten⟩
  · rw [hsame]
    exact h.sysfs
  · cases hown
  · have hranges : SameRanges t c.sysfs.tree :=
      sameRanges_of_extends (fun w hw => hw.not_isRange) h.sysfs
    have hsupplies : SameSupplies t c.sysfs.tree := sameSupplies_of_system h.sysfs
    exact h.sysfs.trans (hwritten.sysfs.mono fun w hw => hw.systemWrite hranges hsupplies)

/-- **One event.** -/
theorem computerStep_inv (F : Type) [FloatLike F] (host : Host) (e : ComputerEvent)
    (h : ComputerInv t c) : ComputerInv t (computerStep F host c e) := by
  cases e with
  | daemons e hown => exact ⟨daemonsStep_inv F host e h.daemons, h.daemons_extends e hown⟩
  | operates o r =>
    exact h.putWorld (operation_extends (w := c.world) h.sysfs _ (fun _ => rfl) (fun _ => rfl) r)
  | opens id => exact ⟨h.daemons, h.sysfs⟩
  | closes id => exact ⟨h.daemons, h.sysfs⟩
  | adjusts id tools direction row =>
    exact h.onDashboard id fun b => handle_extends h.sysfs b tools direction row
  | brightens id config direction =>
    exact h.onDashboard id fun b => handleBrightness_extends h.sysfs b config direction
  | applies id profile => exact h.onDashboard id fun b => applyProfile_system h.sysfs b profile
  | limits id limit =>
    apply h.onDashboard id
    intro b
    split
    · exact setChargeThreshold_system h.sysfs limit
    · exact h.sysfs
  | calibrates id outcome =>
    apply h.calibrates id
    intro b
    split
    · rw [Calibrate.status_device]
      exact h.sysfs
    · exact start_preserves h.sysfs (setChargeThreshold_system h.sysfs) c.state outcome
  | finishes id =>
    exact h.calibrates id fun _ =>
      finish_preserves h.sysfs (setChargeThreshold_system h.sysfs) c.state
  | purges id => exact h.onDashboard id fun _ => processPurge_extends h.sysfs
  | saves file => exact h.putWorld h.sysfs
  | ambient changes =>
    apply h.putWorld
    have hkeep : KeepsSupplies (Journal.start t : SysfsRoot).tree (SystemWrite t) :=
      SystemWrite.keepsSupplies
    exact ambient_extends (fun w hw => .outside hw) hkeep h.sysfs changes

end Computer

/-! ### What the writes keep -/

/-- What holds of every tree reached from `t`: the hardware is described as on `t`, nothing is
written but what some process may write there, no CPU limit written is above what some CPU declares
on `t`, not necessarily the one it was written to, and no GPU or package limit above what its own
card or slot declares. -/
structure HardwareLimits (t : Tree) (s : SysfsRoot) : Prop where
  descriptions : ∀ p, IsRange p → s.tree.content p = t.content p
  writes : ∀ w ∈ s.log, SystemWrite t w
  scalingMax : ∀ w ∈ s.log, subsystem w.path = .cpu → leaf w.path = "scaling_max_freq" →
    ∃ khz id least most, w.value = decimal khz ∧ cpuinfoPair t id = some (least, most) ∧
      (khz : ℤ) ≤ most
  gtMax : ∀ w ∈ s.log, subsystem w.path = .drm → leaf w.path = "gt_max_freq_mhz" →
    ∃ gpu mhz rp0, w.path = LinuxGpu.node gpu "gt_max_freq_mhz" ∧ w.value = decimal mhz ∧
      gpu.cardRead t "gt_RP0_freq_mhz" = some rp0 ∧ mhz ≤ rp0
  powerLimit : ∀ w ∈ s.log, ∀ zone i, w.path = constraintNode zone i "_power_limit_uw" →
    ∃ uw maxUw, w.value = decimal uw ∧
      SysfsRoot.readU64 t (constraintNode zone i "_max_power_uw") = some maxUw ∧ uw ≤ maxUw

/-- The writes of the program respect the limits. -/
theorem hardwareLimits_of_extends {t : Tree} {s : SysfsRoot}
    (h : Extends (SystemWrite t) (.start t) s) : HardwareLimits t s := by
  have hlog : ∀ w ∈ s.log, SystemWrite t w := h.forall_log
  constructor
  · exact sameRanges_of_extends (fun w hw => hw.not_isRange) h
  · exact hlog
  · intro w hw hsub hleaf
    obtain ⟨b, hwrite⟩ := (hlog w hw).powerWrite (by simp [IsHardware, hsub])
    obtain ⟨lo, hi, mhz, hbounds, hle, hvalue⟩ := (hwrite.cpuWrite hsub).scalingMax_inv hleaf
    obtain ⟨khz, ⟨id, -, least, hpair⟩, hkhz⟩ := discovered_max_le b.cpu hbounds
    exact ⟨mhz * 1000, id, least, khz, hvalue, hpair, by push_cast at hkhz ⊢; omega⟩
  · intro w hw hsub hleaf
    obtain ⟨b, hwrite⟩ := (hlog w hw).powerWrite (by simp [IsHardware, hsub])
    obtain ⟨gpu, -, hgpu⟩ := hwrite.gpuWrite hsub
    obtain ⟨lo, hi, mhz, hbounds, hle, hvalue, hpath⟩ := hgpu.gtMax_inv hleaf
    exact ⟨gpu, mhz, hi, hpath, hvalue, (gpu_bounds_spec hbounds).2.1, hle⟩
  · intro w hw zone i hpath
    have hsub : subsystem w.path = .powercap := by
      rw [hpath]
      rfl
    obtain ⟨b, hwrite⟩ := (hlog w hw).powerWrite (by simp [IsHardware, hsub])
    obtain ⟨rapl, -, hrapl⟩ := hwrite.raplWrite hsub
    obtain ⟨lo, hi, watts, hbounds, hle, hvalue⟩ := hrapl.limit_inv hpath
    obtain ⟨maxUw, hmax, hhi⟩ := slot_max_le hbounds
    exact ⟨watts * 1000000, maxUw, hvalue, hmax, (Nat.mul_le_mul_right _ hle).trans hhi⟩

/-- **The hardware's own limits.**  Whatever any number of daemons, dashboards and command lines do
on one machine, in any order, killed or not, with any configurations saved and with the load and the
power supplies changing meanwhile: the hardware is described as at the start, and no CPU limit above
what some CPU declares, and no GPU or package limit above what its own card or slot declares, was
ever written. -/
theorem computer_limits (F : Type) [FloatLike F] (host : Host) (t : Tree) (file : ConfigFile)
    (healthLog : String) (state : Calibrate.StateFile) (events : List ComputerEvent) :
    HardwareLimits t (run (computerStep F host) (.start t file healthLog state) events).sysfs := by
  have hinv := run_inv (ComputerInv t) (computerInv_start t file healthLog state)
    (fun c e h => computerStep_inv F host e h) events
  exact hardwareLimits_of_extends hinv.sysfs

end WattWarden
