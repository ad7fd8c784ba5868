import WattWarden.Core.Calibrate
import WattWarden.Library.Runs
import WattWarden.Results.Enforcement

/-!
# Calibration against the daemon, and calibration as a round trip

Two results about the calibration commands.  The first interleaves them with enforcement ticks on
any threshold that stores what it accepts; the second runs one cycle, undisturbed, on any number
of batteries.

* `calibration_ceiling_lifted` — **PROVED**: the threshold reads 100 from a successful `start` to
  the next successful `finish`, in every run whose ticks during that time are under no limit or one
  of at least 100;
* `calibration_ceiling_lifted_iff` — **PROVED**: and only in those, on a device that accepts every
  request;
* `calibration_cut_short` — a limit of 80 lowers the threshold on the first tick after `start`;
* `linux_acceptsAll` — **PROVED**: the Linux backend on a machine with one battery is such a
  threshold;
* `cycle_restores_iff` — **PROVED**: a cycle gives every end threshold back if and only if they were
  all equal and at least 20.
-/

namespace WattWarden

open Library.FileTree Library.Journaling Library.Numerals Library.Runs Threshold Calibrate

/-! ### Commands and ticks, interleaved -/

section Interleaving

variable {σ : Type*}

inductive CalibrationEvent (σ : Type*) where
  | start (outcome : SaveOutcome)
  | status (battery : PowerSource σ) (outcome : SaveOutcome)
  | finish
  | tick (config : Config)

/-- The device, the state file, and whether a `start` returned `Ok` with no `finish` doing so
since. -/
structure CalibrationRun (σ : Type*) where
  device : σ
  file : StateFile
  calibrating : Bool

/-- One command or one enforcement tick. -/
def calibrationStep (threshold : ChargeThreshold σ) (r : CalibrationRun σ) :
    CalibrationEvent σ → CalibrationRun σ
  | .start outcome =>
      let o := Calibrate.start threshold r.device r.file outcome
      ⟨o.device, o.file, r.calibrating || o.result.isOk⟩
  | .status battery outcome =>
      let o := Calibrate.status battery r.device r.file outcome
      ⟨o.device, o.file, r.calibrating⟩
  | .finish =>
      let o := Calibrate.finish threshold r.device r.file
      ⟨o.device, o.file, r.calibrating && !o.result.isOk⟩
  | .tick config => { r with device := enforceChargeLimit threshold config r.device }

/-- While calibrating, the active threshold is 100. -/
def CeilingLifted (threshold : ChargeThreshold σ) (r : CalibrationRun σ) : Prop :=
  r.calibrating = true → threshold.chargeThreshold r.device = .ok 100

/-- A tick taken while calibrating is under no limit, or under one of at least 100. -/
def TickSpares (r : CalibrationRun σ) : CalibrationEvent σ → Prop
  | .tick config => r.calibrating = true → ∀ n, config.batteryChargeLimit = some n → 100 ≤ n
  | _ => True

variable {threshold : ChargeThreshold σ} {I : σ → Prop} {r : CalibrationRun σ}

/-- A request for at least 100 leaves a lifted ceiling lifted, accepted or not. -/
theorem request_keeps_lifted (hlaw : StoresAccepted threshold I) {device : σ} (hI : I device)
    {n : ℕ} (hn : 100 ≤ n) (h : threshold.chargeThreshold device = .ok 100) :
    threshold.chargeThreshold (threshold.setChargeThreshold device n).1 = .ok 100 := by
  cases hset : (threshold.setChargeThreshold device n).2 with
  | ok u =>
    obtain ⟨floor, hfloor, hread⟩ := hlaw.accepted device n hI hset
    rw [hread, clamp_eq_hi (by omega) hn]
  | error e => rw [hlaw.rejected device n e hI hset, h]

/-- One event makes at most one request to the device. -/
theorem calibrationStep_device (threshold : ChargeThreshold σ) (r : CalibrationRun σ)
    (e : CalibrationEvent σ) : (calibrationStep threshold r e).device = r.device ∨
    ∃ n, (calibrationStep threshold r e).device = (threshold.setChargeThreshold r.device n).1 := by
  cases e with
  | start outcome =>
    rcases start_device threshold r.device r.file outcome with h | h
    · exact .inl h
    · exact .inr ⟨100, h⟩
  | status battery outcome => exact .inl status_device
  | finish =>
    rcases finish_device threshold r.device r.file with h | ⟨t, h, -⟩
    · exact .inl h
    · exact .inr ⟨t, h⟩
  | tick config =>
    rcases enforceChargeLimit_cases threshold config r.device with h | ⟨limit, -, h⟩
    · exact .inl h
    · exact .inr ⟨limit, h⟩

/-- The states of the law are kept by every event. -/
theorem calibrationStep_kept (hlaw : StoresAccepted threshold I) (e : CalibrationEvent σ)
    (hI : I r.device) : I (calibrationStep threshold r e).device := by
  rcases calibrationStep_device threshold r e with h | ⟨n, h⟩
  · rw [h]
    exact hI
  · rw [h]
    exact hlaw.kept _ n hI

/-- A `start` that returned `Ok` left the ceiling lifted. -/
theorem start_lifts (hlaw : StoresAccepted threshold I) {device : σ} (hI : I device)
    {file : StateFile} {outcome : SaveOutcome} {msg : String}
    (h : (Calibrate.start threshold device file outcome).result = .ok msg) :
    threshold.chargeThreshold (Calibrate.start threshold device file outcome).device = .ok 100 := by
  obtain ⟨hset, hdevice, -⟩ := start_ok h
  obtain ⟨floor, hfloor, hread⟩ := hlaw.accepted device 100 hI hset
  rw [hdevice, hread, clamp_eq_hi (by omega) le_rfl]

/-- **One event.**  A spared event keeps the ceiling lifted while calibrating. -/
theorem calibrationStep_lifted (hlaw : StoresAccepted threshold I) (hI : I r.device)
    (h : CeilingLifted threshold r) {e : CalibrationEvent σ} (hok : TickSpares r e) :
    CeilingLifted threshold (calibrationStep threshold r e) := by
  intro hcal
  cases e with
  | start outcome =>
    cases hresult : (Calibrate.start threshold r.device r.file outcome).result with
    | ok msg => exact start_lifts hlaw hI hresult
    | error e =>
      -- a refused `start` is no step out of the calibration it found
      have hbefore : r.calibrating = true := by
        simpa [calibrationStep, hresult, Except.isOk, Except.toBool] using hcal
      show threshold.chargeThreshold (Calibrate.start threshold r.device r.file outcome).device = _
      rcases start_device threshold r.device r.file outcome with hdev | hdev <;> rw [hdev]
      · exact h hbefore
      · exact request_keeps_lifted hlaw hI le_rfl (h hbefore)
  | status battery outcome =>
    show threshold.chargeThreshold (Calibrate.status battery r.device r.file outcome).device = _
    rw [status_device]
    exact h hcal
  | finish =>
    have hboth : r.calibrating = true ∧
        (Calibrate.finish threshold r.device r.file).result.isOk = false := by
      simpa [calibrationStep] using hcal
    show threshold.chargeThreshold (Calibrate.finish threshold r.device r.file).device = _
    rcases finish_device threshold r.device r.file with hdev | ⟨t, hdev, herr⟩
    · rw [hdev]
      exact h hboth.1
    · obtain ⟨e, he⟩ := herr hboth.2
      rw [hdev, hlaw.rejected _ t e hI he]
      exact h hboth.1
  | tick config =>
    show threshold.chargeThreshold (enforceChargeLimit threshold config r.device) = _
    rcases enforceChargeLimit_cases threshold config r.device with hdev | ⟨limit, hlimit, hdev⟩
    · rw [hdev]
      exact h hcal
    · rw [hdev]
      exact request_keeps_lifted hlaw hI (hok hcal limit hlimit) (h hcal)

/-- **No calibration is cut short.**  In every run whose ticks taken while calibrating are under no
limit or one of at least 100, the threshold reads 100 in every state between a `start` that
returned `Ok` and the next `finish` that does. -/
theorem calibration_ceiling_lifted (hlaw : StoresAccepted threshold I)
    (hI : I r.device) (hidle : r.calibrating = false) (events : List (CalibrationEvent σ))
    (hok : StepsMeet TickSpares (calibrationStep threshold) r events) :
    Always (CeilingLifted threshold) (calibrationStep threshold) r events := by
  have hinit : I r.device ∧ CeilingLifted threshold r := ⟨hI, by simp [CeilingLifted, hidle]⟩
  apply always_of_inv (fun r => I r.device ∧ CeilingLifted threshold r) hinit
  · intro r e hr he
    exact ⟨calibrationStep_kept hlaw e hr.1, calibrationStep_lifted hlaw hr.1 hr.2 he⟩
  · exact fun r hr => hr.2
  · exact hok

/-- A device that supports a threshold and accepts every request, in the states `I`. -/
structure AcceptsAll (threshold : ChargeThreshold σ) (I : σ → Prop) : Prop
    extends StoresAccepted threshold I where
  supports : ∀ s, I s → threshold.supportsThreshold s = true
  accepts : ∀ s n, I s → (threshold.setChargeThreshold s n).2 = .ok ()

/-- A tick under a limit below 100 lowers a lifted ceiling. -/
theorem tick_lowers (hlaw : AcceptsAll threshold I) (hI : I r.device) {config : Config} {n : ℕ}
    (hlimit : config.batteryChargeLimit = some n) (hn : n < 100)
    (h : threshold.chargeThreshold r.device = .ok 100) :
    threshold.chargeThreshold (calibrationStep threshold r (.tick config)).device ≠ .ok 100 := by
  obtain ⟨floor, hfloor, hread⟩ := hlaw.accepted r.device n hI (hlaw.accepts r.device n hI)
  have hclamp : clamp floor 100 n < 100 := clamp_lt_hi (by omega) hn
  have hshown : (threshold.chargeThreshold r.device).toOption ≠ some n := by
    rw [h]
    exact fun heq => absurd (Option.some.inj heq) (by omega)
  have hset : enforceChargeLimit threshold config r.device
      = (threshold.setChargeThreshold r.device n).1 := by
    rw [enforceChargeLimit_eq, limitCall_eq_some.mpr ⟨hlimit, hlaw.supports r.device hI, hshown⟩]
    rfl
  show threshold.chargeThreshold (enforceChargeLimit threshold config r.device) ≠ _
  rw [hset, hread]
  intro heq
  have hvalue : clamp floor 100 n = 100 := Except.ok.inj heq
  omega

/-- On a device that accepts every request, the ceiling stays lifted in no other run. -/
theorem calibration_ceiling_lifted_iff (hlaw : AcceptsAll threshold I) (hI : I r.device)
    (hidle : r.calibrating = false) (events : List (CalibrationEvent σ)) :
    Always (CeilingLifted threshold) (calibrationStep threshold) r events ↔
      StepsMeet TickSpares (calibrationStep threshold) r events := by
  apply always_iff_stepsMeet (fun r => I r.device) hI
  · exact fun r e hr => calibrationStep_kept hlaw.toStoresAccepted e hr
  · simp [CeilingLifted, hidle]
  · intro r e hr hlifted
    constructor
    · intro hnext
      cases e with
      | tick config =>
        intro hcal n hlimit
        by_contra hn
        exact tick_lowers hlaw hr hlimit (not_le.mp hn) (hlifted hcal) (hnext hcal)
      | start outcome => trivial
      | status battery outcome => trivial
      | finish => trivial
    · exact fun hok => calibrationStep_lifted hlaw.toStoresAccepted hr hlifted hok

end Interleaving

/-! ### The Linux backend is such a threshold -/

/-- One battery, its files regular. -/
def OneBattery (s : SysfsRoot) : Prop := AllRegular s.tree ∧ ∃ node, discover s.tree = [node]

theorem chargeThreshold_eq_ok {s : SysfsRoot} {v : ℕ}
    (h : (firstEnd s.tree).map (clamp 1 100) = some v) : chargeThreshold s = .ok v := by
  rw [← chargeThreshold_toOption] at h
  exact toOption_eq_some.mp h

theorem setChargeThreshold_ok {s : SysfsRoot} (hI : OneBattery s) (n : ℕ) :
    (setChargeThreshold s n).2 = .ok () := by
  obtain ⟨hreg, node, hnode⟩ := hI
  exact (setChargeThreshold_inForce hreg n).2 (by rw [hnode]; exact List.cons_ne_nil _ _)

/-- What is set is read back, at least 20. -/
theorem chargeThreshold_setChargeThreshold {s : SysfsRoot} (hI : OneBattery s) (n : ℕ) :
    chargeThreshold (setChargeThreshold s n).1 = .ok (clamp 20 100 n) := by
  obtain ⟨hreg, node, hnode⟩ := hI
  have hforce := (setChargeThreshold_inForce hreg n).1 node (by rw [hnode]; simp)
  have hlow : 20 ≤ clamp 20 100 n := le_clamp (by omega)
  have hhigh : clamp 20 100 n ≤ 100 := clamp_le (by omega)
  apply chargeThreshold_eq_ok
  rw [firstEnd, discover_congr (sameSupplies_setChargeThreshold s hreg n), hnode,
    List.findSome?_cons, hforce.end_eq]
  exact congrArg some (clamp_eq_self (by omega) hhigh)

/-- **The Linux threshold stores what it accepts**, on a machine with one battery. -/
theorem linux_acceptsAll : AcceptsAll linuxChargeThreshold OneBattery where
  kept s n hI := by
    obtain ⟨hreg, node, hnode⟩ := hI
    refine ⟨allRegular_setChargeThreshold hreg n, node, ?_⟩
    show discover (setChargeThreshold s n).1.tree = _
    rw [discover_congr (sameSupplies_setChargeThreshold s hreg n), hnode]
  accepted s n hI _ := by
    refine ⟨20, le_rfl, ?_⟩
    rw [linux_setChargeThreshold, linux_chargeThreshold]
    exact chargeThreshold_setChargeThreshold hI n
  rejected s n e hI herr := by
    have hok : (linuxChargeThreshold.setChargeThreshold s n).2 = .ok () :=
      setChargeThreshold_ok hI n
    rw [hok] at herr
    cases herr
  supports s hI := by
    obtain ⟨-, node, hnode⟩ := hI
    show (!(discover s.tree).isEmpty) = true
    rw [hnode]
    rfl
  accepts s n hI := setChargeThreshold_ok hI n

/-- A laptop with one battery at 80. -/
def oneBattery : Tree := .ofFiles [(supplyNode "BAT0" "charge_control_end_threshold", "80\n")]

theorem oneBattery_spec : OneBattery (.start oneBattery) :=
  ⟨by decide +kernel, _, rfl⟩

/-- Start, a tick without a limit, an observation whose save fails, and the end. -/
def quietEvents : List (CalibrationEvent SysfsRoot) :=
  [.start .saved, .tick Config.default,
    .status (LinuxBattery.withRoot oneBattery).powerSource (.writeFailed "no space left"),
    .tick (limitedTo 100), .finish]

theorem quietEvents_spare : ∀ e ∈ quietEvents, ∀ r, TickSpares r e := by
  intro e he r
  simp only [quietEvents, List.mem_cons, List.not_mem_nil, or_false] at he
  rcases he with rfl | rfl | rfl | rfl | rfl
  · trivial
  · intro _ n hlimit
    cases hlimit
  · trivial
  · intro _ n hlimit
    exact (Option.some.inj hlimit).le
  · trivial

theorem quietEvents_lifted : Always (CeilingLifted linuxChargeThreshold)
    (calibrationStep linuxChargeThreshold) ⟨.start oneBattery, .absent, false⟩ quietEvents := by
  apply calibration_ceiling_lifted linux_acceptsAll.toStoresAccepted
  · exact oneBattery_spec
  · rfl
  · exact stepsMeet_of_forall quietEvents_spare

/-- **A calibration cut short.**  A configured limit of 80 brings the threshold back to 80 on the
first tick after `start`, while the state file is there. -/
theorem calibration_cut_short :
    let r := run (calibrationStep linuxChargeThreshold)
      (⟨.start oneBattery, .absent, false⟩ : CalibrationRun SysfsRoot)
      [.start .saved, .tick (limitedTo 80)]
    r.calibrating = true ∧ r.file = .holds ⟨some 80, .charge⟩ ∧
      (linuxChargeThreshold.chargeThreshold r.device).toOption = some 80 := by
  decide +kernel

/-! ### One undisturbed cycle -/

/-- A `status` call: what the battery shows, and how the save goes. -/
structure StatusCall where
  battery : PowerSource SysfsRoot
  outcome : SaveOutcome

/-- The state file after some `status` calls; none of them touches the device. -/
def statusCalls (device : SysfsRoot) (file : StateFile) (calls : List StatusCall) : StateFile :=
  calls.foldl (fun file call => (Calibrate.status call.battery device file call.outcome).file) file

/-- A cycle: `start`, any number of `status` calls, `finish`. -/
structure Cycle where
  device : SysfsRoot
  file : StateFile
  outcome : SaveOutcome
  calls : List StatusCall

namespace Cycle

/-- What `start` left. -/
def started (c : Cycle) : Outcome SysfsRoot :=
  Calibrate.start linuxChargeThreshold c.device c.file c.outcome

/-- What `finish` left. -/
def finished (c : Cycle) : Outcome SysfsRoot :=
  Calibrate.finish linuxChargeThreshold c.started.device
    (statusCalls c.started.device c.started.file c.calls)

/-- Both commands returned `Ok`. -/
def Succeeds (c : Cycle) : Prop := c.started.result.isOk = true ∧ c.finished.result.isOk = true

instance (c : Cycle) : Decidable c.Succeeds := inferInstanceAs (Decidable (_ ∧ _))

/-- Every end threshold is what it was before `start`. -/
def Restores (c : Cycle) : Prop := ∀ node ∈ discover c.device.tree,
  SysfsRoot.readU64 c.finished.device.tree node.endPath
    = SysfsRoot.readU64 c.device.tree node.endPath

instance (c : Cycle) : Decidable c.Restores := inferInstanceAs (Decidable (∀ _ ∈ _, _))

end Cycle

theorem exists_ok_of_isOk {ε α : Type} {r : Except ε α} (h : r.isOk = true) : ∃ a, r = .ok a := by
  cases r with
  | error e => cases h
  | ok a => exact ⟨a, rfl⟩

/-- A state that survives `status` calls still records the threshold it started with. -/
theorem statusCalls_savedThreshold (device : SysfsRoot) (calls : List StatusCall) :
    ∀ {file : StateFile} {state state' : CalibrationState},
      CalibrationState.load file = some state →
      CalibrationState.load (statusCalls device file calls) = some state' →
      state'.savedThreshold = state.savedThreshold := by
  induction calls with
  | nil =>
    intro file state state' h h'
    rw [statusCalls, List.foldl_nil, h] at h'
    cases h'
    rfl
  | cons call calls ih =>
    intro file state state' h h'
    cases hnext : CalibrationState.load
        (Calibrate.status call.battery device file call.outcome).file with
    | some middle =>
      rw [ih hnext h', status_savedThreshold h hnext]
    | none =>
      -- once lost, the state never comes back
      have hlost : ∀ calls file, CalibrationState.load file = none →
          CalibrationState.load (statusCalls device file calls) = none := by
        intro calls
        induction calls with
        | nil => exact fun file h => h
        | cons call calls ih => exact fun file h => ih _ (status_load_eq_none h)
      have hnone := hlost calls _ hnext
      rw [statusCalls, List.foldl_cons] at h'
      rw [statusCalls] at hnone
      rw [hnone] at h'
      cases h'

/-- **What a cycle leaves.**  Where the first battery starts at `e` in `1..=100`, a cycle that
succeeds leaves every battery at `e` clamped to `20..=100`. -/
theorem cycle_leaves {c : Cycle} (hreg : AllRegular c.device.tree) (hok : c.Succeeds) {e : ℕ}
    (hfirst : firstEnd c.device.tree = some e) (hlow : 1 ≤ e) (hhigh : e ≤ 100) :
    ∀ node ∈ discover c.device.tree,
      SysfsRoot.readU64 c.finished.device.tree node.endPath = some (clamp 20 100 e) := by
  obtain ⟨⟨startMsg, hstart⟩, finishMsg, hfinish⟩ :=
    And.intro (exists_ok_of_isOk hok.1) (exists_ok_of_isOk hok.2)
  obtain ⟨-, hdevice, hfile⟩ := start_ok hstart
  have hsaved : (linuxChargeThreshold.chargeThreshold c.device).toOption = some e := by
    show (chargeThreshold c.device).toOption = some e
    rw [chargeThreshold_toOption, hfirst, Option.map_some, clamp_eq_self hlow hhigh]
  have hstarted : c.started.device = (setChargeThreshold c.device 100).1 := hdevice
  have hreg₁ : AllRegular c.started.device.tree := by
    rw [hstarted]
    exact allRegular_setChargeThreshold hreg 100
  have hnodes : discover c.started.device.tree = discover c.device.tree := by
    rw [hstarted]
    exact discover_congr (sameSupplies_setChargeThreshold c.device hreg 100)
  obtain ⟨state, hload, hdone⟩ := finish_ok hfinish
  have hrecorded : state.savedThreshold = some e := by
    have hbegin : CalibrationState.load c.started.file = some ⟨some e, .charge⟩ := by
      show CalibrationState.load
        (Calibrate.start linuxChargeThreshold c.device c.file c.outcome).file = _
      rw [hfile, hsaved]
      rfl
    rw [statusCalls_savedThreshold c.started.device c.calls hbegin hload]
  rw [hrecorded] at hdone
  have hfinished : c.finished.device = (setChargeThreshold c.started.device e).1 := hdone.2
  intro node hnode
  rw [← hnodes] at hnode
  rw [hfinished]
  exact ((setChargeThreshold_inForce hreg₁ e).1 node hnode).end_eq

/-- **The round trip, exactly.**  Where every end threshold starts in `1..=100`, a cycle that
succeeds gives all of them back if and only if they were all the same value, at least 20. -/
theorem cycle_restores_iff (c : Cycle) (hreg : AllRegular c.device.tree)
    (hends : ∀ node ∈ discover c.device.tree,
      ∃ e, SysfsRoot.readU64 c.device.tree node.endPath = some e ∧ 1 ≤ e ∧ e ≤ 100)
    (hok : c.Succeeds) :
    c.Restores ↔ ∃ e, 20 ≤ e ∧ ∀ node ∈ discover c.device.tree,
      SysfsRoot.readU64 c.device.tree node.endPath = some e := by
  cases hnodes : discover c.device.tree with
  | nil =>
    rw [Cycle.Restores, hnodes]
    exact iff_of_true (by simp) ⟨20, le_rfl, by simp⟩
  | cons node₀ nodes =>
    have hmem₀ : node₀ ∈ discover c.device.tree := by rw [hnodes]; simp
    obtain ⟨e, he, hlow, hhigh⟩ := hends node₀ hmem₀
    have hfirst : firstEnd c.device.tree = some e := by
      rw [firstEnd, hnodes, List.findSome?_cons, he]
    have hleaves := cycle_leaves hreg hok hfirst hlow hhigh
    rw [← hnodes]
    constructor
    · intro hrestored
      have hfix : clamp 20 100 e = e := by
        have h₀ := (hleaves node₀ hmem₀).symm.trans (hrestored node₀ hmem₀)
        exact Option.some.inj (h₀.trans he)
      refine ⟨e, hfix ▸ le_clamp (by omega), ?_⟩
      intro node hnode
      rw [← hrestored node hnode, hleaves node hnode, hfix]
    · intro h node hnode
      obtain ⟨e', hbig, hall⟩ := h
      have heq : e = e' := Option.some.inj (he.symm.trans (hall node₀ hmem₀))
      subst heq
      rw [hleaves node hnode, hall node hnode, clamp_eq_self hbig hhigh]

/-- A cycle of two batteries, with one observation in between. -/
def cycleOf (end₀ end₁ : String) : Cycle where
  device := .start (twoBatteries end₀ end₁ "[Custom] Standard\n")
  file := .absent
  outcome := .saved
  calls := [⟨(LinuxBattery.withRoot oneBattery).powerSource, .saved⟩]

theorem cycleOf_restores : (cycleOf "80\n" "80\n").Restores :=
  (cycle_restores_iff (cycleOf "80\n" "80\n") (by decide +kernel)
    (fun node hnode => ⟨80, by revert node; decide +kernel, by decide, by decide⟩)
    (by decide +kernel)).mpr ⟨80, by decide, by decide +kernel⟩

/-- Two batteries at 80 and 60 both end at 80, and one at 10 ends at 20. -/
theorem cycle_flattens :
    ((cycleOf "80\n" "60\n").Succeeds ∧ ¬(cycleOf "80\n" "60\n").Restores) ∧
    ((cycleOf "10\n" "10\n").Succeeds ∧ ¬(cycleOf "10\n" "10\n").Restores) := by
  decide +kernel

end WattWarden
