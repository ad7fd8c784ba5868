import WattWarden.Daemon.Plans
import WattWarden.FrontEnds.Adjust
import WattWarden.Library.Scales
import Mathlib.Logic.Function.Iterate

/-!
# Percentages of a panel

A panel has as many steps as its `max_brightness` says.  A percentage is written as a step and read
back from it, and both conversions truncate.

* `readPanel` — the device that `brightness_percent` reads;
* `ReadsBack` — when a percentage reads back after it was set;
* `brightness_settles_iff` — **PROVED**: a brightness tick that set its target leaves the next ticks
  nothing to do exactly when the target reads back;
* `panels_stay_lit_iff` — **PROVED**: `set_brightness_percent` writes a step between one and the
  maximum exactly when the percentage amounts to a step;
* `brightness_in_range_iff` — **PROVED**: readings and steps of the brightness row stay in range
  exactly when the panel reads at most its maximum.
-/

namespace WattWarden

open Library.FileTree Library.Journaling Library.Numerals Library.Scales

/-! ### Reading -/

namespace LinuxBacklight

/-- The device that `brightness_percent` reads: the first one with a maximum. -/
def readPanel (t : Tree) : Option String := (devices t).find? fun device => 0 < maxBrightness t device

/-- The number in a device's `brightness` node, as `brightness_percent` reads it. -/
def currentBrightness (t : Tree) (device : String) : ℤ :=
  (SysfsRoot.readI64 t (backlightNode device "brightness")).getD 0

variable {t : Tree} {panel : String}

theorem brightnessPercent_of_panel (h : readPanel t = some panel) (tool : Brightnessctl) :
    brightnessPercent tool t = percentOf (maxBrightness t panel) (currentBrightness t panel) := by
  rw [readPanel] at h
  rw [brightnessPercent, h]
  rfl

theorem brightnessPercent_absent (h : readPanel t = none) :
    brightnessPercent .absent t = 100 := by
  rw [readPanel] at h
  rw [brightnessPercent, h]
  rfl

theorem readPanel_mem (h : readPanel t = some panel) :
    panel ∈ devices t ∧ 0 < maxBrightness t panel := by
  constructor
  · exact List.mem_of_find?_eq_some h
  · simpa using List.find?_some h

/-- The maxima describe the machine. -/
theorem readPanel_eq {s : SysfsRoot} (h : SameMachine t s.tree) : readPanel s.tree = readPanel t := by
  have hdevices : devices s.tree = devices t :=
    h.names_eq fun n => by simp [Unprobed, subsystem, backlightBase]
  simp only [readPanel, hdevices, maxBrightness_eq h]

end LinuxBacklight

open LinuxBacklight

/-! ### What setting a brightness writes -/

theorem mem_panelPlan {t : Tree} {p : ℕ} {w : Write Actor} : w ∈ panelPlan t p ↔
    ∃ device ∈ devices t, 0 < maxBrightness t device ∧
      w = put (backlightNode device "brightness") (toString (stepOf (maxBrightness t device) p)) := by
  rw [panelPlan, List.mem_flatMap]
  refine exists_congr fun device => and_congr_right fun _ => ?_
  split
  · rename_i hmax
    simp [hmax, stepOf]
  · rename_i hmax
    simp [hmax]

theorem backlightNode_inj {device device' name : String} :
    backlightNode device name = backlightNode device' name ↔ device = device' := by
  simp [backlightNode]

/-- The panel loop lists one step for a device with a maximum. -/
theorem planned_panelPlan {t : Tree} {device : String} (hdevice : device ∈ devices t)
    (hmax : 0 < maxBrightness t device) (p : ℕ) :
    planned (panelPlan t p) (backlightNode device "brightness")
      = some (toString (stepOf (maxBrightness t device) p)) := by
  refine planned_eq_some ⟨_, mem_panelPlan.mpr ⟨device, hdevice, hmax, rfl⟩, rfl⟩ ?_
  intro w hw hpath
  obtain ⟨device', -, -, rfl⟩ := mem_panelPlan.mp hw
  rw [path_put, backlightNode_inj] at hpath
  rw [hpath]
  rfl

/-- The value the external tool leaves in a panel's node when it is asked for `p`. -/
def toolValue (tool : Brightnessctl) (now : Tree) (p : ℕ) (panel : String) : Option String :=
  planned (toolPlan tool now p) (backlightNode panel "brightness")

/-- A device with a maximum holds what the tool leaves there, or else the step of `p`. -/
theorem content_setBrightness {s : SysfsRoot} {device : String} (hdevice : device ∈ devices s.tree)
    (hmax : 0 < maxBrightness s.tree device) (tool : Brightnessctl) {p : ℕ}
    (hp : clamp 1 100 p = p) :
    (setBrightnessPercent tool s p).tree.content (backlightNode device "brightness")
      = if s.tree.writable (backlightNode device "brightness") = true then
          some ((toolValue tool (afterPlan s.tree (panelPlan s.tree p)) p device).getD
            (toString (stepOf (maxBrightness s.tree device) p)))
        else s.tree.content (backlightNode device "brightness") := by
  have hset := setBrightnessPercent_eq (SameMachine.refl s.tree) tool p
  rw [hp] at hset
  rw [hset, afterPlan_tree, toolValue, Journal.content_writeAll, Journal.writable_writeAll,
    Journal.content_writeAll, planned_panelPlan hdevice hmax]
  cases planned (toolPlan tool (s.writeAll (panelPlan s.tree p)).tree p)
    (backlightNode device "brightness") with
  | none => rfl
  | some v => split <;> simp_all

/-! ### Reading back -/

/-- Percentage `p` reads back from `panel` once it was set.  Where the external tool leaves a value
of its own, that value decides; else the step of `p`, which has to be an exact one. -/
def ReadsBack (tool : Brightnessctl) (t : Tree) (panel : String) (p : ℕ) : Prop :=
  let max := maxBrightness t panel
  t.writable (backlightNode panel "brightness") = true ∧
    match toolValue tool (afterPlan t (panelPlan t p)) p panel with
    | none => p * max < 2 ^ 63 ∧ 100 ∣ p * max
    | some v =>
        let product := wrapI64 ((parseSigned (2 ^ 63) (trim v)).getD 0 * 100)
        p * max ≤ product ∧ product < (p + 1) * max

/-- A printed 64-bit number is read as it is. -/
theorem currentBrightness_of_content {t : Tree} {panel v : String}
    (h : t.content (backlightNode panel "brightness") = some v) :
    currentBrightness t panel = (parseSigned (2 ^ 63) (trim v)).getD 0 := by
  rw [currentBrightness, SysfsRoot.readI64, SysfsRoot.read, h]
  rfl

theorem currentBrightness_of_missing {t : Tree} {panel : String}
    (h : t.content (backlightNode panel "brightness") = none) : currentBrightness t panel = 0 := by
  rw [currentBrightness, SysfsRoot.readI64, SysfsRoot.read, h]
  decide

theorem setBrightnessPercent_sameMachine (tool : Brightnessctl) (s : SysfsRoot) (p : ℕ) :
    SameMachine s.tree (setBrightnessPercent tool s p).tree := by
  rw [setBrightnessPercent_eq (SameMachine.refl s.tree) tool p]
  exact ((SameMachine.refl s.tree).writeAll (panelPlan_safe _)).writeAll (toolPlan_safe _ _ _)

/-- **When a percentage reads back.** -/
theorem reads_back_iff {s : SysfsRoot} {panel : String} (hpanel : readPanel s.tree = some panel)
    (tool : Brightnessctl) {p : ℕ} (hp : 1 ≤ p) (hp' : p ≤ 100) :
    brightnessPercent tool (setBrightnessPercent tool s p).tree = p ↔
      ReadsBack tool s.tree panel p := by
  obtain ⟨hdevice, hmax⟩ := readPanel_mem hpanel
  have hmachine := setBrightnessPercent_sameMachine tool s p
  have hread := (readPanel_eq hmachine).trans hpanel
  have hcontent := content_setBrightness hdevice hmax tool (clamp_eq_self hp hp')
  rw [brightnessPercent_of_panel hread, maxBrightness_eq hmachine, ReadsBack]
  by_cases hwritable : s.tree.writable (backlightNode panel "brightness") = true
  · rw [if_pos hwritable] at hcontent
    rw [currentBrightness_of_content hcontent]
    cases toolValue tool (afterPlan s.tree (panelPlan s.tree p)) p panel with
    | none =>
      have hbounds := stepOf_bounds (maxBrightness s.tree panel) p
      rw [Option.getD_none, trim_toString, parseSigned_toString (by omega) (by omega),
        Option.getD_some, percentOf_stepOf_iff hmax (by omega) (by omega)]
      simp [hwritable]
    | some v =>
      rw [Option.getD_some, percentOf_eq_iff hmax (by omega) (by omega)]
      simp [hwritable]
  · -- the node is missing and stays so: the panel reads zero
    rw [if_neg hwritable] at hcontent
    have hmissing : s.tree.content (backlightNode panel "brightness") = none := by
      apply Tree.content_of_isFile_false
      by_contra hfile
      exact hwritable (Tree.writable_of_isFile (by simpa using hfile))
    rw [currentBrightness_of_missing (hcontent.trans hmissing),
      percentOf_eq_iff hmax (by omega) (by omega)]
    have hprod : 0 < (p : ℤ) * maxBrightness s.tree panel := Int.mul_pos (by omega) hmax
    have hzero : wrapI64 (0 * 100) = 0 := by decide
    rw [hzero]
    constructor
    · intro h
      omega
    · intro h
      exact absurd h.1 hwritable

/-! ### The brightness tick -/

section Tick

variable {b : LinuxBackend} {config : Config} {activeClass : String} {d : DaemonState}

/-- The percentage a brightness tick aims at. -/
def brightnessTarget (config : Config) (activeClass : String) : ℕ :=
  clamp 1 100 (baseBrightness activeClass + brightnessDelta config.autoExtremeLevel)

theorem applyBrightnessStep_due (h : BrightnessDue b config activeClass d) :
    (applyBrightnessStep b config activeClass d).1
      = ⟨setBrightnessPercent b.brightnessctl d.sysfs (brightnessTarget config activeClass),
          brightnessTarget config activeClass⟩ := by
  obtain ⟨hauto, hsome, hdue⟩ := h
  rw [applyBrightnessStep]
  simp only [hauto, hsome, if_pos hdue, Bool.not_true, Bool.false_eq_true, if_false, if_true]
  rfl

theorem applyBrightnessStep_not_due (h : ¬BrightnessDue b config activeClass d) :
    (applyBrightnessStep b config activeClass d).1 = d := by
  rw [applyBrightnessStep]
  split
  · rfl
  · rename_i hauto
    dsimp only
    split
    · rename_i hsome
      split
      · rename_i hdue
        exact absurd ⟨by simpa using hauto, hsome, hdue⟩ h
      · rfl
    · rfl

/-- Setting a brightness writes to the panel at least. -/
theorem log_setBrightness_ne {s : SysfsRoot} {panel : String}
    (hpanel : readPanel s.tree = some panel) (tool : Brightnessctl) (p : ℕ) :
    (setBrightnessPercent tool s p).log ≠ s.log := by
  obtain ⟨hdevice, hmax⟩ := readPanel_mem hpanel
  have hmem := List.length_pos_of_mem
    (mem_panelPlan.mpr ⟨panel, hdevice, hmax, rfl⟩ : _ ∈ panelPlan s.tree (clamp 1 100 p))
  intro hlog
  have hlen := congrArg List.length hlog
  rw [setBrightnessPercent_eq (SameMachine.refl s.tree) tool p, Journal.log_writeAll,
    Journal.log_writeAll, List.length_append, List.length_append, List.length_reverse,
    List.length_reverse] at hlen
  omega

/-- **When auto-brightness settles.**  Once a tick has set its target, the next ticks write nothing
if and only if the target reads back, and so it is for every percentage that is set. -/
theorem brightness_settles_iff (b : LinuxBackend) (config : Config) (activeClass : String)
    (d : DaemonState) (panel : String) (hpanel : readPanel d.sysfs.tree = some panel) :
    let tick := fun d => (applyBrightnessStep b config activeClass d).1
    ((BrightnessDue b config activeClass d →
        ∀ n, (tick^[n] (tick d)).sysfs.log = (tick d).sysfs.log) ↔
      (BrightnessDue b config activeClass d →
        ReadsBack b.brightnessctl d.sysfs.tree panel (brightnessTarget config activeClass))) ∧
    ∀ p, 1 ≤ p → p ≤ 100 →
      (brightnessPercent b.brightnessctl
          (setBrightnessPercent b.brightnessctl d.sysfs p).tree = p ↔
        ReadsBack b.brightnessctl d.sysfs.tree panel p) := by
  intro tick
  refine ⟨?_, fun p hp hp' => reads_back_iff hpanel _ hp hp'⟩
  apply imp_congr_right
  intro hdue
  have hfirst : tick d = ⟨_, _⟩ := applyBrightnessStep_due hdue
  have hlo : 1 ≤ brightnessTarget config activeClass := le_clamp (by omega)
  have hhi : brightnessTarget config activeClass ≤ 100 := clamp_le (by omega)
  rw [← reads_back_iff hpanel b.brightnessctl hlo hhi]
  constructor
  · intro hquiet
    have hnext : (tick (tick d)).sysfs.log = (tick d).sysfs.log := hquiet 1
    by_contra hread
    have hagain : BrightnessDue b config activeClass (tick d) := by
      rw [hfirst]
      exact ⟨hdue.1, hdue.2.1, .inr hread⟩
    have hmachine := setBrightnessPercent_sameMachine b.brightnessctl d.sysfs
      (brightnessTarget config activeClass)
    have hpanel' : readPanel (tick d).sysfs.tree = some panel := by
      rw [hfirst]
      exact (readPanel_eq hmachine).trans hpanel
    apply log_setBrightness_ne hpanel' b.brightnessctl (brightnessTarget config activeClass)
    rw [← hnext, show tick (tick d) = ⟨_, _⟩ from applyBrightnessStep_due hagain]
  · intro hread n
    have hidle : ¬BrightnessDue b config activeClass (tick d) := by
      rw [hfirst]
      intro h
      obtain ⟨-, -, hlast | hreading⟩ := h
      · exact hlast rfl
      · exact hreading hread
    have hfixed : tick (tick d) = tick d := applyBrightnessStep_not_due hidle
    rw [Function.iterate_fixed hfixed]

/-- One panel, at half of its `max` steps. -/
def onePanel (max : ℕ) : Tree :=
  .ofFiles [(backlightNode "panel" "max_brightness", decimal max),
    (backlightNode "panel" "brightness", decimal (max / 2))]

/-- The default configuration with auto-brightness on. -/
def autoBrightnessOn : Config := { Config.default with autoBrightness := true }

/-- A terminal on a panel of 1500 steps: twelve percent is an exact step. -/
theorem brightness_settles_1500 :
    let b := LinuxBackend.withRoot .plain (onePanel 1500)
    let tick := fun d => (applyBrightnessStep b autoBrightnessOn "kitty" d).1
    ∀ n, (tick^[n] (tick ⟨.start (onePanel 1500), -1⟩)).sysfs.log
      = (tick ⟨.start (onePanel 1500), -1⟩).sysfs.log := by
  intro b tick
  have hdue : BrightnessDue b autoBrightnessOn "kitty" ⟨.start (onePanel 1500), -1⟩ :=
    ⟨rfl, by decide +kernel, .inl (by decide)⟩
  refine (brightness_settles_iff b autoBrightnessOn "kitty" ⟨.start (onePanel 1500), -1⟩ "panel"
    (by decide +kernel)).1.mpr (fun _ => ⟨by decide +kernel, ?_⟩) hdue
  show _ < _ ∧ _ ∣ _
  decide +kernel

/-- On 120 steps it reads back as eleven, and the next tick writes again. -/
theorem brightness_unsettled_120 :
    let b := LinuxBackend.withRoot .plain (onePanel 120)
    let tick := fun d => (applyBrightnessStep b autoBrightnessOn "kitty" d).1
    maxBrightness (onePanel 120) "panel" = 120 ∧
      BrightnessDue b autoBrightnessOn "kitty" ⟨.start (onePanel 120), -1⟩ ∧
      brightnessPercent .absent
        (setBrightnessPercent .absent (.start (onePanel 120)) 12).tree = 11 ∧
      (tick (tick ⟨.start (onePanel 120), -1⟩)).sysfs.log
        ≠ (tick ⟨.start (onePanel 120), -1⟩).sysfs.log := by
  refine ⟨by decide +kernel, ⟨rfl, by decide +kernel, .inl (by decide)⟩, by decide +kernel, ?_⟩
  intro hlog
  have hlen := congrArg List.length hlog
  revert hlen
  decide +kernel

end Tick

/-! ### Steps between one and the maximum -/

/-- A write of the program to a device's `brightness` node. -/
def IsPanelWrite (device : String) (w : Write Actor) : Prop :=
  w.actor = .wattwarden ∧ w.path = backlightNode device "brightness"

/-- The panel loop makes one value of program writes to a device with a maximum; the external tool
writes under its own name. -/
theorem panelWrite_iff {t : Tree} {device : String} (hdevice : device ∈ devices t)
    (hmax : 0 < maxBrightness t device) (tool : Brightnessctl) (percent : ℕ) (w : Write Actor) :
    (w ∈ (setBrightnessPercent tool (.start t) percent).log ∧ IsPanelWrite device w) ↔
      w = put (backlightNode device "brightness")
        (toString (stepOf (maxBrightness t device) (clamp 1 100 percent))) := by
  rw [setBrightnessPercent_eq (SameMachine.refl t), Journal.log_writeAll, List.mem_append,
    List.mem_reverse, Journal.mem_log_writeAll, mem_panelPlan]
  constructor
  · intro h
    obtain ⟨htool | ⟨device', -, -, rfl⟩, hactor, hpath⟩ := h
    · obtain ⟨e, -, hw⟩ := List.mem_flatMap.mp htool
      split at hw
      · obtain rfl := List.mem_singleton.mp hw
        cases hactor
      · cases hw
    · rw [path_put, backlightNode_inj] at hpath
      rw [hpath]
  · rintro rfl
    exact ⟨.inr ⟨device, hdevice, hmax, rfl⟩, rfl, rfl⟩

/-- **When setting a brightness keeps the panels lit.**  Every device with a maximum is written a
step between one and that maximum, if and only if the percentage amounts to a step on each. -/
theorem panels_stay_lit_iff (tool : Brightnessctl) (t : Tree) (percent : ℕ)
    (hfits : ∀ device ∈ devices t, maxBrightness t device ≤ (2 ^ 63 - 1) / 100) :
    let p := clamp 1 100 percent
    (∀ device ∈ devices t, 0 < maxBrightness t device →
      (∃ w ∈ (setBrightnessPercent tool (.start t) percent).log, IsPanelWrite device w) ∧
      ∀ w ∈ (setBrightnessPercent tool (.start t) percent).log, IsPanelWrite device w →
        ∃ v : ℕ, w.value = decimal v ∧ 1 ≤ v ∧ (v : ℤ) ≤ maxBrightness t device) ↔
      ∀ device ∈ devices t, 0 < maxBrightness t device → 100 ≤ p * maxBrightness t device := by
  intro p
  have hhi : p ≤ 100 := clamp_le (by omega)
  refine forall_congr' fun device => forall₂_congr fun hdevice hmax => ?_
  have hwrites := panelWrite_iff hdevice hmax tool percent
  obtain ⟨hstep, hle, hone⟩ := stepOf_range hmax (hfits device hdevice) hhi
  obtain ⟨n, hn⟩ := Int.eq_ofNat_of_zero_le hstep
  have htext : toString (stepOf (maxBrightness t device) p) = decimal n := by
    rw [hn]
    rfl
  rw [htext] at hwrites
  constructor
  · intro h
    obtain ⟨⟨w, hw, hpanel⟩, hall⟩ := h
    obtain ⟨v, hvalue, hv, -⟩ := hall w hw hpanel
    rw [(hwrites w).mp ⟨hw, hpanel⟩] at hvalue
    have hvn : n = v := decimal_inj.mp hvalue
    omega
  · intro hwhole
    obtain ⟨hmem, hpanel⟩ := (hwrites _).mpr rfl
    refine ⟨⟨_, hmem, hpanel⟩, ?_⟩
    intro w hw hpanel'
    refine ⟨n, ?_, by omega, by omega⟩
    rw [(hwrites w).mp ⟨hw, hpanel'⟩]
    rfl

/-- One percent of 1500 steps. -/
theorem panels_stay_lit_1500 :
    (∃ w ∈ (setBrightnessPercent .absent (.start (onePanel 1500)) 1).log,
      IsPanelWrite "panel" w) ∧
    ∀ w ∈ (setBrightnessPercent .absent (.start (onePanel 1500)) 1).log,
      IsPanelWrite "panel" w →
      ∃ v : ℕ, w.value = decimal v ∧ 1 ≤ v ∧ (v : ℤ) ≤ maxBrightness (onePanel 1500) "panel" :=
  (panels_stay_lit_iff .absent (onePanel 1500) 1 (by decide +kernel)).mpr (by decide +kernel)
    "panel" (by decide +kernel) (by decide +kernel)

/-- Twelve percent of a panel with seven steps is no step at all: the panel goes dark. -/
theorem twelve_of_seven_is_dark :
    ¬∀ (t : Tree) (percent : ℕ), percent < 2 ^ 8 →
      (∀ device ∈ devices t, maxBrightness t device ≤ (2 ^ 63 - 1) / 100) →
      ∀ device ∈ devices t, 0 < maxBrightness t device →
        ∀ w ∈ (setBrightnessPercent .absent (.start t) percent).log, IsPanelWrite device w →
          ∃ v : ℕ, w.value = decimal v ∧ 1 ≤ v ∧ (v : ℤ) ≤ maxBrightness t device := by
  intro h
  have hdevice : "panel" ∈ devices (onePanel 7) := by decide +kernel
  have hmax : 0 < maxBrightness (onePanel 7) "panel" := by decide +kernel
  obtain ⟨hmem, hpanel⟩ := (panelWrite_iff hdevice hmax .absent 12 _).mpr rfl
  obtain ⟨v, hvalue, hv, -⟩ :=
    h (onePanel 7) 12 (by decide) (by decide +kernel) "panel" hdevice hmax _ hmem hpanel
  have hdark : toString (stepOf (maxBrightness (onePanel 7) "panel") (clamp 1 100 12))
      = decimal 0 := by decide +kernel
  have hzero : 0 = v := decimal_inj.mp (hdark.symm.trans hvalue)
  omega

/-! ### Readings and steps in range -/

/-- **In range.**  The reading is a percentage computed without overflow, and one step of the
brightness row in either direction sets a percentage in `1..=100` without overflow. -/
structure BrightnessInRange (b : LinuxBackend) (s : SysfsRoot) : Prop where
  product_fits : ∀ panel, readPanel s.tree = some panel →
    -2 ^ 63 ≤ currentBrightness s.tree panel * 100 ∧ currentBrightness s.tree panel * 100 < 2 ^ 63
  reading_le : brightnessPercent b.brightnessctl s.tree ≤ 100
  sum_fits : brightnessPercent b.brightnessctl s.tree + 5 < 2 ^ 8
  step_in_range : ∀ config direction, b.backlight.isSome = true →
    ∃ next, next = App.nextBrightness direction (brightnessPercent b.brightnessctl s.tree) ∧
      1 ≤ next ∧ next ≤ 100 ∧
      (App.handleBrightness b config direction s).1 = setBrightnessPercent b.brightnessctl s next

theorem nextBrightness_in_range {cur : ℕ} (h : cur ≤ 100) (direction : Direction) :
    1 ≤ App.nextBrightness direction cur ∧ App.nextBrightness direction cur ≤ 100 := by
  cases direction with
  | left =>
    rw [App.nextBrightness, App.stepped]
    omega
  | right =>
    rw [App.nextBrightness, App.stepped]
    omega

/-- **When readings and steps stay in range.**  Without the external tool they do if and only if the
panel that is read shows a number whose hundredfold fits and is below a hundred and one times the
maximum. -/
theorem brightness_in_range_iff (b : LinuxBackend) (htool : b.brightnessctl = .absent)
    (s : SysfsRoot) : BrightnessInRange b s ↔
      ∀ panel, readPanel s.tree = some panel →
        (currentBrightness s.tree panel).natAbs ≤ 2 ^ 63 / 100 ∧
          currentBrightness s.tree panel * 100 < 101 * maxBrightness s.tree panel := by
  constructor
  · intro h panel hpanel
    obtain ⟨hlo, hhi⟩ := h.product_fits panel hpanel
    have hread := h.reading_le
    rw [brightnessPercent_of_panel hpanel, percentOf_le_iff (readPanel_mem hpanel).2 (by decide),
      wrapI64_eq_self hlo hhi] at hread
    constructor
    · omega
    · exact_mod_cast hread
  · intro h
    have hread : brightnessPercent b.brightnessctl s.tree ≤ 100 := by
      cases hpanel : readPanel s.tree with
      | none => rw [htool, brightnessPercent_absent hpanel]
      | some panel =>
        obtain ⟨habs, hlt⟩ := h panel hpanel
        rw [brightnessPercent_of_panel hpanel, percentOf_le_iff (readPanel_mem hpanel).2 (by decide),
          wrapI64_eq_self (by omega) (by omega)]
        exact_mod_cast hlt
    constructor
    · intro panel hpanel
      have habs := (h panel hpanel).1
      omega
    · exact hread
    · omega
    · intro config direction hsome
      obtain ⟨hlo, hhi⟩ := nextBrightness_in_range hread direction
      refine ⟨_, rfl, hlo, hhi, ?_⟩
      rw [App.handleBrightness, if_pos hsome]

/-- A panel at half of 1500 steps. -/
theorem brightness_in_range_1500 :
    BrightnessInRange (LinuxBackend.withRoot .plain (onePanel 1500)) (.start (onePanel 1500)) := by
  refine (brightness_in_range_iff _ rfl _).mpr ?_
  intro panel hpanel
  have hname : panel = "panel" := by
    have hread : readPanel (onePanel 1500) = some "panel" := by decide +kernel
    exact Option.some.inj (hpanel.symm.trans hread)
  subst hname
  decide +kernel

/-- A panel of 100 steps whose node shows 300. -/
def overdriven : Tree :=
  .ofFiles [(backlightNode "panel" "max_brightness", "100"),
    (backlightNode "panel" "brightness", "300")]

/-- It reads 255 percent, a step to the left stays there, and one to the right overflows. -/
theorem overdriven_out_of_range :
    ¬BrightnessInRange (LinuxBackend.withRoot .plain overdriven) (.start overdriven) ∧
      brightnessPercent .absent overdriven = 255 ∧ ¬255 + 5 < 2 ^ 8 ∧
      App.nextBrightness .left 255 = 250 := by
  have hread : brightnessPercent .absent overdriven = 255 := by decide +kernel
  refine ⟨?_, hread, by decide, by decide⟩
  intro h
  have hle : brightnessPercent .absent overdriven ≤ 100 := h.reading_le
  omega

end WattWarden
