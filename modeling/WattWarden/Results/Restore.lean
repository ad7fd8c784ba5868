import WattWarden.Daemon.WriteSets
import WattWarden.Library.Runs
import WattWarden.Platform.AspmKernel
import WattWarden.Results.NewNodes

/-!
# Does restoring undo everything?

Profiles and ladder steps, in any order and under any load, and then the Normal profile.  Normal
writes every node the others write but two: it never turns a keyboard light on again, and it asks
for the `default` policy, which a kernel may not list.

* `RestoreEvent` / `restoreStep` — the history, with the kernel showing its policies;
* `HistoryWrite` — what a history can write, `Reached` — what holds of every tree it reaches;
* `brightnessPlan_eq` — **PROVED**: setting the brightness forgets what it was;
* `policy_step`, `led_step` — **PROVED**: the policy and a keyboard light after one event;
* `reached_step` — **PROVED**: every event keeps `Reached`;
* `restored_iff` — **PROVED**: restoring a reached tree gives what restoring the initial tree
  gives, exactly when the keyboard lights and, without `default`, the policy are as they were;
* `restore_undoes_iff` — **PROVED**: so it does in every state of a run, exactly when no step turns
  a light off that is on and, without `default`, no step chooses another policy.
-/

namespace WattWarden

open Library.FileTree Library.Journaling Library.Floats Library.Numerals Library.Runs

/-! ### Histories -/

/-- The value of a node: its content without the white space around it. -/
def nodeValue (t : Tree) (p : Path) : Option String := (t.content p).map trim

/-- The same panels with the same maximum. -/
structure SamePanels (t t' : Tree) : Prop where
  devices : t'.names backlightBase = t.names backlightBase
  maxima : ∀ device, t'.content (backlightNode device "max_brightness")
    = t.content (backlightNode device "max_brightness")

/-- What `brightnessctl set N%` is documented to do: the value is that share of the device's
maximum, and which devices are set has nothing to do with the value. -/
structure Brightnessctl.Steady (tool : Brightnessctl) : Prop where
  values : ∀ {t t' : Tree}, SamePanels t t' → ∀ n, tool.set t' n = tool.set t n
  devices : ∀ t n n', (tool.set t n').map Prod.fst = (tool.set t n).map Prod.fst

/-- A profile, a ladder step under a configuration, or a change of the load or the power supply. -/
inductive RestoreEvent where
  | profile (p : PowerProfile)
  | logic (config : Config)
  | outside (changes : List (Path × String))

/-- One event; the kernel shows the policy afterwards. -/
def restoreStep (F : Type) [FloatLike F] (b : LinuxBackend) (k : AspmKernel) (s : SysfsRoot) :
    RestoreEvent → SysfsRoot
  | .profile p => k.settle (b.applyProfile s p)
  | .logic config => k.settle (applyLogicStep F b s config).1
  | .outside changes => ambient s changes

/-- `apply_profile(Normal)`. -/
def restore (b : LinuxBackend) (k : AspmKernel) (s : SysfsRoot) : SysfsRoot :=
  k.settle (b.applyProfile s .normal)

/-- Restoring `s` gives the values that restoring the initial tree gives, on every node the
machine does not change by itself. -/
def Restored (b : LinuxBackend) (k : AspmKernel) (t : Tree) (s : SysfsRoot) : Prop :=
  ∀ p, ¬IsAmbient p →
    nodeValue (restore b k s).tree p = nodeValue (restore b k (.start t)).tree p

/-! ### What a history writes -/

/-- The nodes Normal writes whatever it finds. -/
def restoreNodes (b : LinuxBackend) (t : Tree) : List Path :=
  written (hardwarePlan b t LinuxBackend.normalValues t) ++ written (brightnessPlan b t t 100) ++
    written (kernelPlan t LinuxBackend.normalValues)

/-- Where a history writes: outside the program, or to a node Normal writes too, but for two. -/
inductive HistoryPlace (b : LinuxBackend) (t : Tree) (w : Write Actor) : Prop
  | ambient (h : IsAmbient w.path)
  | policy (h : b.aspm.isSome = true ∧ w.path = aspmPolicyPath)
  | kbd (h : w ∈ kbdPlan t)
  | restored (h : w.path ∈ restoreNodes b t)

/-- What a history can write on the machine `t`. -/
structure HistoryWrite (b : LinuxBackend) (t : Tree) (w : Write Actor) : Prop where
  safe : SafeWrite t w
  place : HistoryPlace b t w

/-- What holds of every tree a history reaches. -/
structure Reached (b : LinuxBackend) (k : AspmKernel) (t : Tree) (s : SysfsRoot) : Prop where
  history : Extends (HistoryWrite b t) (.start t) s
  shows : k.Shows s.tree

section History

variable {b : LinuxBackend} {t : Tree} {s : SysfsRoot}

theorem history_sameMachine (h : Extends (HistoryWrite b t) (.start t) s) : SameMachine t s.tree :=
  SameMachine.extends_safe (h.mono fun _ hw => hw.safe) (SameMachine.refl t)

theorem history_writable (h : Extends (HistoryWrite b t) (.start t) s) (p : Path) :
    s.tree.writable p = t.writable p := by
  rw [Journal.writable_tree, h.initial_eq]
  rfl

/-- What cannot be written keeps its content. -/
theorem history_content_of_not_writable (h : Extends (HistoryWrite b t) (.start t) s) {p : Path}
    (hp : t.writable p = false) : s.tree.content p = t.content p := by
  rw [Journal.content_tree, h.initial_eq]
  cases lastWrite s.log p with
  | none => rfl
  | some v => simp [hp]

/-- A kbd write is one of a keyboard light. -/
theorem kbd_of_mem {w : Write Actor} (h : w ∈ kbdPlan t) :
    ∃ led ∈ kbdLeds t, w.path = ledNode led "brightness" ∧ w.value = "0" := by
  obtain ⟨led, hled, rfl⟩ := List.mem_map.mp h
  exact ⟨led, hled, rfl, rfl⟩

/-- **Everything else keeps its content.** -/
theorem history_content (h : Extends (HistoryWrite b t) (.start t) s) {p : Path}
    (hambient : ¬IsAmbient p) (hpolicy : b.aspm.isSome = true → p ≠ aspmPolicyPath)
    (hkbd : ∀ led ∈ kbdLeds t, p ≠ ledNode led "brightness") (hnodes : p ∉ restoreNodes b t) :
    s.tree.content p = t.content p := by
  apply h.content_eq
  intro w hw heq
  subst heq
  cases hw.place with
  | ambient hplace => exact hambient hplace
  | policy hplace => exact hpolicy hplace.1 hplace.2
  | kbd hplace =>
    obtain ⟨led, hled, hpath, -⟩ := kbd_of_mem hplace
    exact hkbd led hled hpath
  | restored hplace => exact hnodes hplace

/-! ### Panels -/

theorem subsystem_panel (device : String) :
    subsystem (backlightNode device "brightness") = .backlight := rfl

/-- Among the nodes Normal writes, a panel's is written as a panel. -/
theorem panel_mem_restoreNodes {device : String}
    (h : backlightNode device "brightness" ∈ restoreNodes b t) :
    backlightNode device "brightness" ∈ written (brightnessPlan b t t 100) := by
  rw [restoreNodes, List.mem_append, List.mem_append] at h
  rcases h with (h | h) | h
  · have hhard := isHardware_of_written h
    rw [IsHardware, subsystem_panel] at hhard
    exact absurd hhard (by decide)
  · exact h
  · have hnode := (tweakNode_of_written h).1
    rw [TweakNode, subsystem_panel] at hnode
    exact absurd hnode (by decide)

/-- The `brightness` files once the panels are set: those that were there, and the panels' own. -/
theorem isFile_afterPanels (now : Tree) (n : ℕ) (device : String) :
    (afterPlan now (panelPlan t n)).isFile (backlightNode device "brightness") = true ↔
      now.isFile (backlightNode device "brightness") = true ∨
      (now.writable (backlightNode device "brightness") = true ∧
        backlightNode device "brightness" ∈ written (panelPlan t 100)) := by
  rw [afterPlan, Journal.isFile_writeAll, written_panels 100 n, mem_written]
  rfl

/-- A panel's node that Normal writes is there, or Normal sets it as a panel. -/
theorem panel_old_or_planned {device : String}
    (h : backlightNode device "brightness" ∈ restoreNodes b t) :
    t.isFile (backlightNode device "brightness") = true ∨
      backlightNode device "brightness" ∈ written (panelPlan t 100) := by
  have hbright := panel_mem_restoreNodes h
  rw [brightnessPlan] at hbright
  split at hbright
  · rw [written_append, List.mem_append] at hbright
    rcases hbright with hpanel | htool
    · exact .inr (written_panels _ 100 ▸ hpanel)
    · obtain ⟨w, hw, hpath⟩ := mem_written.mp htool
      obtain ⟨e, -, hw⟩ := List.mem_flatMap.mp hw
      split at hw
      · rename_i hset
        obtain rfl := List.mem_singleton.mp hw
        have hdevice : backlightNode e.1 "brightness" = backlightNode device "brightness" := hpath
        rw [hdevice] at hset
        exact ((isFile_afterPanels t _ device).mp hset).imp_right And.right
      · cases hw
  · cases hbright

/-- **A history creates no panel node of its own.**  Once the panels are set, the same `brightness`
files are there as on the initial tree. -/
theorem panel_isFile (h : Extends (HistoryWrite b t) (.start t) s) (n n' : ℕ) (device : String) :
    (afterPlan s.tree (panelPlan t n)).isFile (backlightNode device "brightness")
      = (afterPlan t (panelPlan t n')).isFile (backlightNode device "brightness") := by
  have hnew : s.tree.isFile (backlightNode device "brightness") = true →
      t.isFile (backlightNode device "brightness") = true ∨
        backlightNode device "brightness" ∈ written (panelPlan t 100) := by
    intro hfile
    by_cases hnodes : backlightNode device "brightness" ∈ restoreNodes b t
    · exact panel_old_or_planned hnodes
    · left
      have hsame := history_content h (p := backlightNode device "brightness")
        (by rw [IsAmbient, subsystem_panel]; simp [loadavgPath, backlightNode, backlightBase])
        (fun _ heq => by simp [backlightNode, backlightBase, aspmPolicyPath] at heq)
        (fun led _ heq => by simp [backlightNode, backlightBase, ledNode, ledsBase] at heq) hnodes
      rwa [Tree.isFile, hsame] at hfile
  rw [Bool.eq_iff_iff, isFile_afterPanels, isFile_afterPanels, history_writable h]
  constructor
  · intro hgiven
    rcases hgiven with hfile | hpanel
    · have hwritable : t.writable (backlightNode device "brightness") = true := by
        rw [← history_writable h]
        exact Tree.writable_of_isFile hfile
      exact (hnew hfile).imp_right fun hpanel => ⟨hwritable, hpanel⟩
    · exact .inr hpanel
  · intro hgiven
    rcases hgiven with hfile | hpanel
    · exact .inl (h.isFile_mono hfile)
    · exact .inr hpanel

theorem history_samePanels (h : Extends (HistoryWrite b t) (.start t) s) (n n' : ℕ) :
    SamePanels (afterPlan t (panelPlan t n')) (afterPlan s.tree (panelPlan t n)) := by
  have hmachine : ∀ {s : SysfsRoot} (n : ℕ), SameMachine t s.tree →
      SameMachine t (afterPlan s.tree (panelPlan t n)) := by
    intro s n hs
    rw [afterPlan_tree]
    exact hs.writeAll (panelPlan_safe n)
  have hdir : ∀ n, ¬Unprobed (backlightBase ++ [n]) := fun n => by
    simp [Unprobed, subsystem, backlightBase]
  have hleft := hmachine n (history_sameMachine h)
  have hright := hmachine (s := .start t) n' (SameMachine.refl t)
  constructor
  · rw [hleft.names_eq hdir, ← hright.names_eq hdir]
    rfl
  · intro device
    rw [hleft.panels device, ← hright.panels device]
    rfl

variable (htool : b.brightnessctl.Steady)

include htool

/-- **Setting the brightness forgets.**  The plan is the one of the initial tree. -/
theorem brightnessPlan_eq (h : Extends (HistoryWrite b t) (.start t) s) (percent : ℕ) :
    brightnessPlan b t s.tree percent = brightnessPlan b t t percent := by
  have hset := htool.values (history_samePanels h (clamp 1 100 percent) (clamp 1 100 percent))
    (clamp 1 100 percent)
  simp only [brightnessPlan, toolPlan, hset,
    panel_isFile h (clamp 1 100 percent) (clamp 1 100 percent)]

/-- Where the brightness is written does not depend on the percentage. -/
theorem written_brightness (h : Extends (HistoryWrite b t) (.start t) s) (percent percent' : ℕ) :
    written (brightnessPlan b t s.tree percent) = written (brightnessPlan b t t percent') := by
  have hset := htool.values (history_samePanels h (clamp 1 100 percent) (clamp 1 100 percent'))
  have htoolPlan : ∀ (now : Tree) (n : ℕ), written (toolPlan b.brightnessctl now n)
      = ((b.brightnessctl.set now n).map Prod.fst).flatMap fun device =>
        if now.isFile (backlightNode device "brightness") then
          [backlightNode device "brightness"] else [] := by
    intro now n
    rw [toolPlan, written_flatMap, List.flatMap_map]
    congr 1
    funext e
    split <;> rfl
  rw [brightnessPlan, brightnessPlan]
  split
  · simp only [written_append, htoolPlan, hset,
      htool.devices _ (clamp 1 100 percent') (clamp 1 100 percent),
      panel_isFile h (clamp 1 100 percent) (clamp 1 100 percent')]
    rw [written_panels]
  · rfl

end History

/-! ### What each event writes -/

/-- The policy an event asks for. -/
def requestedPolicy (b : LinuxBackend) (s : SysfsRoot) : RestoreEvent → Option String
  | .profile .performance => some "performance"
  | .profile .extreme => some "powersave"
  | .profile .normal => some "default"
  | .profile .autoExtreme => none
  | .logic config =>
      if config.autoExtremeEnabled && !b.battery.isCharging s.tree then some "powersave" else none
  | .outside _ => none

/-- The event turns the keyboard lights off. -/
def lightsOff (b : LinuxBackend) (s : SysfsRoot) : RestoreEvent → Bool
  | .profile p => decide (p = .extreme)
  | .logic config => config.autoExtremeEnabled && !b.battery.isCharging s.tree
  | .outside _ => false

/-- What the program writes at an event. -/
def eventPlan (F : Type) [FloatLike F] (b : LinuxBackend) (t now : Tree) :
    RestoreEvent → List (Write Actor)
  | .profile p => profilePlan b t now p
  | .logic config =>
      if config.autoExtremeEnabled then ladderPlan b t F now config.autoExtremeLevel else []
  | .outside _ => []

section Plans

variable {b : LinuxBackend} {t : Tree} {s : SysfsRoot} {w : Write Actor}

theorem mem_restoreNodes_of_hardware {p : Path}
    (h : p ∈ written (hardwarePlan b t LinuxBackend.normalValues t)) : p ∈ restoreNodes b t :=
  List.mem_append_left _ (List.mem_append_left _ h)

theorem mem_restoreNodes_of_panel {p : Path} (h : p ∈ written (brightnessPlan b t t 100)) :
    p ∈ restoreNodes b t :=
  List.mem_append_left _ (List.mem_append_right _ h)

theorem mem_restoreNodes_of_kernel {v : ProfileValues} {p : Path}
    (h : p ∈ written (kernelPlan t v)) : p ∈ restoreNodes b t :=
  List.mem_append_right _ (written_kernel v LinuxBackend.normalValues ▸ h)

variable (hpolicy : HasPolicyNode b t) (htool : b.brightnessctl.Steady)

include hpolicy htool

omit htool in
/-- The hardware part of a profile and its policy. -/
theorem firstPlan_history {v : ProfileValues} (hv : v.epp ∈ eppOrder) (now now' : Tree) :
    ∀ w ∈ hardwarePlan b t v now ++ policyPlan b now' v.aspm, HistoryWrite b t w := by
  intro w hw
  rcases List.mem_append.mp hw with hw | hw
  · have hcover := written_hardware_subset b (v := LinuxBackend.normalValues) (by decide) hv now t
      (mem_written.mpr ⟨w, hw, rfl⟩)
    exact ⟨(follows_hardware b v).safe now w hw,
      .restored (mem_restoreNodes_of_hardware hcover)⟩
  · exact ⟨(follows_policy hpolicy v.aspm).safe now' w hw,
      .policy (policy_of_written (mem_written.mpr ⟨w, hw, rfl⟩))⟩

/-- **What a profile writes on a tree of a history**: the panels and the tweaks are those of the
initial tree. -/
theorem valuesPlan_eq (h : Extends (HistoryWrite b t) (.start t) s) {v : ProfileValues}
    (hv : v.epp ∈ eppOrder) : valuesPlan b t v s.tree
      = hardwarePlan b t v s.tree ++ policyPlan b s.tree v.aspm ++
          brightnessPlan b t t v.brightness ++
          ((if v.kbdOff then kbdPlan t else []) ++ kernelPlan t v) := by
  have hmid := Journal.writeAll_extends h (firstPlan_history hpolicy hv s.tree s.tree)
  have hbrightness := brightnessPlan_eq htool hmid v.brightness
  rw [valuesPlan, restPlan_eq, policyPlan_afterHardware, afterPlan_tree, hbrightness]

/-- What a profile writes on the initial tree. -/
theorem valuesPlan_start {v : ProfileValues} (hv : v.epp ∈ eppOrder) : valuesPlan b t v t
      = hardwarePlan b t v t ++ policyPlan b t v.aspm ++ brightnessPlan b t t v.brightness ++
          ((if v.kbdOff then kbdPlan t else []) ++ kernelPlan t v) := by
  have hinit := valuesPlan_eq hpolicy htool (Extends.refl _ (.start t)) hv
  rwa [Journal.tree_start] at hinit

/-- **A profile at given values writes what a history can write.** -/
theorem valuesPlan_history (h : Extends (HistoryWrite b t) (.start t) s) {v : ProfileValues}
    (hv : v.epp ∈ eppOrder) (hw : w ∈ valuesPlan b t v s.tree) : HistoryWrite b t w := by
  have hsafe : SafeWrite t w := (follows_applyValues v hpolicy).safe s.tree w hw
  rw [valuesPlan_eq hpolicy htool h hv] at hw
  rcases List.mem_append.mp hw with hw | hw
  · rcases List.mem_append.mp hw with hw | hw
    · exact firstPlan_history hpolicy hv s.tree s.tree w hw
    · have hpanel := written_brightness htool (Extends.refl _ (.start t)) v.brightness 100
      have hmem : w.path ∈ written (brightnessPlan b t t 100) :=
        hpanel ▸ mem_written.mpr ⟨w, hw, rfl⟩
      exact ⟨hsafe, .restored (mem_restoreNodes_of_panel hmem)⟩
  · refine ⟨hsafe, ?_⟩
    rcases List.mem_append.mp hw with hw | hw
    · split at hw
      · exact .kbd hw
      · cases hw
    · exact .restored (mem_restoreNodes_of_kernel (mem_written.mpr ⟨w, hw, rfl⟩))

omit htool in
/-- **So does a ladder step.** -/
theorem ladderPlan_history (F : Type) [FloatLike F] (now : Tree) (level : AutoExtremeLevel)
    (hw : w ∈ ladderPlan b t F now level) : HistoryWrite b t w := by
  refine ⟨ladderPlan_safe hpolicy now level w hw, ?_⟩
  have hkernel : ∀ {p : Path}, p ∈ written (wifiPlan t true) ∨ p ∈ written (tweaksPlan t true false
      60) → p ∈ written (kernelPlan t LinuxBackend.extremeValues) := by
    intro p hp
    rw [kernelPlan, written_append]
    exact List.mem_append.mpr hp
  rw [ladderPlan] at hw
  rcases List.mem_append.mp hw with hw | hw
  · exact .restored (mem_restoreNodes_of_hardware
      (written_limits_subset b (by decide) (eppTarget_mem _ _) now t
        (mem_written.mpr ⟨w, hw, rfl⟩)))
  · split at hw
    · simp only [batteryPlan, List.mem_append] at hw
      rcases hw with ((hw | hw) | hw) | hw
      · exact .policy (policy_of_written (mem_written.mpr ⟨w, hw, rfl⟩))
      · exact .restored (mem_restoreNodes_of_kernel
          (hkernel (.inl (mem_written.mpr ⟨w, hw, rfl⟩))))
      · exact .kbd hw
      · exact .restored (mem_restoreNodes_of_kernel
          (hkernel (.inr (mem_written.mpr ⟨w, hw, rfl⟩))))
    · cases hw

/-- **Every event writes what a history can write.** -/
theorem eventPlan_history (F : Type) [FloatLike F] (h : Extends (HistoryWrite b t) (.start t) s)
    (e : RestoreEvent) (hw : w ∈ eventPlan F b t s.tree e) : HistoryWrite b t w := by
  cases e with
  | profile p =>
    cases p with
    | performance => exact valuesPlan_history hpolicy htool h (by decide) hw
    | extreme => exact valuesPlan_history hpolicy htool h (by decide) hw
    | normal => exact valuesPlan_history hpolicy htool h (by decide) hw
    | autoExtreme =>
      have hcover := written_epp_subset b (v := LinuxBackend.normalValues) (by decide) (by decide) t
        (mem_written.mpr ⟨w, hw, rfl⟩)
      exact ⟨eppPlan_safe b.cpu _ w hw, .restored (mem_restoreNodes_of_hardware hcover)⟩
  | logic config =>
    rw [eventPlan] at hw
    split at hw
    · exact ladderPlan_history hpolicy F s.tree config.autoExtremeLevel hw
    · cases hw
  | outside changes => cases hw

end Plans

/-! ### One event -/

/-- The policy an event puts in force. -/
def chosenPolicy (b : LinuxBackend) (k : AspmKernel) (s : SysfsRoot) (e : RestoreEvent) :
    Option String :=
  if b.aspm.isSome then (requestedPolicy b s e).bind k.resolve else none

section Step

variable {F : Type} [FloatLike F] {b : LinuxBackend} {k : AspmKernel} {t : Tree} {s : SysfsRoot}

/-- **What an event writes to the policy and the lights.** -/
theorem planned_event {p : Path} (hp : Apart p) (e : RestoreEvent) :
    planned (eventPlan F b t s.tree e) p
      = (planned (if lightsOff b s e then kbdPlan t else []) p).or
          (planned ((requestedPolicy b s e).elim [] (policyPlan b s.tree)) p) := by
  cases e with
  | profile q =>
    cases q with
    | performance => exact hp.planned_values
    | extreme => exact hp.planned_values
    | normal => exact hp.planned_values
    | autoExtreme =>
      refine planned_eq_none_iff.mpr fun h => hp.not_hardware ?_
      exact isHardware_of_written (written_epp_subset b (v := LinuxBackend.normalValues) (by decide)
        (by decide) t h)
  | logic config =>
    rw [eventPlan, lightsOff, requestedPolicy]
    cases config.autoExtremeEnabled with
    | false => rfl
    | true =>
      rw [if_pos rfl, hp.planned_ladder, Bool.true_and]
      split <;> rfl
  | outside changes => rfl

/-- The program's own events make their writes, and the kernel shows the policy. -/
theorem restoreStep_eq (hpolicy : HasPolicyNode b t) (hr : Reached b k t s) (e : RestoreEvent) :
    restoreStep F b k s e = k.settle (s.writeAll (eventPlan F b t s.tree e)) ∨
      ∃ changes, e = .outside changes := by
  have hsame := history_sameMachine hr.history
  cases e with
  | profile q =>
    left
    rw [restoreStep, (follows_applyProfile hpolicy q).eq s hsame, eventPlan]
  | logic config =>
    left
    rw [restoreStep, eventPlan]
    cases henabled : config.autoExtremeEnabled with
    | false => rw [applyLogicStep_off b s henabled, if_neg Bool.false_ne_true, Journal.writeAll_nil]
    | true => rw [applyLogicStep_eq hpolicy hsame henabled, if_pos rfl]
  | outside changes => exact .inr ⟨changes, rfl⟩

/-- On the nodes the machine does not change by itself, every event is its plan. -/
theorem content_restoreStep (hpolicy : HasPolicyNode b t) (hr : Reached b k t s) (e : RestoreEvent)
    {p : Path} (hp : ¬IsAmbient p) : (restoreStep F b k s e).tree.content p
      = (k.settle (s.writeAll (eventPlan F b t s.tree e))).tree.content p := by
  rcases restoreStep_eq (F := F) hpolicy hr e with heq | ⟨changes, rfl⟩
  · rw [heq]
  · rw [eventPlan, Journal.writeAll_nil, settle_of_shows hr.shows]
    exact content_ambient s changes hp

theorem not_isAmbient_policy : ¬IsAmbient aspmPolicyPath := by decide

theorem not_isAmbient_led (led name : String) : ¬IsAmbient (ledNode led name) := by
  rw [IsAmbient, subsystem_ledNode]
  simp [ledNode, ledsBase, loadavgPath]

theorem planned_lights_policy (c : Bool) :
    planned (if c then kbdPlan t else []) aspmPolicyPath = none := by
  apply planned_eq_none.mpr
  intro w hw heq
  split at hw
  · obtain ⟨led, -, hpath, -⟩ := kbd_of_mem hw
    exact led_ne_policy led _ (hpath.symm.trans heq)
  · cases hw

theorem planned_event_policy (e : RestoreEvent) :
    planned (eventPlan F b t s.tree e) aspmPolicyPath
      = if b.aspm.isSome then (requestedPolicy b s e).bind (resolvePolicy s.tree) else none := by
  rw [planned_event apart_policy, planned_lights_policy, Option.none_or]
  cases requestedPolicy b s e with
  | none => simp
  | some policy =>
    rw [Option.elim_some, planned_policy, Option.bind_some]

theorem planned_event_led {led : String} (hled : led ∈ kbdLeds t) (e : RestoreEvent) :
    planned (eventPlan F b t s.tree e) (ledNode led "brightness")
      = if lightsOff b s e then some "0" else none := by
  have hother : planned ((requestedPolicy b s e).elim [] (policyPlan b s.tree))
      (ledNode led "brightness") = none := by
    apply planned_eq_none_iff.mpr
    intro h
    cases hrequest : requestedPolicy b s e with
    | none =>
      rw [hrequest] at h
      cases h
    | some policy =>
      rw [hrequest] at h
      exact led_ne_policy led _ (policy_of_written h).2
  rw [planned_event (apart_led led), hother, Option.or_none]
  split
  · exact planned_kbd hled
  · rfl

/-- **The policy after an event**: the one chosen, or the one before. -/
theorem policy_step (hpolicy : HasPolicyNode b t) (hr : Reached b k t s) (e : RestoreEvent) :
    (restoreStep F b k s e).tree.content aspmPolicyPath
      = (s.tree.content aspmPolicyPath).map fun line => (chosenPolicy b k s e).elim line k.text := by
  have hplan := planned_event_policy (F := F) (b := b) (t := t) (s := s) e
  have hchosen : ∀ line, s.tree.content aspmPolicyPath = some line →
      planned (eventPlan F b t s.tree e) aspmPolicyPath = chosenPolicy b k s e := by
    intro line hline
    obtain ⟨current, hcurrent, rfl⟩ := hr.shows line hline
    have hresolve : resolvePolicy s.tree = k.resolve :=
      funext (resolvePolicy_of_shown hline hcurrent)
    rw [hplan, chosenPolicy, hresolve]
  rw [content_restoreStep hpolicy hr e not_isAmbient_policy, settle_content_writeAll hr.shows]
  · cases hline : s.tree.content aspmPolicyPath with
    | none => rfl
    | some line => rw [Option.map_some, Option.map_some, hchosen line hline]
  · intro hsome
    rw [hplan] at hsome
    split at hsome
    · rename_i haspm
      exact quiet_of_pathExists (hr.history.pathExists_mono (hpolicy haspm))
    · cases hsome
  · intro v hv hfile
    obtain ⟨line, hline⟩ := Option.isSome_iff_exists.mp hfile
    rw [hchosen line hline, chosenPolicy] at hv
    split at hv
    · obtain ⟨policy, -, hresolve⟩ := Option.bind_eq_some_iff.mp hv
      exact AspmKernel.resolve_mem hresolve
    · cases hv

/-- **A keyboard light after an event**: off, or as before. -/
theorem led_step (hpolicy : HasPolicyNode b t) (hr : Reached b k t s) (e : RestoreEvent)
    {led : String} (hled : led ∈ kbdLeds t) :
    (restoreStep F b k s e).tree.content (ledNode led "brightness")
      = if lightsOff b s e = true ∧ t.writable (ledNode led "brightness") = true then some "0"
        else s.tree.content (ledNode led "brightness") := by
  rw [content_restoreStep hpolicy hr e (not_isAmbient_led led _),
    settle_content_ne _ (led_ne_policy led _), Journal.content_writeAll, planned_event_led hled,
    history_writable hr.history]
  cases lightsOff b s e with
  | false => simp
  | true => simp

/-- What the kernel does to the policy node, a history can do. -/
theorem settle_history (hpolicy : HasPolicyNode b t)
    (h : Extends (HistoryWrite b t) (.start t) s) (hnone : b.aspm.isSome = false → k.Shows s.tree) :
    Extends (HistoryWrite b t) (.start t) (k.settle s) := by
  cases haspm : b.aspm.isSome with
  | false => rwa [settle_of_shows (hnone haspm)]
  | true =>
    have hsub : subsystem aspmPolicyPath = .module := rfl
    rw [AspmKernel.settle]
    split
    · split
      · exact h.write ⟨⟨not_isRange_of_subsystem hsub (by decide),
          ne_panel (p := aspmPolicyPath) (by decide), .inr (hpolicy haspm)⟩, .policy ⟨haspm, rfl⟩⟩
      · exact h
    · exact h

/-- The load and the supplies are ambient nodes that were there before. -/
theorem ambient_history (h : Extends (HistoryWrite b t) (.start t) s)
    (changes : List (Path × String)) :
    Extends (HistoryWrite b t) (.start t) (ambient s changes) := by
  rw [ambient]
  apply h.foldl
  intro e _ s hs
  split
  · rename_i he
    have hsub : subsystem e.1 ∈ [Subsystem.proc, .powerSupply] := by
      rcases he.1 with heq | heq
      · rw [heq]
        decide
      · rw [heq]
        decide
    have hkind : ¬IsRange e.1 ∧ subsystem e.1 ≠ .backlight ∧ ¬Unprobed e.1 := by
      refine ⟨not_isRange_of_subsystem rfl ?_, ?_, not_unprobed_of_subsystem rfl ?_⟩ <;>
      · revert hsub
        generalize subsystem e.1 = sub
        revert sub
        decide
    have hexists : t.pathExists e.1 = true := by
      rw [← (history_sameMachine hs).exists_eq _ hkind.2.2, Tree.pathExists, he.2, Bool.true_or]
    exact hs.write ⟨⟨hkind.1, ne_panel hkind.2.1, .inr hexists⟩, .ambient he.1⟩
  · exact hs

/-- **Every event keeps it.** -/
theorem reached_step (hpolicy : HasPolicyNode b t) (htool : b.brightnessctl.Steady)
    (hr : Reached b k t s) (e : RestoreEvent) : Reached b k t (restoreStep F b k s e) where
  history := by
    rcases restoreStep_eq (F := F) hpolicy hr e with heq | ⟨changes, rfl⟩
    · have hplan := Journal.writeAll_extends hr.history
        fun w hw => eventPlan_history hpolicy htool F hr.history e hw
      rw [heq]
      refine settle_history hpolicy hplan ?_
      intro haspm v hv
      rw [Journal.content_writeAll, planned_event_policy, haspm, if_neg Bool.false_ne_true] at hv
      exact hr.shows v hv
    · exact ambient_history hr.history changes
  shows := by
    intro v hv
    rw [policy_step hpolicy hr, Option.map_eq_some_iff] at hv
    obtain ⟨line, hline, rfl⟩ := hv
    cases hchosen : chosenPolicy b k s e with
    | none => exact hr.shows line hline
    | some policy =>
      rw [chosenPolicy] at hchosen
      split at hchosen
      · obtain ⟨_, -, hresolve⟩ := Option.bind_eq_some_iff.mp hchosen
        exact ⟨policy, AspmKernel.resolve_mem hresolve, rfl⟩
      · cases hchosen

end Step

/-! ### Restoring -/

/-- The keyboard lights are as they were. -/
def LightsAsBefore (t : Tree) (s : SysfsRoot) : Prop :=
  ∀ led ∈ kbdLeds t, nodeValue s.tree (ledNode led "brightness")
    = nodeValue t (ledNode led "brightness")

/-- Where `default` is not listed, the policy is as it was. -/
def PolicyAsBefore (b : LinuxBackend) (k : AspmKernel) (t : Tree) (s : SysfsRoot) : Prop :=
  b.aspm.isSome = true → "default" ∉ k.policies →
    s.tree.content aspmPolicyPath = t.content aspmPolicyPath

section Restore

variable {b : LinuxBackend} {k : AspmKernel} {t : Tree} {s : SysfsRoot}

theorem reached_start (h : k.Shows t) : Reached b k t (.start t) := ⟨Extends.refl _ _, h⟩

/-- The policy node is neither a hardware node nor a panel nor a tweak. -/
theorem policy_not_mem_restoreNodes : aspmPolicyPath ∉ restoreNodes b t := by
  intro h
  rw [restoreNodes, List.mem_append, List.mem_append] at h
  rcases h with (h | h) | h
  · exact apart_policy.not_hardware (isHardware_of_written h)
  · obtain ⟨device, hdevice⟩ := panel_of_written h
    exact apart_policy.not_panel device hdevice
  · exact apart_policy.not_tweak (tweakNode_of_written h)

variable (hpolicy : HasPolicyNode b t)

include hpolicy

/-- A history neither creates nor removes the policy node. -/
theorem policy_isSome (hr : Reached b k t s) (haspm : b.aspm.isSome = true) :
    (s.tree.content aspmPolicyPath).isSome = (t.content aspmPolicyPath).isSome := by
  by_cases hw : t.writable aspmPolicyPath = true
  · have hfile : t.isFile aspmPolicyPath = true := quiet_of_pathExists (hpolicy haspm) hw
    exact (hr.history.isFile_mono hfile).trans hfile.symm
  · rw [history_content_of_not_writable hr.history (Bool.eq_false_iff.mpr hw)]

/-- Restoring leaves the keyboard lights alone. -/
theorem restored_led (hr : Reached b k t s) {led : String} (hled : led ∈ kbdLeds t) :
    (restore b k s).tree.content (ledNode led "brightness")
      = s.tree.content (ledNode led "brightness") := by
  have h := led_step (F := ℚ) hpolicy hr (.profile .normal) hled
  rwa [if_neg (fun h => Bool.false_ne_true h.1)] at h

/-- Restoring asks for `default`. -/
theorem restored_policy (hr : Reached b k t s) :
    (restore b k s).tree.content aspmPolicyPath = (s.tree.content aspmPolicyPath).map fun line =>
      (if b.aspm.isSome then k.resolve "default" else none).elim line k.text :=
  policy_step (F := ℚ) hpolicy hr (.profile .normal)

/-- **The policy is restored** exactly when it is as before, or `default` is listed. -/
theorem policy_restored_iff (hr : Reached b k t s) (hshown : k.Shows t) :
    nodeValue (restore b k s).tree aspmPolicyPath
        = nodeValue (restore b k (.start t)).tree aspmPolicyPath ↔ PolicyAsBefore b k t s := by
  rw [nodeValue, nodeValue, restored_policy hpolicy hr, restored_policy hpolicy
    (reached_start hshown), Journal.tree_start, PolicyAsBefore, AspmKernel.resolve]
  cases haspm : b.aspm.isSome with
  | false =>
    have hsame := history_content hr.history not_isAmbient_policy (fun h => by simp [haspm] at h)
      (fun led _ heq => led_ne_policy led _ heq.symm) policy_not_mem_restoreNodes
    simp [hsame]
  | true =>
    by_cases hdefault : "default" ∈ k.policies
    · have hsome := policy_isSome hpolicy hr haspm
      revert hsome
      cases s.tree.content aspmPolicyPath <;> cases t.content aspmPolicyPath <;> simp [hdefault]
    · cases hline : s.tree.content aspmPolicyPath with
      | none => cases t.content aspmPolicyPath <;> simp [hdefault]
      | some line =>
        cases hline' : t.content aspmPolicyPath with
        | none => simp [hdefault]
        | some line' =>
          obtain ⟨current, hcurrent, rfl⟩ := hr.shows line hline
          obtain ⟨current', -, rfl⟩ := hshown line' hline'
          simp only [hdefault, if_true, if_false, Option.map_some, Option.elim_none,
            Option.some.injEq, not_false_eq_true, forall_const]
          constructor
          · intro h
            rw [text_inj hcurrent h]
          · intro h
            rw [h]

theorem restore_eq (hr : Reached b k t s) :
    restore b k s = k.settle (s.writeAll (valuesPlan b t LinuxBackend.normalValues s.tree)) := by
  rw [restore, (follows_applyProfile hpolicy .normal).eq s (history_sameMachine hr.history)]
  rfl

variable (htool : b.brightnessctl.Steady)

include htool

/-- **What restoring writes** outside the policy node does not depend on the history. -/
theorem planned_restore (hr : Reached b k t s) {p : Path} (hp : p ≠ aspmPolicyPath) :
    planned (valuesPlan b t LinuxBackend.normalValues s.tree) p
      = planned (valuesPlan b t LinuxBackend.normalValues t) p := by
  have hpol : ∀ now, planned (policyPlan b now LinuxBackend.normalValues.aspm) p = none :=
    fun now => planned_eq_none_iff.mpr fun h => hp (policy_of_written h).2
  rw [valuesPlan_eq hpolicy htool hr.history (by decide), valuesPlan_start hpolicy htool (by decide)]
  simp only [planned_append, hpol, planned_hardware b LinuxBackend.normalValues s.tree t]

/-- Restoring writes the restore nodes. -/
theorem planned_restoreNodes {p : Path} (hp : p ∈ restoreNodes b t) :
    planned (valuesPlan b t LinuxBackend.normalValues t) p ≠ none := by
  rw [ne_eq, planned_eq_none_iff, not_not, valuesPlan_start hpolicy htool (by decide)]
  rw [restoreNodes, List.mem_append, List.mem_append] at hp
  simp only [written_append, List.mem_append]
  rcases hp with (hp | hp) | hp
  · exact .inl (.inl (.inl hp))
  · exact .inl (.inr hp)
  · exact .inr (.inr hp)

/-- **Every other node is restored.** -/
theorem node_restored (hr : Reached b k t s) (hshown : k.Shows t) {p : Path} (hambient : ¬IsAmbient p)
    (hp : p ≠ aspmPolicyPath) (hkbd : ∀ led ∈ kbdLeds t, p ≠ ledNode led "brightness") :
    (restore b k s).tree.content p = (restore b k (.start t)).tree.content p := by
  rw [restore_eq hpolicy hr, restore_eq hpolicy (reached_start hshown),
    settle_content_ne _ hp, settle_content_ne _ hp, Journal.content_writeAll,
    Journal.content_writeAll, planned_restore hpolicy htool hr hp, history_writable hr.history]
  cases hplan : planned (valuesPlan b t LinuxBackend.normalValues t) p with
  | none =>
    have hnodes : p ∉ restoreNodes b t := fun h => planned_restoreNodes hpolicy htool h hplan
    rw [Journal.tree_start, hplan]
    exact history_content hr.history hambient (fun _ => hp) hkbd hnodes
  | some v =>
    rw [Journal.tree_start, hplan]
    dsimp only
    by_cases hw : t.writable p = true
    · rw [if_pos hw, if_pos hw]
    · rw [if_neg hw, if_neg hw]
      exact history_content_of_not_writable hr.history (Bool.eq_false_iff.mpr hw)

/-- **When restoring undoes everything.** -/
theorem restored_iff (hr : Reached b k t s) (hshown : k.Shows t) :
    Restored b k t s ↔ LightsAsBefore t s ∧ PolicyAsBefore b k t s := by
  have hlights : ∀ led ∈ kbdLeds t,
      (nodeValue (restore b k s).tree (ledNode led "brightness")
        = nodeValue (restore b k (.start t)).tree (ledNode led "brightness") ↔
      nodeValue s.tree (ledNode led "brightness") = nodeValue t (ledNode led "brightness")) := by
    intro led hled
    rw [nodeValue, nodeValue, restored_led hpolicy hr hled,
      restored_led hpolicy (reached_start hshown) hled]
    rfl
  constructor
  · intro h
    constructor
    · intro led hled
      exact (hlights led hled).mp (h _ (not_isAmbient_led led _))
    · exact (policy_restored_iff hpolicy hr hshown).mp (h _ not_isAmbient_policy)
  · rintro ⟨hled, hpol⟩ p hp
    by_cases hpath : p = aspmPolicyPath
    · subst hpath
      exact (policy_restored_iff hpolicy hr hshown).mpr hpol
    · by_cases hkbd : ∃ led ∈ kbdLeds t, p = ledNode led "brightness"
      · obtain ⟨led, hmem, rfl⟩ := hkbd
        exact (hlights led hmem).mpr (hled led hmem)
      · push Not at hkbd
        rw [nodeValue, nodeValue, node_restored hpolicy htool hr hshown hp hpath hkbd]

end Restore

/-! ### Histories that can be undone -/

/-- The event turns off no light that is on, and where `default` is not listed it asks for no other
policy than the current one. -/
def Undoable (b : LinuxBackend) (k : AspmKernel) (s : SysfsRoot) (e : RestoreEvent) : Prop :=
  (lightsOff b s e = true → ∀ led ∈ kbdLeds s.tree,
    s.tree.writable (ledNode led "brightness") = true →
      nodeValue s.tree (ledNode led "brightness") = some "0") ∧
  (b.aspm.isSome = true → "default" ∉ k.policies → ∀ policy ∈ k.policies,
    requestedPolicy b s e = some policy →
      ∀ line, s.tree.content aspmPolicyPath = some line → line = k.text policy)

section Undo

variable {F : Type} [FloatLike F] {b : LinuxBackend} {k : AspmKernel} {t : Tree} {s : SysfsRoot}
  (hpolicy : HasPolicyNode b t) (hr : Reached b k t s)

include hpolicy hr

/-- One event and the lights. -/
theorem lights_step_iff (hlights : LightsAsBefore t s) (e : RestoreEvent) :
    LightsAsBefore t (restoreStep F b k s e) ↔ (lightsOff b s e = true → ∀ led ∈ kbdLeds s.tree,
      s.tree.writable (ledNode led "brightness") = true →
        nodeValue s.tree (ledNode led "brightness") = some "0") := by
  have hzero : some (trim "0") = some "0" := by decide
  rw [kbdLeds_eq (history_sameMachine hr.history)]
  constructor
  · intro h hoff led hled hw
    have hafter := h led hled
    rw [← hlights led hled, nodeValue, led_step hpolicy hr e hled, ← history_writable hr.history,
      if_pos ⟨hoff, hw⟩] at hafter
    exact hafter.symm.trans hzero
  · intro h led hled
    rw [← hlights led hled, nodeValue, led_step hpolicy hr e hled, ← history_writable hr.history]
    split
    · rename_i hoff
      exact hzero.trans (h hoff.1 led hled hoff.2).symm
    · rfl

/-- One event and the policy. -/
theorem policy_step_iff (hbefore : PolicyAsBefore b k t s) (e : RestoreEvent) :
    PolicyAsBefore b k t (restoreStep F b k s e) ↔
      (b.aspm.isSome = true → "default" ∉ k.policies → ∀ policy ∈ k.policies,
        requestedPolicy b s e = some policy →
          ∀ line, s.tree.content aspmPolicyPath = some line → line = k.text policy) := by
  refine forall₂_congr fun haspm hdefault => ?_
  have hresolve : ∀ policy, k.resolve policy = if policy ∈ k.policies then some policy else none := by
    intro policy
    rw [AspmKernel.resolve, if_neg hdefault]
  rw [← hbefore haspm hdefault, policy_step hpolicy hr, chosenPolicy, if_pos haspm]
  cases hline : s.tree.content aspmPolicyPath with
  | none => simp
  | some line =>
    cases hrequest : requestedPolicy b s e with
    | none => simp
    | some policy =>
      rw [Option.bind_some, hresolve, Option.map_some]
      by_cases hlisted : policy ∈ k.policies
      · rw [if_pos hlisted, Option.elim_some, Option.some.injEq]
        constructor
        · intro hcurrent other _ hother line' hline'
          rw [← Option.some.inj hother, ← Option.some.inj hline', hcurrent]
        · intro h
          exact (h policy hlisted rfl line rfl).symm
      · rw [if_neg hlisted]
        simp only [Option.elim_none, true_iff, Option.some.injEq]
        rintro other hother rfl
        exact absurd hother hlisted

end Undo

/-- **Restoring undoes a history, exactly.**  On every machine, under every kernel and for every
sequence of profiles, ladder steps and changes of load and power supply: restoring gives, in every
state of the run, what restoring the initial tree gives, if and only if no step turns a light off
that is on and, where `default` is not listed, none asks for another listed policy. -/
theorem restore_undoes_iff (F : Type) [FloatLike F] (host : Host)
    (htool : host.brightnessctl.Steady) (k : AspmKernel) (t : Tree) (hshown : k.Shows t)
    (events : List RestoreEvent) :
    let b := LinuxBackend.withRoot host t
    Always (Restored b k t) (restoreStep F b k) (.start t) events ↔
      StepsMeet (Undoable b k) (restoreStep F b k) (.start t) events := by
  intro b
  have hpolicy : HasPolicyNode b t := hasPolicyNode_withRoot host t
  have hsteady : b.brightnessctl.Steady := htool
  apply always_iff_stepsMeet (Reached b k t) (reached_start hshown)
  · intro s e hr
    exact reached_step hpolicy hsteady hr e
  · intro p _
    rfl
  · intro s e hr hs
    have hbefore := (restored_iff hpolicy hsteady hr hshown).mp hs
    rw [restored_iff hpolicy hsteady (reached_step hpolicy hsteady hr e) hshown,
      lights_step_iff hpolicy hr hbefore.1 e, policy_step_iff hpolicy hr hbefore.2 e]
    rfl

/-! ### A laptop -/

/-- A `brightnessctl` that sets the first panel, rounding down. -/
def Brightnessctl.firstPanel : Brightnessctl where
  set t n := (LinuxBacklight.devices t).head?.toList.map fun device =>
    (device, toString ((n * LinuxBacklight.maxBrightness t device).tdiv 100))
  machineReadable _ := ""

theorem Brightnessctl.firstPanel_steady : Brightnessctl.firstPanel.Steady where
  values h n := by
    have hmax : ∀ device, LinuxBacklight.maxBrightness _ device
        = LinuxBacklight.maxBrightness _ device := fun device =>
      congrArg (Option.getD · 0) (SysfsRoot.readI64_congr (h.maxima device))
    simp only [Brightnessctl.firstPanel, LinuxBacklight.devices, h.devices, hmax]
  devices t n n' := by simp [Brightnessctl.firstPanel, Function.comp_def]

/-- One CPU, and the tool. -/
def Host.panel : Host := { Host.plain with brightnessctl := .firstPanel }

/-- The policies of a PCIe port. -/
def pcieAspm : AspmKernel where
  policies := ["default", "performance", "powersave", "powersupersave"]
  names := by
    have hnames : (["default", "performance", "powersave", "powersupersave"].all fun p =>
        decide (p ≠ "") && p.toList.all isPolicyChar) = true := by decide
    simpa only [List.all_eq_true, Bool.and_eq_true, decide_eq_true_eq] using hnames

/-- A panel, the policy, and a keyboard light. -/
def litLaptop (light : String) : Tree :=
  .ofFiles [(cpuRel 0 ++ ["uevent"], ""),
    (aspmPolicyPath, "[default] performance powersave powersupersave \n"),
    (backlightNode "intel_backlight" "max_brightness", "100\n"),
    (backlightNode "intel_backlight" "brightness", "70\n"),
    (ledNode "tpacpi::kbd_backlight" "max_brightness", "2\n"),
    (ledNode "tpacpi::kbd_backlight" "brightness", light)]

theorem litLaptop_shows (light : String) : pcieAspm.Shows (litLaptop light) := by
  have htext : pcieAspm.text "default" = "[default] performance powersave powersupersave \n" := by
    decide +kernel
  have hline : (litLaptop light).content aspmPolicyPath = some (pcieAspm.text "default") := by
    rw [htext]
    rfl
  intro v hv
  exact ⟨"default", by decide, Option.some.inj (hv.symm.trans hline)⟩

/-- With the light off from the start, Extreme is undone. -/
theorem litLaptop_undone :
    let b := LinuxBackend.withRoot .panel (litLaptop "0\n")
    Always (Restored b pcieAspm (litLaptop "0\n")) (restoreStep ℚ b pcieAspm)
      (.start (litLaptop "0\n")) [.profile .performance, .profile .extreme] := by
  intro b
  refine (restore_undoes_iff ℚ .panel Brightnessctl.firstPanel_steady pcieAspm _
    (litLaptop_shows "0\n") _).mpr ⟨⟨?_, ?_⟩, ⟨?_, ?_⟩, trivial⟩
  · decide
  · exact fun _ h => absurd (by decide) h
  · decide +kernel
  · exact fun _ h => absurd (by decide) h

/-- With the light on, Extreme turns it off, and Normal leaves it off. -/
theorem light_stays_off :
    let b := LinuxBackend.withRoot .panel (litLaptop "2\n")
    let light := ledNode "tpacpi::kbd_backlight" "brightness"
    let darkened := run (restoreStep ℚ b pcieAspm) (.start (litLaptop "2\n")) [.profile .extreme]
    nodeValue (restore b pcieAspm (.start (litLaptop "2\n"))).tree light = some "2" ∧
      nodeValue (restore b pcieAspm darkened).tree light = some "0" ∧
      ¬Always (Restored b pcieAspm (litLaptop "2\n")) (restoreStep ℚ b pcieAspm)
        (.start (litLaptop "2\n")) [.profile .extreme] := by
  intro b light darkened
  have hon : nodeValue (restore b pcieAspm (.start (litLaptop "2\n"))).tree light = some "2" := by
    decide +kernel
  have hoff : nodeValue (restore b pcieAspm darkened).tree light = some "0" := by decide +kernel
  refine ⟨hon, hoff, fun h => ?_⟩
  have hrestored : nodeValue (restore b pcieAspm darkened).tree light
      = nodeValue (restore b pcieAspm (.start (litLaptop "2\n"))).tree light := h.run light (by decide)
  rw [hon, hoff] at hrestored
  revert hrestored
  decide

end WattWarden
