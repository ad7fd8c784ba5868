import WattWarden.FrontEnds.RunLoop

/-!
# What a key of the dashboard does

Two views of a key.  To the panel, what is selected, asked and shown, the dashboard is a small machine
of its own, whatever the hardware does.  To the system, a key is the list of the calls it makes.

* `Panel` / `Panel.press` — the panel machine;
* `panel_press` / `panel_turn` — **PROVED**: the dashboard's panel is that machine;
* `App.pauses` / `App.chosen` — whether a key stops the daemon, and the profile it applies;
* `Calls` / `Did` — calls that stop the daemon first, signal when they should and apply one profile;
* `did_press` / `did_turn` — **PROVED**: so are the calls of every key and every turn.
-/

namespace WattWarden

open Library.Caching

/-! ### The panel -/

/-- What is selected, asked and shown. -/
structure Panel where
  selected : ℕ
  confirmExtreme : Bool
  shouldQuit : Bool
  refreshDelay : ℕ
  rows : Cache (List RowInfo)

namespace App

def panel (app : App) : Panel where
  selected := app.selected
  confirmExtreme := app.confirmExtreme
  shouldQuit := app.shouldQuit
  refreshDelay := app.refreshDelay
  rows := app.rows

end App

namespace Panel

def item (p : Panel) : ActionItem := menuItems.getD p.selected (.header "")

/-- What a command does to the panel. -/
def execute (p : Panel) : Command → Panel
  | .quit => { p with shouldQuit := true }
  | .restore => { p with confirmExtreme := false }
  | .speedUp =>
      if minRefreshDelay < p.refreshDelay then
        { p with refreshDelay := max (p.refreshDelay - refreshStep) minRefreshDelay }
      else p
  | .speedDown =>
      if p.refreshDelay < maxRefreshDelay then
        { p with refreshDelay := min (p.refreshDelay + refreshStep) maxRefreshDelay }
      else p
  | .move forward => { p with selected := stepSelection menuItems p.selected forward }
  | .side _ => p
  | .enter =>
      match p.item with
      | .profileExtreme => { p with confirmExtreme := true }
      | .profileRestore => { p with confirmExtreme := false }
      | _ => p

/-- A key on the panel. -/
def press (key : Key) (p : Panel) : Panel :=
  if p.confirmExtreme then if key.answer.isSome then { p with confirmExtreme := false } else p
  else
    let p := key.command.elim p p.execute
    { p with rows := p.rows.spoil }

variable {p : Panel} {key : Key}

/-- The confirmation takes over the keyboard. -/
theorem press_asked (h : p.confirmExtreme = true) :
    p.press key = if key.answer.isSome then { p with confirmExtreme := false } else p := if_pos h

theorem press_free (h : p.confirmExtreme = false) :
    p.press key = { key.command.elim p p.execute with
      rows := (key.command.elim p p.execute).rows.spoil } := by
  rw [press, h]
  rfl

end Panel

namespace App

variable {b : LinuxBackend} {o : KeyOutcomes} {app : App}

@[simp] theorem panel_call (c : DashboardCall) : (app.call c).panel = app.panel := rfl

@[simp] theorem panel_setToast (msg : String) : (app.setToast msg).panel = app.panel := rfl

@[simp] theorem panel_setSetting (landed : Bool) (setting : Setting) :
    (app.setSetting landed setting).panel = app.panel := rfl

@[simp] theorem panel_stopDaemon : (app.stopDaemon o).panel = app.panel := rfl

@[simp] theorem panel_stopBackgroundDaemon : (app.stopBackgroundDaemon o).panel = app.panel := rfl

@[simp] theorem panel_refreshDaemonState (now : ℤ) (probe : Bool) :
    (app.refreshDaemonState now probe).panel = app.panel := by
  rw [refreshDaemonState]
  split <;> rfl

@[simp] theorem panel_startDaemon : (app.startDaemon o).panel = app.panel := by
  have hrestart : ∀ app : App, (app.restartUnit o).panel = app.panel := by
    intro app
    rw [restartUnit]
    split <;> rfl
  rw [startDaemon]
  split
  · exact hrestart _
  · show (if o.probe then _ else _ : App).panel = app.panel
    split
    · exact hrestart _
    · exact hrestart _

@[simp] theorem panel_chooseProfile (profile : PowerProfile) (msg : String) :
    (app.chooseProfile b o profile msg).panel = app.panel := rfl

@[simp] theorem panel_setChargeLimit (limit : Option ℕ) :
    (app.setChargeLimit o limit).panel = app.panel := rfl

@[simp] theorem panel_runCalibration (outcome : Calibrate.Outcome SysfsRoot) :
    (app.runCalibration outcome).panel = app.panel := rfl

@[simp] theorem panel_adjust (direction : Direction) (row : HardwareRow) :
    (app.adjust b o direction row).panel = app.panel := by
  rw [adjust]
  split
  · cases row.toggles <;> rfl
  · cases row.toggles <;> rfl

@[simp] theorem panel_adjustBrightness (direction : Direction) :
    (app.adjustBrightness b o direction).panel = app.panel := by
  rw [adjustBrightness]
  split
  · split <;> rfl
  · rfl

/-- **Left and right** leave the panel alone. -/
theorem panel_handleSide (direction : Direction) : (app.handleSide b o direction).panel = app.panel := by
  have hstop : (if app.item.stopsDaemonOnAdjust then app.stopDaemon o else app).panel = app.panel := by
    split <;> rfl
  rw [handleSide]
  split
  · exact hstop
  · rw [panel_adjustBrightness]
    exact hstop
  · exact hstop
  · split
    · rw [panel_adjust]
      exact hstop
    · exact hstop

/-- **Enter** asks for a confirmation, or leaves the panel alone. -/
theorem panel_handleEnter : (app.handleEnter b o).panel = app.panel.execute .enter := by
  show _ = match app.item with
    | .profileExtreme => { app.panel with confirmExtreme := true }
    | .profileRestore => { app.panel with confirmExtreme := false }
    | _ => app.panel
  rw [handleEnter]
  cases app.item with
  | profileAutoExtreme =>
    show (if _ then _ else _ : App).panel = app.panel
    split <;> simp
  | _ => rfl

theorem panel_execute (c : Command) : (app.execute b o c).panel = app.panel.execute c := by
  cases c with
  | speedUp =>
    show app.speedUp.panel = if minRefreshDelay < app.refreshDelay then _ else _
    rw [speedUp]
    split <;> rfl
  | speedDown =>
    show app.speedDown.panel = if app.refreshDelay < maxRefreshDelay then _ else _
    rw [speedDown]
    split <;> rfl
  | side direction => exact panel_handleSide direction
  | enter => exact panel_handleEnter
  | _ => rfl

/-- **The panel is a machine of its own.** -/
theorem panel_press (key : Key) : (app.press b o key).panel = app.panel.press key := by
  rw [press, Panel.press]
  show _ = if app.confirmExtreme then _ else _
  split
  · cases hanswer : key.answer with
    | none => rfl
    | some yes => cases yes <;> rfl
  · cases hcommand : key.command with
    | none => rfl
    | some c =>
      have hexecute : (app.execute b o c).panel = app.panel.execute c := panel_execute c
      show { (app.execute b o c).panel with rows := (app.execute b o c).panel.rows.spoil } = _
      rw [hexecute]
      rfl

end App

/-- A turn on the panel; the rows of its frame are read from `shown`. -/
def Panel.turn (p : Panel) (t : Turn) (shown : RowSources) : Panel :=
  if p.shouldQuit then p
  else if t.quitRequested then { p with shouldQuit := true }
  else
    let p := { p with rows := p.rows.refresh rowsTtl (menuRows menuItems) t.now shown }
    t.key.elim p fun k => p.press k.1

/-- A frame changes the rows of the panel only. -/
theorem App.panel_frame (b : LinuxBackend) (t : Turn) (app : App) : (app.frame b t).panel
    = { app.panel with rows := app.rows.refresh rowsTtl (menuRows menuItems) t.now (app.seen b t) } := by
  obtain ⟨probed, hprobed⟩ : ∃ probed, probed = (app.disturbed t).refreshDaemonState t.now t.probe :=
    ⟨_, rfl⟩
  have hpanel : probed.panel = app.panel := by
    rw [hprobed]
    exact panel_refreshDaemonState _ _
  have hrows : probed.rows = app.rows := congrArg Panel.rows hpanel
  rw [frame, ← hprobed, ← hpanel, ← hrows]
  rfl

theorem App.panel_turn (b : LinuxBackend) (app : App) (t : Turn) :
    (app.turn b t).panel = app.panel.turn t (app.seen b t) := by
  rw [turn, Panel.turn]
  show _ = if app.shouldQuit then _ else _
  split
  · rfl
  · split
    · rfl
    · cases t.key with
      | none => exact panel_frame b t app
      | some k =>
        show ((app.frame b t).press b k.2 k.1).panel = Panel.press k.1 _
        rw [panel_press, panel_frame]
        rfl

/-! ### The calls -/

namespace DashboardCall

/-- The calls after which a daemon may run. -/
def starts : DashboardCall → Bool
  | spawnDaemon => true
  | systemctl verb => decide (verb = "restart")
  | _ => false

/-- The calls that change what the daemon controls. -/
def adjusts : DashboardCall → Bool
  | applyProfile _ | adjust _ => true
  | _ => false

/-- Whether the daemon was told to stop and nothing has started one since. -/
def pausedAfter (paused : Bool) (c : DashboardCall) : Bool :=
  if c = .signalDaemon then true else if c.starts then false else paused

end DashboardCall

/-- Every adjustment finds the daemon stopped. -/
def AdjustsPaused : Bool → List DashboardCall → Prop
  | _, [] => True
  | paused, c :: cs => (c.adjusts = true → paused = true) ∧ AdjustsPaused (c.pausedAfter paused) cs

theorem AdjustsPaused.mono {cs : List DashboardCall} {paused : Bool} (h : AdjustsPaused false cs) :
    AdjustsPaused paused cs := by
  cases paused with
  | false => exact h
  | true =>
    induction cs with
    | nil => trivial
    | cons c cs ih =>
      refine ⟨fun _ => rfl, ?_⟩
      have hrest := h.2
      rw [DashboardCall.pausedAfter] at hrest ⊢
      split
      · simpa [*] using hrest
      · split
        · simpa [*] using hrest
        · rename_i hsignal hstarts
          rw [if_neg hsignal, if_neg hstarts] at hrest
          exact ih hrest

theorem AdjustsPaused.append {cs cs' : List DashboardCall} {paused : Bool}
    (h : AdjustsPaused paused cs) (h' : AdjustsPaused false cs') : AdjustsPaused paused (cs ++ cs') := by
  induction cs generalizing paused with
  | nil => exact h'.mono
  | cons c cs ih => exact ⟨h.1, ih h.2⟩

/-- Between the signal and an adjustment nothing starts a daemon. -/
theorem AdjustsPaused.signalled {cs before after : List DashboardCall} {c : DashboardCall}
    {paused : Bool} (h : AdjustsPaused paused cs) (hcs : cs = before ++ c :: after)
    (hc : c.adjusts = true) :
    (∃ earlier since, before = earlier ++ .signalDaemon :: since ∧ ∀ s ∈ since, s.starts = false) ∨
      (paused = true ∧ ∀ s ∈ before, s.starts = false) := by
  induction before generalizing cs paused with
  | nil =>
    subst hcs
    exact .inr ⟨h.1 hc, fun _ hs => absurd hs List.not_mem_nil⟩
  | cons d before ih =>
    subst hcs
    rcases ih h.2 rfl with ⟨earlier, since, rfl, hsince⟩ | ⟨hpaused, hbefore⟩
    · exact .inl ⟨d :: earlier, since, rfl, hsince⟩
    · rw [DashboardCall.pausedAfter] at hpaused
      split at hpaused
      · rename_i hsignal
        exact .inl ⟨[], before, by rw [hsignal]; rfl, hbefore⟩
      · split at hpaused
        · cases hpaused
        · rename_i hstarts
          rw [Bool.not_eq_true] at hstarts
          exact .inr ⟨hpaused, List.forall_mem_cons.mpr ⟨hstarts, hbefore⟩⟩

/-- The calls made between two states: the daemon is signalled when it should be and before anything
is adjusted, and no other profile is applied than the one chosen. -/
structure Calls (signals : Bool) (chosen : Option PowerProfile) (before after : App)
    (cs : List DashboardCall) : Prop where
  calls_eq : after.calls = before.calls ++ cs
  paused : AdjustsPaused false cs
  signals_iff : .signalDaemon ∈ cs ↔ signals = true
  chosen_of_mem : ∀ p, .applyProfile p ∈ cs → chosen = some p

/-- The calls that neither signal the daemon nor adjust anything. -/
def DashboardCall.quiet (c : DashboardCall) : Bool := decide (c ≠ .signalDaemon) && !c.adjusts

/-- Only quiet calls were made between two states. -/
def QuietBetween (before after : App) : Prop :=
  ∃ cs, after.calls = before.calls ++ cs ∧ ∀ c ∈ cs, c.quiet = true

/-- What the calls between two states do. -/
def Did (signals : Bool) (chosen : Option PowerProfile) (before after : App) : Prop :=
  ∃ cs, Calls signals chosen before after cs

section Composing

variable {before middle after : App} {signals : Bool} {chosen : Option PowerProfile}

theorem quiet_of_eq (h : after.calls = before.calls) : QuietBetween before after :=
  ⟨[], by rw [h, List.append_nil], fun _ hc => absurd hc List.not_mem_nil⟩

theorem quiet_one {c : DashboardCall} (h : after.calls = before.calls ++ [c]) (hc : c.quiet = true) :
    QuietBetween before after := by
  refine ⟨[c], h, ?_⟩
  intro c' hc'
  rwa [List.mem_singleton.mp hc']

theorem QuietBetween.trans (h : QuietBetween before middle) (h' : QuietBetween middle after) : QuietBetween before after := by
  obtain ⟨cs, hcs, hquiet⟩ := h
  obtain ⟨cs', hcs', hquiet'⟩ := h'
  refine ⟨cs ++ cs', by rw [hcs', hcs, List.append_assoc], ?_⟩
  intro c hc
  rcases List.mem_append.mp hc with hc | hc
  · exact hquiet c hc
  · exact hquiet' c hc

theorem not_mem_of_quiet {cs : List DashboardCall} (h : ∀ c ∈ cs, c.quiet = true)
    {c : DashboardCall} (hc : c.quiet = false) : c ∉ cs := by
  intro hmem
  rw [h c hmem] at hc
  cases hc

theorem adjustsPaused_of_quiet {cs : List DashboardCall} {paused : Bool}
    (h : ∀ c ∈ cs, c.quiet = true) : AdjustsPaused paused cs := by
  induction cs generalizing paused with
  | nil => trivial
  | cons c cs ih =>
    rw [List.forall_mem_cons] at h
    refine ⟨fun hadjusts => ?_, ih h.2⟩
    rw [DashboardCall.quiet, hadjusts] at h
    exact absurd h.1 (by simp)

theorem QuietBetween.did (h : QuietBetween before after) : Did false none before after := by
  obtain ⟨cs, hcs, hquiet⟩ := h
  refine ⟨cs, hcs, adjustsPaused_of_quiet hquiet, ?_, ?_⟩
  · simp [not_mem_of_quiet hquiet (c := .signalDaemon) rfl]
  · intro p hp
    exact absurd hp (not_mem_of_quiet hquiet rfl)

theorem did_same (h : after.calls = before.calls) : Did false none before after := (quiet_of_eq h).did

/-- A toast, or the confirmation, makes no calls. -/
theorem Did.of_eq (h : Did signals chosen before middle) (hafter : after.calls = middle.calls) :
    Did signals chosen before after := by
  obtain ⟨cs, hcs, hpaused, hsignals, hchosen⟩ := h
  exact ⟨cs, hafter.trans hcs, hpaused, hsignals, hchosen⟩

theorem Did.of_eq_left (hbefore : middle.calls = before.calls) (h : Did signals chosen middle after) :
    Did signals chosen before after := by
  obtain ⟨cs, hcs, hpaused, hsignals, hchosen⟩ := h
  exact ⟨cs, by rw [hcs, hbefore], hpaused, hsignals, hchosen⟩

theorem Did.trans {signals' : Bool} (h : Did signals none before middle)
    (h' : Did signals' chosen middle after) : Did (signals || signals') chosen before after := by
  obtain ⟨cs, hcs, hpaused, hsignals, hchosen⟩ := h
  obtain ⟨cs', hcs', hpaused', hsignals', hchosen'⟩ := h'
  refine ⟨cs ++ cs', by rw [hcs', hcs, List.append_assoc], hpaused.append hpaused', ?_, ?_⟩
  · rw [List.mem_append, hsignals, hsignals', Bool.or_eq_true]
  · intro p hp
    rcases List.mem_append.mp hp with hp | hp
    · cases hchosen p hp
    · exact hchosen' p hp

end Composing

namespace App

/-- Whether a command stops the daemon. -/
def pauses (o : KeyOutcomes) (app : App) : Command → Bool
  | .restore => true
  | .side _ => app.item.stopsDaemonOnAdjust
  | .enter =>
      match app.item with
      | .profilePerformance | .profileRestore | .calibrate | .calibRestore => true
      | .profileAutoExtreme => (app.refreshDaemonState o.now o.probe).dashboard.daemonActive
      | _ => false
  | _ => false

/-- The profile a command applies. -/
def chosen (app : App) : Command → Option PowerProfile
  | .restore => some .normal
  | .enter =>
      match app.item with
      | .profilePerformance => some .performance
      | .profileRestore => some .normal
      | _ => none
  | _ => none

variable {b : LinuxBackend} {o : KeyOutcomes} {app : App}

theorem quiet_setSetting (app : App) (landed : Bool) (setting : Setting) :
    QuietBetween app (app.setSetting landed setting) := quiet_one rfl rfl

theorem quiet_announced (app : App) (landed : Bool) (setting : Setting) (msg : String) :
    QuietBetween app ((app.setSetting landed setting).setToast msg) := quiet_one rfl rfl

theorem did_stopDaemon (app : App) : Did true none app (app.stopDaemon o) :=
  ⟨[.signalDaemon], rfl, by simp [AdjustsPaused, DashboardCall.adjusts], by simp, by simp⟩

theorem quiet_refreshDaemonState (app : App) (now : ℤ) (probe : Bool) :
    QuietBetween app (app.refreshDaemonState now probe) := by
  apply quiet_of_eq
  rw [refreshDaemonState]
  split <;> rfl

theorem did_stopBackgroundDaemon (app : App) : Did true none app (app.stopBackgroundDaemon o) := by
  have hsaved := (quiet_setSetting app o.saves (.autoExtremeEnabled false)).did
  have hstopped : Did true none (app.setSetting o.saves (.autoExtremeEnabled false))
      ((app.setSetting o.saves (.autoExtremeEnabled false)).stopDaemon o) := did_stopDaemon _
  have hunit : QuietBetween ((app.setSetting o.saves (.autoExtremeEnabled false)).stopDaemon o)
      (app.stopBackgroundDaemon o) := quiet_one (c := .systemctl "stop") rfl rfl
  exact (hsaved.trans hstopped).trans hunit.did

theorem quiet_restartUnit : QuietBetween app (app.restartUnit o) := by
  rw [restartUnit]
  split
  · exact (quiet_one (c := .systemctl "reset-failed") rfl rfl).trans
      (quiet_one (c := .systemctl "restart") rfl rfl)
  · exact quiet_of_eq rfl

theorem quiet_startDaemon : QuietBetween app (app.startDaemon o) := by
  have hrestarted : QuietBetween app ((app.setSetting o.saves (.autoExtremeEnabled true)).restartUnit o) :=
    (quiet_setSetting _ _ _).trans quiet_restartUnit
  rw [startDaemon]
  split
  · exact hrestarted.trans (quiet_of_eq rfl)
  · cases hprobe : o.probe with
    | true => exact hrestarted.trans (quiet_of_eq rfl)
    | false => exact hrestarted.trans (quiet_one (c := .spawnDaemon) rfl rfl)

/-- A profile is applied to a machine whose daemon was just told to stop. -/
theorem did_chooseProfile (app : App) (profile : PowerProfile) (msg : String) :
    Did true (some profile) app (app.chooseProfile b o profile msg) := by
  obtain ⟨cleared, hcleared⟩ : ∃ cleared,
      cleared = Setting.apply app.dashboard.config (.autoExtremeEnabled false) := ⟨_, rfl⟩
  have hcalls : (app.chooseProfile b o profile msg).calls = app.calls ++ [.saveConfig cleared,
      .signalDaemon, .systemctl "stop", .applyProfile profile,
      .saveConfig (Setting.apply cleared (.profile (some profile)))] := by
    rw [hcleared]
    show app.calls ++ [_] ++ [_] ++ [_] ++ [_] ++ [_] = _
    rw [List.append_assoc, List.append_assoc, List.append_assoc, List.append_assoc]
    rfl
  refine ⟨_, hcalls, ?_, by simp, by simp [eq_comm]⟩
  simp [AdjustsPaused, DashboardCall.adjusts, DashboardCall.pausedAfter, DashboardCall.starts]

/-- `confirm_extreme` is cleared first. -/
theorem did_restore (app : App) (msg : String) :
    Did true (some .normal) app (app.restore b o msg) := by
  refine Did.of_eq_left ?_ (did_chooseProfile { app with confirmExtreme := false } .normal msg)
  rfl

theorem did_confirmExtremeMode (app : App) :
    Did true (some .extreme) app (app.confirmExtremeMode b o) := by
  refine Did.of_eq_left ?_ (did_chooseProfile { app with confirmExtreme := false } .extreme _)
  rfl

theorem quiet_setChargeLimit (limit : Option ℕ) : QuietBetween app (app.setChargeLimit o limit) :=
  quiet_one (c := .chargeLimit limit) rfl rfl

theorem quiet_runCalibration (outcome : Calibrate.Outcome SysfsRoot) :
    QuietBetween app (app.runCalibration outcome) := quiet_one (c := .calibrate) rfl rfl

theorem quiet_adjustBrightness (direction : Direction) :
    QuietBetween app (app.adjustBrightness b o direction) := by
  rw [adjustBrightness]
  split
  · split
    · exact (quiet_one (c := .setBrightness) rfl rfl).trans (quiet_announced _ _ _ _)
    · exact quiet_one (c := .setBrightness) rfl rfl
  · exact quiet_of_eq rfl

/-- A hardware row, its signals included. -/
theorem did_adjust (direction : Direction) (row : HardwareRow) :
    Did true none app ((app.stopDaemon o).adjust b o direction row) := by
  rw [adjust]
  cases row.toggles with
  | true =>
    split
    · refine ⟨[.signalDaemon, .signalDaemon, .adjust row], ?_, ?_, by simp, by simp⟩
      · show app.calls ++ [_] ++ [_] ++ [_] = _
        rw [List.append_assoc, List.append_assoc]
        rfl
      · simp [AdjustsPaused, DashboardCall.adjusts, DashboardCall.pausedAfter]
    · exact (did_stopDaemon app).trans (did_stopDaemon _)
  | false =>
    split
    · refine ⟨[.signalDaemon, .adjust row], ?_, ?_, by simp, by simp⟩
      · show app.calls ++ [_] ++ [_] = _
        rw [List.append_assoc]
        rfl
      · simp [AdjustsPaused, DashboardCall.adjusts, DashboardCall.pausedAfter]
    · exact did_stopDaemon app

theorem did_handleSide (direction : Direction) :
    Did app.item.stopsDaemonOnAdjust none app (app.handleSide b o direction) := by
  rw [handleSide]
  cases hitem : app.item with
  | autoBrightness => exact (quiet_announced app _ _ _).did
  | brightness => exact (quiet_adjustBrightness direction).did
  | chargeLimit => exact (quiet_setChargeLimit _).did
  | _ => first | exact did_adjust direction _ | exact did_same rfl

theorem did_handleEnter : Did (app.pauses o .enter) (app.chosen .enter) app (app.handleEnter b o) := by
  rw [handleEnter, pauses, chosen]
  cases app.item with
  | profilePerformance => exact did_chooseProfile app _ _
  | profileRestore => exact did_restore app _
  | profileAutoExtreme =>
    have hprobed := (quiet_refreshDaemonState app o.now o.probe).did
    show Did (app.refreshDaemonState o.now o.probe).dashboard.daemonActive none app (if _ then _ else _)
    cases (app.refreshDaemonState o.now o.probe).dashboard.daemonActive with
    | true => exact (hprobed.trans (did_stopBackgroundDaemon _)).of_eq rfl
    | false => exact (hprobed.trans quiet_startDaemon.did).of_eq rfl
  | autoExtremeLevel => exact (quiet_announced app _ _ _).did
  | autoBrightness => exact (quiet_announced app _ _ _).did
  | chargeLimit => exact (quiet_setChargeLimit _).did
  | calibrate => exact (did_stopDaemon app).trans (quiet_runCalibration _).did
  | calibRestore => exact (did_stopDaemon app).trans (quiet_runCalibration _).did
  | processPurge => exact (quiet_one (c := .processPurge) rfl rfl).did
  | _ => exact did_same rfl

theorem did_execute (c : Command) : Did (app.pauses o c) (app.chosen c) app (app.execute b o c) := by
  cases c with
  | restore => exact did_restore app _
  | side direction => exact did_handleSide direction
  | enter => exact did_handleEnter
  | speedUp =>
    apply QuietBetween.did
    apply quiet_of_eq
    show app.speedUp.calls = _
    rw [speedUp]
    split <;> rfl
  | speedDown =>
    apply QuietBetween.did
    apply quiet_of_eq
    show app.speedDown.calls = _
    rw [speedDown]
    split <;> rfl
  | _ => exact did_same rfl

/-- Whether a key stops the daemon: while the confirmation is up, when it confirms. -/
def pausesOn (o : KeyOutcomes) (key : Key) (app : App) : Bool :=
  if app.confirmExtreme then decide (key.answer = some true) else key.command.any (app.pauses o)

/-- The profile a key applies. -/
def chosenOn (key : Key) (app : App) : Option PowerProfile :=
  if app.confirmExtreme then if key.answer = some true then some .extreme else none
  else key.command.bind app.chosen

/-- **A key** stops the daemon first, and applies no profile but the one it stands for. -/
theorem did_press (key : Key) :
    Did (app.pausesOn o key) (app.chosenOn key) app (app.press b o key) := by
  rw [press, pausesOn, chosenOn]
  split
  · cases hanswer : key.answer with
    | none => exact did_same rfl
    | some yes =>
      cases yes with
      | true => exact did_confirmExtremeMode app
      | false => exact did_same rfl
  · cases hcommand : key.command with
    | none => exact did_same rfl
    | some c => exact (did_execute c).of_eq rfl

/-- The key a turn handles. -/
def taken (t : Turn) (app : App) : Option (Key × KeyOutcomes) :=
  if app.shouldQuit || t.quitRequested then none else t.key

/-- Whether a turn stops the daemon. -/
def pausesIn (b : LinuxBackend) (t : Turn) (app : App) : Bool :=
  (app.taken t).any fun k => (app.frame b t).pausesOn k.2 k.1

/-- The profile a turn applies. -/
def chosenIn (b : LinuxBackend) (t : Turn) (app : App) : Option PowerProfile :=
  (app.taken t).bind fun k => (app.frame b t).chosenOn k.1

/-- What others do and what is drawn makes no calls. -/
theorem calls_frame (b : LinuxBackend) (t : Turn) (app : App) : (app.frame b t).calls = app.calls := by
  show ((app.disturbed t).refreshDaemonState t.now t.probe).calls = app.calls
  rw [refreshDaemonState]
  split <;> rfl

theorem did_turn (b : LinuxBackend) (t : Turn) (app : App) :
    Did (app.pausesIn b t) (app.chosenIn b t) app (app.turn b t) := by
  rw [turn, pausesIn, chosenIn, taken]
  cases app.shouldQuit with
  | true => exact did_same rfl
  | false =>
    cases t.quitRequested with
    | true => exact did_same rfl
    | false =>
      cases t.key with
      | none => exact did_same (calls_frame b t app)
      | some k =>
        have hpress := @did_press b k.2 (app.frame b t) k.1
        exact hpress.of_eq_left (calls_frame b t app)

end App

end WattWarden
