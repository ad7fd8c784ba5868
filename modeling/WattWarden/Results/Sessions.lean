import WattWarden.FrontEnds.Settings
import WattWarden.Library.Runs

/-!
# One configuration file, several front ends

A session is the file, a dashboard with the copy it loaded, any number of commands between their
load and their save, and everything saved so far.  A dashboard saves its whole copy.

* `sessionStep` — one load or one save;
* `NothingLost` — every persisted field holds what the last save of that field gave it;
* `DashboardFresh` — what a dashboard saves besides its own field is what the file holds already;
* `session_nothingLost_iff` — **PROVED**: without overlapping commands, nothing is ever lost if and
  only if the dashboard's copy is fresh whenever it saves;
* `session_loses_limit` — a limit set on the command line is undone by a level change.
-/

namespace WattWarden

open Library.Runs

structure Session where
  file : ConfigFile
  /-- `App.config` of the dashboard. -/
  app : Config
  /-- What each running command has loaded and not saved yet. -/
  loaded : ℕ → Option Config
  /-- Every setting saved so far, newest first. -/
  saved : List Setting

inductive SessionEvent where
  | dashboard (action : DashboardAction)
  | dashboardLoad
  | cliLoad (id : ℕ)
  | cliSave (id : ℕ) (command : CliCommand)

/-- A dashboard that has just loaded the file. -/
def Session.start (file : ConfigFile) : Session where
  file
  app := file.loadOrDefault
  loaded _ := none
  saved := []

/-- One load or one save.  The dashboard loads at start-up and after its elevated helper ran. -/
def sessionStep (s : Session) : SessionEvent → Session
  | .dashboard action =>
      match action.setting s.app with
      | none => s
      | some setting =>
          let app := setting.apply s.app
          { s with file := app.save, app, saved := setting :: s.saved }
  | .dashboardLoad => { s with app := s.file.loadOrDefault }
  | .cliLoad id => { s with loaded := Function.update s.loaded id (some s.file.loadOrDefault) }
  | .cliSave id command =>
      match s.loaded id with
      | none => s
      | some config =>
          { s with
            file := (command.setting.apply config).save
            loaded := Function.update s.loaded id none
            saved := command.setting :: s.saved }

/-- Nobody saves while a command is between its own load and save. -/
def NoOverlap (s : Session) : SessionEvent → Prop
  | .dashboard action => action.setting s.app = none ∨ ∀ id, s.loaded id = none
  | .cliSave id _ => s.loaded id = none ∨ ∀ other, other ≠ id → s.loaded other = none
  | _ => True

/-- The value of the last save of `f`, or its initial value when there was none. -/
def lastSaved (initial : Config) (saved : List Setting) (f : Field) : FieldValue :=
  ((saved.find? fun setting => decide (setting.field = f)).map Setting.value).getD (initial.get f)

/-- Every persisted field holds what the last save of that field gave it. -/
def NothingLost (initial : Config) (s : Session) : Prop :=
  ∀ f, s.file.loadOrDefault.get f = lastSaved initial s.saved f

/-- Whenever the dashboard saves, its copy agrees with the file outside the field it sets. -/
def DashboardFresh (s : Session) : SessionEvent → Prop
  | .dashboard action => ∀ setting, action.setting s.app = some setting →
      ∀ f, f ≠ setting.field → s.app.get f = s.file.loadOrDefault.get f
  | _ => True

theorem lastSaved_cons (initial : Config) (setting : Setting) (saved : List Setting) (f : Field) :
    lastSaved initial (setting :: saved) f
      = if f = setting.field then setting.value else lastSaved initial saved f := by
  by_cases h : f = setting.field
  · simp [lastSaved, h]
  · simp [lastSaved, h, Ne.symm h]

/-- Saving a configuration with one field set loses nothing exactly when the rest of it is what
the file holds. -/
theorem save_nothingLost_iff {initial : Config} {s : Session} (hs : NothingLost initial s)
    (s' : Session) (config : Config) (setting : Setting)
    (hfile : s'.file = (setting.apply config).save) (hsaved : s'.saved = setting :: s.saved) :
    NothingLost initial s' ↔
      ∀ f, f ≠ setting.field → config.get f = s.file.loadOrDefault.get f := by
  have hfield : ∀ f, s'.file.loadOrDefault.get f = lastSaved initial s'.saved f ↔
      (f ≠ setting.field → config.get f = s.file.loadOrDefault.get f) := by
    intro f
    rw [hfile, hsaved, loadOrDefault_save, Config.get_apply, lastSaved_cons, hs f]
    by_cases h : f = setting.field
    · simp [h]
    · simp [h]
  exact forall_congr' hfield

/-- A command holds what the file holds, until it saves. -/
def LoadedFresh (s : Session) : Prop := ∀ id config, s.loaded id = some config →
  config = s.file.loadOrDefault

theorem loadedFresh_step (s : Session) (e : SessionEvent) (hs : LoadedFresh s)
    (hno : NoOverlap s e) : LoadedFresh (sessionStep s e) := by
  intro id config hload
  cases e with
  | dashboard action =>
    cases hsetting : action.setting s.app with
    | none =>
      simp only [sessionStep, hsetting] at hload ⊢
      exact hs id config hload
    | some setting =>
      simp only [sessionStep, hsetting] at hload
      rcases hno with hnone | hall
      · rw [hsetting] at hnone
        cases hnone
      · rw [hall id] at hload
        cases hload
  | dashboardLoad => exact hs id config hload
  | cliLoad id' =>
    simp only [sessionStep, Function.update_apply] at hload ⊢
    split at hload
    · exact (Option.some.inj hload).symm
    · exact hs id config hload
  | cliSave id' command =>
    cases hid : s.loaded id' with
    | none =>
      simp only [sessionStep, hid] at hload ⊢
      exact hs id config hload
    | some loaded =>
      simp only [sessionStep, hid, Function.update_apply] at hload
      rcases hno with hnone | hothers
      · rw [hid] at hnone
        cases hnone
      · split at hload
        · cases hload
        · rename_i hne
          rw [hothers id hne] at hload
          cases hload

/-- **One step.**  Out of a state where nothing is lost, only a stale dashboard loses something. -/
theorem nothingLost_step_iff {initial : Config} {s : Session} (e : SessionEvent)
    (hfresh : LoadedFresh s) (hs : NothingLost initial s) :
    NothingLost initial (sessionStep s e) ↔ DashboardFresh s e := by
  cases e with
  | dashboard action =>
    cases hsetting : action.setting s.app with
    | none =>
      have hstep : sessionStep s (.dashboard action) = s := by simp only [sessionStep, hsetting]
      rw [hstep]
      refine iff_of_true hs fun setting hsome => ?_
      rw [hsetting] at hsome
      cases hsome
    | some setting =>
      have hsave := save_nothingLost_iff hs (sessionStep s (.dashboard action)) s.app setting
        (by simp only [sessionStep, hsetting]) (by simp only [sessionStep, hsetting])
      rw [hsave]
      simp [DashboardFresh, hsetting]
  | dashboardLoad => exact iff_of_true hs trivial
  | cliLoad id => exact iff_of_true hs trivial
  | cliSave id command =>
    refine iff_of_true ?_ trivial
    cases hid : s.loaded id with
    | none =>
      have hstep : sessionStep s (.cliSave id command) = s := by simp only [sessionStep, hid]
      rw [hstep]
      exact hs
    | some config =>
      rw [save_nothingLost_iff hs (sessionStep s (.cliSave id command)) config command.setting
        (by simp only [sessionStep, hid]) (by simp only [sessionStep, hid])]
      intro f _
      rw [hfresh id config hid]

/-- **No lost settings, exactly.**  In every interleaving of dashboard actions and commands in which
no command overlaps another writer, every persisted field always holds what its last save gave it
if and only if, at each save of the dashboard, the dashboard's copy agrees with the file on every
field but the one it sets. -/
theorem session_nothingLost_iff (file : ConfigFile) (events : List SessionEvent)
    (hno : StepsMeet NoOverlap sessionStep (Session.start file) events) :
    Always (NothingLost file.loadOrDefault) sessionStep (Session.start file) events ↔
      StepsMeet DashboardFresh sessionStep (Session.start file) events := by
  refine hno.always_iff LoadedFresh ?_ (fun s e hs he => loadedFresh_step s e hs he) ?_
    (fun s e hfresh _ hs => nothingLost_step_iff e hfresh hs)
  · intro id config hload
    cases hload
  · intro f
    rfl

/-- A command that ran from load to save leaves no command running. -/
theorem loaded_command {s : Session} (h : ∀ id, s.loaded id = none) (id : ℕ)
    (command : CliCommand) :
    ∀ other, (run sessionStep s [.cliLoad id, .cliSave id command]).loaded other = none := by
  intro other
  by_cases hid : other = id
  · simp [sessionStep, hid]
  · simp [sessionStep, hid, h other]

/-- A command that runs from load to save while no other does overlaps nobody. -/
theorem noOverlap_command {s : Session} (h : ∀ id, s.loaded id = none) (id : ℕ)
    (command : CliCommand) : NoOverlap (sessionStep s (.cliLoad id)) (.cliSave id command) := by
  refine .inr fun other hne => ?_
  simp [sessionStep, hne, h other]

/-- A command runs, and only then does the dashboard start and save. -/
def dashboardAfterCommand : List SessionEvent :=
  [.cliLoad 7, .cliSave 7 (.setChargeLimit (some 80)), .dashboardLoad, .dashboard .autoExtremeLevel]

theorem dashboardAfterCommand_nothingLost :
    Always (NothingLost Config.default) sessionStep (Session.start .missing)
      dashboardAfterCommand := by
  refine (session_nothingLost_iff .missing dashboardAfterCommand ?_).mpr ?_
  · exact ⟨trivial, noOverlap_command (fun _ => rfl) 7 _, trivial,
      .inr (loaded_command (fun _ => rfl) 7 (.setChargeLimit (some 80))), trivial⟩
  · exact ⟨trivial, trivial, trivial, fun setting _ f _ => rfl, trivial⟩

/-- A limit of 80 saved on the command line, then a level change on the dashboard that was already
running: the limit is gone from the file. -/
theorem session_loses_limit :
    StepsMeet NoOverlap sessionStep (Session.start .missing)
      [.cliLoad 7, .cliSave 7 (.setChargeLimit (some 80)), .dashboard .autoExtremeLevel] ∧
    ¬NothingLost Config.default (run sessionStep (Session.start .missing)
      [.cliLoad 7, .cliSave 7 (.setChargeLimit (some 80)), .dashboard .autoExtremeLevel]) := by
  refine ⟨⟨trivial, noOverlap_command (fun _ => rfl) 7 _,
    .inr (loaded_command (fun _ => rfl) 7 (.setChargeLimit (some 80))), trivial⟩, ?_⟩
  intro h
  have hlimit := h .batteryChargeLimit
  revert hlimit
  decide

end WattWarden
