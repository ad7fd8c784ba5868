import WattWarden.Daemon.Runner
import WattWarden.FrontEnds.Adjust
import WattWarden.Library.Runs

/-!
# The dashboard, the daemon and its supervisor

Three parties around one tree and one configuration file.  The dashboard adjusts a row: it signals
the daemon and writes the row's nodes.  The daemon boots, ticks and exits.  The supervisor, with the
installed unit's `Restart=always`, starts a new daemon after any exit it was not asked for; the
new process discovers the machine again and reads the configuration as it is.

* `Installation` — the tree, the file, the daemon process if there is one, the unit, the dashboard;
* `BackgroundEvent` / `backgroundStep` — what happens without the user;
* `UserEvent` / `userStep` — a left or right adjustment;
* `systemStep` — any interleaving of the two; `systemRun_file` — **PROVED**: the file never changes.
-/

namespace WattWarden

open Library.FileTree Library.Journaling Library.Floats Library.Runs

/-- A daemon process: the backend it discovered, whether it went through `apply_boot_settings`,
whether it got a termination signal, and the brightness it last applied. -/
structure DaemonProcess where
  backend : LinuxBackend
  booted : Bool
  signalled : Bool
  lastAppliedBrightness : ℤ

/-- A process that was just started. -/
def DaemonProcess.start (host : Host) (t : Tree) : DaemonProcess where
  backend := .withRoot host t
  booted := false
  signalled := false
  lastAppliedBrightness := -1

structure Installation where
  sysfs : SysfsRoot
  file : ConfigFile
  process : Option DaemonProcess
  /-- The unit is enabled and was not stopped through the supervisor. -/
  unitActive : Bool
  dashboard : LinuxBackend

/-- What happens without the user. -/
inductive BackgroundEvent where
  | daemonExits
  | supervisorRestarts
  | startUp
  | logicTick
  | brightnessTick (activeClass : String)
  | outside (changes : List (Path × String))

/-- A left or right adjustment of a row. -/
structure UserEvent where
  row : HardwareRow
  direction : Direction
  tools : RadioTools

namespace Installation

/-- The running daemon, if it is past its start-up, does something to the tree.  The termination
signal only ends the loop when it is polled, so a signalled daemon may still tick. -/
def tick (d : Installation) (f : DaemonProcess → SysfsRoot → SysfsRoot × ℤ) : Installation :=
  match d.process with
  | none => d
  | some p =>
      if p.booted then
        let r := f p d.sysfs
        { d with sysfs := r.1, process := some { p with lastAppliedBrightness := r.2 } }
      else d

/-- `stop_daemon`: the termination signal, and nothing else.  The persisted flags stay as they
are, and the supervisor is not asked. -/
def stopDaemon (d : Installation) : Installation :=
  { d with process := d.process.map fun p => { p with signalled := true } }

end Installation

/-- One event without the user.  A daemon reads the configuration each time it needs it. -/
def backgroundStep (F : Type) [FloatLike F] (host : Host) (d : Installation) :
    BackgroundEvent → Installation
  | .daemonExits => { d with process := none }
  | .supervisorRestarts =>
      if d.unitActive && d.process.isNone then
        { d with process := some (.start host d.sysfs.tree) }
      else d
  | .startUp =>
      match d.process with
      | none => d
      | some p =>
          if p.booted then d
          else { d with
            sysfs := applyBootSettings p.backend d.file.loadOrDefault d.sysfs
            process := some { p with booted := true } }
  | .logicTick =>
      d.tick fun p s => (applyLogic F p.backend d.file.loadOrDefault s, p.lastAppliedBrightness)
  | .brightnessTick activeClass =>
      d.tick fun p s =>
        let r := (applyBrightnessStep p.backend d.file.loadOrDefault activeClass
          ⟨s, p.lastAppliedBrightness⟩).1
        (r.sysfs, r.lastAppliedBrightness)
  | .outside changes => { d with sysfs := ambient d.sysfs changes }

/-- `handle_left` and `handle_right`: signal the daemon, then move the row. -/
def userStep (d : Installation) (e : UserEvent) : Installation :=
  let d := d.stopDaemon
  { d with sysfs := (App.handle d.dashboard e.tools e.direction d.sysfs e.row).1 }

/-- One event of either side. -/
def systemStep (F : Type) [FloatLike F] (host : Host) (d : Installation) :
    UserEvent ⊕ BackgroundEvent → Installation
  | .inl e => userStep d e
  | .inr e => backgroundStep F host d e

/-! ### What a background event does -/

section Background

variable {F : Type} [FloatLike F] {host : Host} {d : Installation}

/-- **What a background event can do to the tree**: nothing, or one of the daemon's operations
under the file's configuration, or a change of the outside world. -/
theorem backgroundStep_sysfs (e : BackgroundEvent) :
    (backgroundStep F host d e).sysfs = d.sysfs ∨
    (∃ b, (backgroundStep F host d e).sysfs = applyBootSettings b d.file.loadOrDefault d.sysfs) ∨
    (∃ b, (backgroundStep F host d e).sysfs = applyLogic F b d.file.loadOrDefault d.sysfs) ∨
    (∃ b activeClass last, (backgroundStep F host d e).sysfs
      = (applyBrightnessStep b d.file.loadOrDefault activeClass ⟨d.sysfs, last⟩).1.sysfs) ∨
    ∃ changes, (backgroundStep F host d e).sysfs = ambient d.sysfs changes := by
  have htick : ∀ f, (d.tick f).sysfs = d.sysfs ∨ ∃ p, (d.tick f).sysfs = (f p d.sysfs).1 := by
    intro f
    rw [Installation.tick]
    split
    · exact .inl rfl
    · split
      · exact .inr ⟨_, rfl⟩
      · exact .inl rfl
  cases e with
  | daemonExits => exact .inl rfl
  | supervisorRestarts =>
    left
    rw [backgroundStep]
    split <;> rfl
  | startUp =>
    rw [backgroundStep]
    split
    · exact .inl rfl
    · split
      · exact .inl rfl
      · exact .inr (.inl ⟨_, rfl⟩)
  | logicTick =>
    rcases htick _ with h | ⟨p, h⟩
    · exact .inl h
    · exact .inr (.inr (.inl ⟨p.backend, h⟩))
  | brightnessTick activeClass =>
    rcases htick _ with h | ⟨p, h⟩
    · exact .inl h
    · exact .inr (.inr (.inr (.inl ⟨p.backend, activeClass, p.lastAppliedBrightness, h⟩)))
  | outside changes => exact .inr (.inr (.inr (.inr ⟨changes, rfl⟩)))

/-- No background event writes the configuration. -/
theorem backgroundStep_file (e : BackgroundEvent) :
    (backgroundStep F host d e).file = d.file := by
  have htick : ∀ f, (d.tick f).file = d.file := by
    intro f
    rw [Installation.tick]
    split
    · rfl
    · split <;> rfl
  cases e with
  | daemonExits => rfl
  | supervisorRestarts =>
    rw [backgroundStep]
    split <;> rfl
  | startUp =>
    rw [backgroundStep]
    split
    · rfl
    · split <;> rfl
  | logicTick => exact htick _
  | brightnessTick activeClass => exact htick _
  | outside changes => rfl

theorem systemStep_file (e : UserEvent ⊕ BackgroundEvent) :
    (systemStep F host d e).file = d.file := by
  cases e with
  | inl e => rfl
  | inr e => exact backgroundStep_file e

/-- **Nothing here saves.**  Whatever interleaving, the file is what it was. -/
theorem systemRun_file (events : List (UserEvent ⊕ BackgroundEvent)) :
    (run (systemStep F host) d events).file = d.file :=
  run_inv (fun d' : Installation => d'.file = d.file) rfl (fun _ e h => (systemStep_file e).trans h) events

end Background

end WattWarden
