import WattWarden.Daemon.Processes
import WattWarden.Daemon.Telemetry
import WattWarden.Library.Plans
import WattWarden.Library.Refinement

/-!
# Daemon processes side by side

`DaemonRunner::run`, in any number of processes at once: each discovers the hardware, tries for the
instance lock, and if it gets it goes through the calls of `run` until it is asked to stop.  It may
be killed anywhere, also in the middle of a call.  The tree, the configuration file and the health
log are shared, with the other programs of the machine as well.

* `DaemonRunner` / `RunStage.next` — a runner past `acquire`, and the order of its calls;
* `DaemonRunner.perform` / `interrupted` — a call, and one that is cut off after some of its writes;
* `Daemons` / `daemonsStep` — the processes around the lock; `daemonsStep_inv` — **PROVED**: the
  running ones are the active ones of the machine;
* `Solo` / `soloStep` — one daemon at a time, which refuses what is out of order.
-/

namespace WattWarden

open Library.FileTree Library.Floats Library.Journaling Library.Locking Library.Runs

/-! ### One runner -/

/-- What daemons share. -/
structure Site where
  sysfs : SysfsRoot
  file : ConfigFile
  healthLog : String

/-- The call that is next in `run`: four before the loop, then the two tickers and the second call of
the logic ticker. -/
inductive RunStage where
  | bootSettings
  | logic
  | brightness
  | sample
  | loop
  | tickSample
  deriving DecidableEq, Repr

/-- A call of `run`, with what it finds. -/
inductive Work where
  | bootSettings (clock : SystemTime)
  | logic (clock : SystemTime)
  | brightness (activeClass : String)
  | sample (clock : SystemTime) (outcome : AppendOutcome)

/-- The order of the calls. -/
def RunStage.next : RunStage → Work → Option RunStage
  | .bootSettings, .bootSettings _ => some .logic
  | .logic, .logic _ => some .brightness
  | .brightness, .brightness _ => some .sample
  | .sample, .sample _ _ => some .loop
  | .loop, .logic _ => some .tickSample
  | .loop, .brightness _ => some .loop
  | .tickSample, .sample _ _ => some .loop
  | _, _ => none

/-- A runner that has the lock. -/
structure DaemonRunner where
  backend : LinuxBackend
  stage : RunStage
  lastAppliedBrightness : ℤ
  lastHealthLog : ℤ
  lastTempWarn : ℤ
  lastChargeWarn : ℤ

namespace DaemonRunner

def start (backend : LinuxBackend) : DaemonRunner := ⟨backend, .bootSettings, -1, 0, 0, 0⟩

/-- The cells of the runner with the file at `HEALTH_LOG_PATH`. -/
def telemetry (r : DaemonRunner) (site : Site) : Telemetry :=
  ⟨r.lastHealthLog, r.lastTempWarn, r.lastChargeWarn, site.healthLog, []⟩

def remember (r : DaemonRunner) (t : Telemetry) : DaemonRunner :=
  { r with
    lastHealthLog := t.lastHealthLog
    lastTempWarn := t.lastTempWarn
    lastChargeWarn := t.lastChargeWarn }

/-- `enforce_charge_limit` -/
def enforceChargeLimit (r : DaemonRunner) (config : Config) (clock : SystemTime) (site : Site) :
    DaemonRunner × Site :=
  let e := enforceLogged Threshold.linuxChargeThreshold config clock site.sysfs (r.telemetry site)
  (r.remember e.2, { site with sysfs := e.1 })

/-- `apply_boot_settings`, `apply_logic`, `apply_brightness` and `maybe_sample_health`, each under the
configuration as it is on disk. -/
def perform (F : Type) [FloatLike F] (r : DaemonRunner) (site : Site) : Work → DaemonRunner × Site
  | .bootSettings clock =>
      let config := site.file.loadOrDefault
      let sysfs := match config.profile with
        | some profile => r.backend.applyProfile site.sysfs profile
        | none => site.sysfs
      r.enforceChargeLimit config clock { site with sysfs := sysfs }
  | .logic clock =>
      let config := site.file.loadOrDefault
      let sysfs := (applyLogicStep F r.backend site.sysfs config).1
      r.enforceChargeLimit config clock { site with sysfs := sysfs }
  | .brightness activeClass =>
      let d := (applyBrightnessStep r.backend site.file.loadOrDefault activeClass
        ⟨site.sysfs, r.lastAppliedBrightness⟩).1
      ({ r with lastAppliedBrightness := d.lastAppliedBrightness }, { site with sysfs := d.sysfs })
  | .sample clock outcome =>
      let t := maybeSampleHealth r.backend.battery (r.telemetry site)
        ⟨clock, site.file.loadOrDefault, site.sysfs.tree, outcome⟩
      (r.remember t, { site with healthLog := t.healthLog })

/-- The next call, if it is this one. -/
def step (F : Type) [FloatLike F] (r : DaemonRunner) (site : Site) (w : Work) :
    Option (DaemonRunner × Site) :=
  (r.stage.next w).map fun stage => ({ r with stage := stage }).perform F site w

end DaemonRunner

/-- The next call, if it is this one, cut off after some of its writes.  How much of a row has landed
is part of the call. -/
def DaemonRunner.interrupted (F : Type) [FloatLike F] (r : DaemonRunner) (site : Site) (w : Work)
    (writes : ℕ) : Option Site :=
  (r.step F site w).map fun x => { x.2 with sysfs := cutShort site.sysfs x.2.sysfs writes }

/-! ### Processes around the lock -/

/-- A daemon process before and after it has the lock. -/
inductive DaemonProgram where
  | discovered (backend : LinuxBackend)
  | running (runner : DaemonRunner)

def DaemonProgram.runner : DaemonProgram → Option DaemonRunner
  | discovered _ => none
  | running r => some r

/-- The processes and the lock, what the daemons share, and how far each of them is. -/
structure Daemons where
  machine : Machine
  site : Site
  programs : ℕ → Option DaemonProgram

inductive DaemonsEvent where
  /-- A process starts, the daemon or any other. -/
  | spawn (pid : ℕ)
  /-- `build_backend` -/
  | discover (pid : ℕ)
  | acquire (pid : ℕ)
  | work (pid : ℕ) (w : Work)
  /-- A runner is killed in the middle of a call. -/
  | killed (pid : ℕ) (w : Work) (writes : ℕ)
  /-- The loop ends, and `run` releases the lock. -/
  | shutdown (pid : ℕ)
  /-- A process ends, by itself, by a crash or by a signal. -/
  | exit (pid : ℕ)
  | probeLock (pid : ℕ)
  | probeUnlock (pid : ℕ)
  /-- Another program changes what the daemons share. -/
  | outside (site : Site)

namespace Daemons

/-- After boot. -/
def start (site : Site) : Daemons := ⟨.start, site, fun _ => none⟩

/-- The runner of a process that has the lock. -/
def runner (daemons : Daemons) (pid : ℕ) : Option DaemonRunner :=
  (daemons.programs pid).bind DaemonProgram.runner

/-- A process is at `program`, if it still runs one. -/
def put (daemons : Daemons) (pid : ℕ) (program : Option DaemonProgram) : Daemons :=
  { daemons with programs := Function.update daemons.programs pid program }

def exit (daemons : Daemons) (pid : ℕ) : Daemons :=
  { daemons.put pid none with machine := machineStep daemons.machine (.exit pid) }

end Daemons

/-- One event; what no process could do in the state it is in does not happen. -/
def daemonsStep (F : Type) [FloatLike F] (host : Host) (daemons : Daemons) : DaemonsEvent → Daemons
  | .spawn pid => { daemons with machine := machineStep daemons.machine (.spawn pid) }
  | .discover pid =>
      if daemons.machine.alive pid && (daemons.programs pid).isNone then
        daemons.put pid (some (.discovered (.withRoot host daemons.site.sysfs.tree)))
      else daemons
  | .acquire pid =>
      match daemons.programs pid with
      | some (.discovered backend) =>
          let granted := (PidManager.acquire daemons.machine.anchor pid).2.isOk
          { daemons.put pid (if granted then some (.running (.start backend)) else none) with
            machine := machineStep daemons.machine (.acquire pid) }
      | _ => daemons
  | .work pid w =>
      match (daemons.runner pid).bind fun r => r.step F daemons.site w with
      | some x => { daemons.put pid (some (.running x.1)) with site := x.2 }
      | none => daemons
  | .killed pid w writes =>
      match (daemons.runner pid).bind fun r => r.interrupted F daemons.site w writes with
      | some site => { daemons.exit pid with site := site }
      | none => daemons
  | .shutdown pid =>
      match (daemons.runner pid).filter fun r => decide (r.stage = .loop) with
      | some _ => { daemons.put pid none with machine := machineStep daemons.machine (.release pid) }
      | none => daemons
  | .exit pid => daemons.exit pid
  | .probeLock pid => { daemons with machine := machineStep daemons.machine (.probeLock pid) }
  | .probeUnlock pid => { daemons with machine := machineStep daemons.machine (.probeUnlock pid) }
  | .outside site => { daemons with site := site }

/-! ### One daemon at a time -/

/-- What the daemons share, and the only daemon. -/
structure Solo where
  site : Site
  daemon : Option (ℕ × DaemonRunner)

/-- What happens to it. -/
inductive Mark where
  | begins (pid : ℕ) (backend : LinuxBackend)
  | works (pid : ℕ) (w : Work)
  | killed (pid : ℕ) (w : Work) (writes : ℕ)
  | ends (pid : ℕ)
  | outside (site : Site)

def Solo.runner (solo : Solo) (pid : ℕ) : Option DaemonRunner :=
  (solo.daemon.filter fun d => decide (d.1 = pid)).map Prod.snd

/-- A daemon begins only where there is none, and only the one that began works, in the order of its
calls, until it ends. -/
def soloStep (F : Type) [FloatLike F] (solo : Solo) : Mark → Option Solo
  | .begins pid backend =>
      if solo.daemon.isNone then some { solo with daemon := some (pid, .start backend) } else none
  | .works pid w =>
      ((solo.runner pid).bind fun r => r.step F solo.site w).map fun x => ⟨x.2, some (pid, x.1)⟩
  | .killed pid w writes =>
      ((solo.runner pid).bind fun r => r.interrupted F solo.site w writes).map fun site =>
        ⟨site, none⟩
  | .ends pid => (solo.runner pid).map fun _ => { solo with daemon := none }
  | .outside site => some { solo with site := site }

/-- What an event of the daemons means for the only daemon. -/
def Daemons.marks (F : Type) [FloatLike F] (daemons : Daemons) : DaemonsEvent → List Mark
  | .acquire pid =>
      match daemons.programs pid with
      | some (.discovered backend) =>
          if (PidManager.acquire daemons.machine.anchor pid).2.isOk then [.begins pid backend] else []
      | _ => []
  | .work pid w =>
      if ((daemons.runner pid).bind fun r => r.step F daemons.site w).isSome then [.works pid w] else []
  | .killed pid w writes =>
      if ((daemons.runner pid).bind fun r => r.interrupted F daemons.site w writes).isSome then
        [.killed pid w writes]
      else []
  | .shutdown pid =>
      if ((daemons.runner pid).filter fun r => decide (r.stage = .loop)).isSome then [.ends pid]
      else []
  | .exit pid => if (daemons.runner pid).isSome then [.ends pid] else []
  | .outside site => [.outside site]
  | .spawn _ | .discover _ | .probeLock _ | .probeUnlock _ => []

/-! ### The lock and the runners -/

section Invariant

variable {F : Type} [FloatLike F] {host : Host} {daemons : Daemons}

/-- The machine is sound, only living processes run a program, and the runners are the active
processes. -/
structure DaemonsInv (daemons : Daemons) : Prop where
  machine : MachineInv daemons.machine
  alive : ∀ pid, (daemons.programs pid).isSome = true → daemons.machine.alive pid = true
  active_iff : ∀ pid, daemons.machine.active pid = true ↔ (daemons.runner pid).isSome = true

theorem daemonsInv_start (site : Site) : DaemonsInv (.start site) where
  machine := machineInv_start
  alive _ h := by cases h
  active_iff _ := Iff.rfl

theorem runner_put (pid : ℕ) (program : Option DaemonProgram) (p : ℕ) :
    (daemons.put pid program).runner p
      = if p = pid then program.bind DaemonProgram.runner else daemons.runner p := by
  show (Function.update daemons.programs pid program p).bind DaemonProgram.runner = _
  rw [Function.update_apply]
  split <;> rfl

theorem isSome_put {pid : ℕ} {program : Option DaemonProgram} {p : ℕ}
    (h : ((daemons.put pid program).programs p).isSome = true) :
    p = pid ∧ program.isSome = true ∨ p ≠ pid ∧ (daemons.programs p).isSome = true := by
  change (Function.update daemons.programs pid program p).isSome = true at h
  rw [Function.update_apply] at h
  split at h
  · exact .inl ⟨‹_›, h⟩
  · exact .inr ⟨‹_›, h⟩

/-- A machine step that leaves the processes and their locks alone. -/
theorem DaemonsInv.of_same (h : DaemonsInv daemons) {m : Machine} (hm : MachineInv m)
    (halive : ∀ pid, daemons.machine.alive pid = true → m.alive pid = true)
    (hactive : m.active = daemons.machine.active) : DaemonsInv { daemons with machine := m } where
  machine := hm
  alive pid hpid := halive pid (h.alive pid hpid)
  active_iff pid := by
    show m.active pid = true ↔ (daemons.runner pid).isSome = true
    rw [hactive, h.active_iff]

/-- A runner that goes on, with whatever it does to what is shared. -/
theorem DaemonsInv.goes_on (h : DaemonsInv daemons) {pid : ℕ} {r r' : DaemonRunner} {site : Site}
    (hr : daemons.runner pid = some r) :
    DaemonsInv { daemons.put pid (some (.running r')) with site := site } where
  machine := h.machine
  alive p hp := by
    rcases isSome_put hp with ⟨rfl, -⟩ | ⟨-, hp⟩
    · apply h.alive
      rw [Daemons.runner] at hr
      obtain ⟨program, hprogram, -⟩ := Option.bind_eq_some_iff.mp hr
      rw [hprogram]
      rfl
    · exact h.alive p hp
  active_iff p := by
    show daemons.machine.active p = true ↔ ((daemons.put pid _).runner p).isSome = true
    rw [runner_put, h.active_iff]
    by_cases hp : p = pid
    · rw [if_pos hp, hp, hr]
      exact Iff.rfl
    · rw [if_neg hp]

/-- A runner that ends, and whose process may live on. -/
theorem DaemonsInv.ends (h : DaemonsInv daemons) (pid : ℕ) {m : Machine} (hm : MachineInv m)
    (halive : ∀ p, p ≠ pid → daemons.machine.alive p = true → m.alive p = true)
    (hactive : m.active = Function.update daemons.machine.active pid false) (site : Site) :
    DaemonsInv { daemons.put pid none with machine := m, site := site } where
  machine := hm
  alive p hp := by
    rcases isSome_put hp with ⟨-, hnone⟩ | ⟨hne, hp⟩
    · cases hnone
    · exact halive p hne (h.alive p hp)
  active_iff p := by
    show m.active p = true ↔ ((daemons.put pid none).runner p).isSome = true
    rw [runner_put, hactive, Function.update_apply]
    by_cases hp : p = pid
    · rw [if_pos hp, if_pos hp]
      exact Iff.rfl
    · rw [if_neg hp, if_neg hp, h.active_iff]

theorem DaemonsInv.exit (h : DaemonsInv daemons) (pid : ℕ) (site : Site) :
    DaemonsInv { daemons.exit pid with site := site } := by
  have halive : ∀ p, p ≠ pid → daemons.machine.alive p = true →
      (machineStep daemons.machine (.exit pid)).alive p = true := by
    intro p hp halive
    show Function.update daemons.machine.alive pid false p = true
    rwa [Function.update_of_ne hp]
  exact h.ends pid (machineInv_step _ (.exit pid) h.machine) halive rfl site

/-- One attempt at the lock: the process runs if it gets it, and is through if it does not. -/
theorem DaemonsInv.acquires (h : DaemonsInv daemons) (pid : ℕ) :
    DaemonsInv (daemonsStep F host daemons (.acquire pid)) := by
  rw [daemonsStep]
  split
  · rename_i backend hprogram
    have halive : daemons.machine.alive pid = true := h.alive pid (by rw [hprogram]; rfl)
    have hnone : daemons.runner pid = none := by
      rw [Daemons.runner, hprogram]
      rfl
    have hmachine : machineStep daemons.machine (.acquire pid) = { daemons.machine with
        anchor := (PidManager.acquire daemons.machine.anchor pid).1
        active := if (PidManager.acquire daemons.machine.anchor pid).2.isOk then
          Function.update daemons.machine.active pid true else daemons.machine.active } := by
      rw [machineStep, if_pos halive]
    refine ⟨machineInv_step _ (.acquire pid) h.machine, ?_, ?_⟩
    · intro p hp
      show (machineStep daemons.machine (.acquire pid)).alive p = true
      rw [hmachine]
      rcases isSome_put hp with ⟨rfl, -⟩ | ⟨-, hp⟩
      · exact halive
      · exact h.alive p hp
    · intro p
      show (machineStep daemons.machine (.acquire pid)).active p = true ↔
        ((daemons.put pid _).runner p).isSome = true
      rw [hmachine, runner_put]
      cases hgranted : (PidManager.acquire daemons.machine.anchor pid).2.isOk with
      | true =>
        show Function.update daemons.machine.active pid true p = true ↔ _
        rw [Function.update_apply]
        by_cases hp : p = pid
        · rw [if_pos hp, if_pos hp]
          exact Iff.rfl
        · rw [if_neg hp, if_neg hp, h.active_iff]
      | false =>
        show daemons.machine.active p = true ↔ _
        rw [h.active_iff]
        by_cases hp : p = pid
        · rw [if_pos hp, hp, hnone]
          exact Iff.rfl
        · rw [if_neg hp]
  · exact h

/-- **One event keeps the invariant.** -/
theorem daemonsStep_inv (F : Type) [FloatLike F] (host : Host) (e : DaemonsEvent)
    (h : DaemonsInv daemons) :
    DaemonsInv (daemonsStep F host daemons e) := by
  cases e with
  | spawn pid =>
    apply h.of_same (machineInv_step _ _ h.machine)
    · intro p hp
      rw [machineStep]
      split
      · show Function.update daemons.machine.alive pid true p = true
        rw [Function.update_apply]
        split
        · rfl
        · exact hp
      · exact hp
    · rw [machineStep]
      split <;> rfl
  | discover pid =>
    rw [daemonsStep]
    split
    · rename_i hfree
      rw [Bool.and_eq_true, Option.isNone_iff_eq_none] at hfree
      constructor
      · exact h.machine
      · intro p hp
        rcases isSome_put hp with ⟨rfl, -⟩ | ⟨-, hp⟩
        · exact hfree.1
        · exact h.alive p hp
      · intro p
        show daemons.machine.active p = true ↔ _
        have hnone : daemons.runner pid = none := by
          rw [Daemons.runner, hfree.2]
          rfl
        rw [runner_put, h.active_iff]
        by_cases hp : p = pid
        · rw [if_pos hp, hp, hnone]
          exact Iff.rfl
        · rw [if_neg hp]
    · exact h
  | acquire pid => exact h.acquires pid
  | work pid w =>
    rw [daemonsStep]
    split
    · rename_i x hx
      obtain ⟨r, hr, -⟩ := Option.bind_eq_some_iff.mp hx
      exact h.goes_on hr
    · exact h
  | killed pid w writes =>
    rw [daemonsStep]
    split
    · exact h.exit pid _
    · exact h
  | shutdown pid =>
    rw [daemonsStep]
    split
    · exact h.ends pid (machineInv_step _ (.release pid) h.machine) (fun _ _ hp => hp) rfl _
    · exact h
  | exit pid => exact h.exit pid daemons.site
  | probeLock pid =>
    apply h.of_same (machineInv_step _ _ h.machine)
    · intro p hp
      rw [machineStep]
      split <;> exact hp
    · rw [machineStep]
      split <;> rfl
  | probeUnlock pid => exact h.of_same (machineInv_step _ _ h.machine) (fun _ hp => hp) rfl
  | outside site => exact ⟨h.machine, h.alive, h.active_iff⟩

end Invariant

end WattWarden
