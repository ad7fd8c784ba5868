import Mathlib.Logic.Function.Basic
import WattWarden.Core.Error
import WattWarden.Library.Flock
import WattWarden.Library.Runs

/-!
# The instance lock, the pid file and the processes around them

`PidManager` and its callers, on a machine whose process numbers are used again.  The pid file
doubles as the lock anchor; it outlives the process it names.

* `PidManager.acquire` / `release` / `readPid` — translated from the source; `is_running` is
  `probeLock` followed, when it got the lock, by `probeUnlock`;
* `Machine` / `machineStep` — processes start and end, daemons acquire and release, probes come
  and go, and the two stop commands read the file;
* `MachineInv` — who is active, what the file names, who is alive; `machineRun_inv` — **PROVED**:
  it holds in every reachable state.
-/

namespace WattWarden

open Library.Locking Library.Numerals Library.Runs

/-- Who has the anchor locked: the daemon in a process, or a liveness probe made by one. -/
inductive LockOwner where
  | daemon (pid : ℕ)
  | probe (pid : ℕ)
  deriving DecidableEq, Repr

def LockOwner.process : LockOwner → ℕ
  | daemon pid => pid
  | probe pid => pid

/-- The anchor: its lock, and its text once it exists. -/
structure Anchor where
  lock : Flock LockOwner
  text : Option String
  deriving DecidableEq

namespace PidManager

/-- `open_anchor`: created empty when missing, never truncated. -/
def openAnchor (a : Anchor) : Anchor := { a with text := some (a.text.getD "") }

/-- The first half of `is_running`: one attempt, and the answer `true` when it failed. -/
def probeLock (a : Anchor) (pid : ℕ) : Anchor × Bool :=
  let attempt := a.lock.tryLock (.probe pid)
  ({ openAnchor a with lock := attempt.1 }, !attempt.2)

/-- The second half of `is_running`: the probe guard drops. -/
def probeUnlock (a : Anchor) (pid : ℕ) : Anchor :=
  { a with lock := a.lock.drop fun owner => decide (owner = .probe pid) }

/-- `read_pid`: advisory. -/
def readPid (a : Anchor) : Option ℤ := a.text.bind fun text => parseSigned (2 ^ 31) (trim text)

/-- `acquire`: the lock, then the process number in the file. -/
def acquire (a : Anchor) (pid : ℕ) : Anchor × Except WattWardenError Unit :=
  let a := openAnchor a
  let attempt := a.lock.tryLock (.daemon pid)
  if attempt.2 then (⟨attempt.1, some (decimal pid)⟩, .ok ())
  else (a, .error (.config
    s!"WattWarden daemon is already active with PID {(readPid a).getD 0}"))

/-- `release`: the file is left in place. -/
def release (a : Anchor) (pid : ℕ) : Anchor :=
  { a with lock := a.lock.drop fun owner => decide (owner = .daemon pid) }

/-- The kernel frees whatever a process held. -/
def processEnd (a : Anchor) (pid : ℕ) : Anchor :=
  { a with lock := a.lock.drop fun owner => decide (owner.process = pid) }

theorem acquire_of_free {a : Anchor} (h : a.lock.holder = none) (pid : ℕ) :
    acquire a pid = (⟨⟨some (.daemon pid)⟩, some (decimal pid)⟩, .ok ()) := by
  have htake : (openAnchor a).lock.tryLock (.daemon pid) = (⟨some (.daemon pid)⟩, true) := by
    simp [Flock.tryLock, openAnchor, h]
  simp [acquire, htake]

/-- A refused daemon has at most created the file. -/
theorem acquire_of_held {a : Anchor} {owner : LockOwner} (h : a.lock.holder = some owner)
    (pid : ℕ) : (acquire a pid).1 = openAnchor a ∧ (acquire a pid).2.isOk = false := by
  have hfail : ((openAnchor a).lock.tryLock (.daemon pid)).2 = false :=
    (Flock.tryLock_err_iff _ _).mpr ⟨owner, h⟩
  simp [acquire, hfail, Except.isOk, Except.toBool]

theorem acquire_ok_iff (a : Anchor) (pid : ℕ) :
    (acquire a pid).2.isOk = true ↔ a.lock.holder = none := by
  cases h : a.lock.holder with
  | none => simp [acquire_of_free h, Except.isOk, Except.toBool]
  | some owner => simp [acquire_of_held h]

theorem probeLock_true_iff (a : Anchor) (pid : ℕ) :
    (probeLock a pid).2 = true ↔ ∃ owner, a.lock.holder = some owner := by
  rw [← Flock.tryLock_err_iff a.lock (.probe pid)]
  simp [probeLock]

end PidManager

/-! ### Processes -/

/-- The number of process numbers: `pid_max` on 64-bit Linux. -/
def pidMax : ℕ := 2 ^ 22

/-- The processes alive, the anchor, and whose `acquire` returned `Ok` and is not released. -/
structure Machine where
  alive : ℕ → Bool
  anchor : Anchor
  active : ℕ → Bool

inductive MachineEvent where
  /-- A process starts, the daemon or any other, under a number nobody has. -/
  | spawn (pid : ℕ)
  | acquire (pid : ℕ)
  | release (pid : ℕ)
  /-- A process ends, by itself, by a crash or by a signal. -/
  | exit (pid : ℕ)
  | probeLock (pid : ℕ)
  | probeUnlock (pid : ℕ)
  | dashboardStop
  | cliStop

/-- After boot: no process, no file. -/
def Machine.start : Machine := ⟨fun _ => false, ⟨Flock.free, none⟩, fun _ => false⟩

/-- One event; what a dead process would do does not happen.  A stop command changes nothing by
itself: the process it signals ends by `exit`. -/
def machineStep (m : Machine) : MachineEvent → Machine
  | .spawn pid =>
      if 0 < pid ∧ pid < pidMax then { m with alive := Function.update m.alive pid true } else m
  | .acquire pid =>
      if m.alive pid then
        let attempt := PidManager.acquire m.anchor pid
        { m with
          anchor := attempt.1
          active := if attempt.2.isOk then Function.update m.active pid true else m.active }
      else m
  | .release pid =>
      { m with
        anchor := PidManager.release m.anchor pid
        active := Function.update m.active pid false }
  | .exit pid =>
      { alive := Function.update m.alive pid false
        anchor := PidManager.processEnd m.anchor pid
        active := Function.update m.active pid false }
  | .probeLock pid =>
      if m.alive pid then { m with anchor := (PidManager.probeLock m.anchor pid).1 } else m
  | .probeUnlock pid => { m with anchor := PidManager.probeUnlock m.anchor pid }
  | .dashboardStop => m
  | .cliStop => m

/-- The process `kill(pid, SIGTERM)` reaches in `stop_daemon` and `stop_background_daemon`: the one
alive under the number in the file. -/
def sigterm (m : Machine) : Option ℕ :=
  (PidManager.readPid m.anchor).bind fun pid =>
    if 0 < pid ∧ m.alive pid.toNat then some pid.toNat else none

/-- What holds in every reachable state. -/
structure MachineInv (m : Machine) : Prop where
  /-- Process numbers are positive and below `pidMax`. -/
  alive_range : ∀ pid, m.alive pid = true → 0 < pid ∧ pid < pidMax
  /-- The active daemon is the one that has the lock. -/
  active_iff : ∀ pid, m.active pid = true ↔ m.anchor.lock.holder = some (.daemon pid)
  /-- A lock holder is alive. -/
  holder_alive : ∀ owner, m.anchor.lock.holder = some owner → m.alive owner.process = true
  /-- The file names the daemon that has the lock. -/
  holder_named : ∀ pid, m.anchor.lock.holder = some (.daemon pid) →
    m.anchor.text = some (decimal pid)
  /-- The file is missing, empty, or names a process number. -/
  text_range : m.anchor.text = none ∨ m.anchor.text = some "" ∨
    ∃ pid, m.anchor.text = some (decimal pid) ∧ 0 < pid ∧ pid < pidMax

theorem machineInv_start : MachineInv .start where
  alive_range pid h := by cases h
  active_iff pid := by simp [Machine.start, Flock.free]
  holder_alive owner h := by cases h
  holder_named pid h := by cases h
  text_range := .inl rfl

section Invariant

variable {m : Machine}

/-- A live process takes a free lock, as a daemon or as a probe. -/
theorem holder_attempt (owner other : LockOwner) :
    ((m.anchor.lock.tryLock owner).1).holder = some other ↔
      m.anchor.lock.holder = some other ∨ (m.anchor.lock.holder = none ∧ owner = other) := by
  rw [Flock.holder_tryLock]
  cases m.anchor.lock.holder <;> simp

/-- The file after `open_anchor`. -/
theorem text_openAnchor (h : m.anchor.text = none ∨ m.anchor.text = some "" ∨
    ∃ pid, m.anchor.text = some (decimal pid) ∧ 0 < pid ∧ pid < pidMax) :
    (PidManager.openAnchor m.anchor).text = some "" ∨
    ∃ pid, (PidManager.openAnchor m.anchor).text = some (decimal pid) ∧ 0 < pid ∧ pid < pidMax := by
  rcases h with h | h | ⟨pid, h, hpid⟩
  · exact .inl (by simp [PidManager.openAnchor, h])
  · exact .inl (by simp [PidManager.openAnchor, h])
  · exact .inr ⟨pid, by simp [PidManager.openAnchor, h], hpid⟩

theorem machineInv_spawn (h : MachineInv m) (pid : ℕ) :
    MachineInv (machineStep m (.spawn pid)) := by
  rw [machineStep]
  split
  · rename_i hpid
    constructor
    · intro p hp
      simp only [Function.update_apply] at hp
      split at hp
      · rename_i heq
        rw [heq]
        exact hpid
      · exact h.alive_range p hp
    · exact h.active_iff
    · intro owner howner
      simp only [Function.update_apply]
      split
      · rfl
      · exact h.holder_alive owner howner
    · exact h.holder_named
    · exact h.text_range
  · exact h

theorem machineInv_acquire (h : MachineInv m) (pid : ℕ) :
    MachineInv (machineStep m (.acquire pid)) := by
  rw [machineStep]
  split
  · rename_i halive
    cases hholder : m.anchor.lock.holder with
    | some owner =>
      obtain ⟨hanchor, herr⟩ := PidManager.acquire_of_held hholder pid
      simp only [hanchor, herr, Bool.false_eq_true, if_false]
      constructor
      · exact h.alive_range
      · exact h.active_iff
      · exact h.holder_alive
      · intro p hp
        have htext := h.holder_named p hp
        simp [PidManager.openAnchor, htext]
      · exact .inr (text_openAnchor h.text_range)
    | none =>
      simp only [PidManager.acquire_of_free hholder, Except.isOk, Except.toBool, if_true]
      constructor
      · exact h.alive_range
      · intro p
        simp only [Function.update_apply, Option.some.injEq, LockOwner.daemon.injEq]
        by_cases hp : p = pid
        · simp [hp]
        · have hnot : m.active p = false := by
            cases hact : m.active p with
            | false => rfl
            | true =>
              have := (h.active_iff p).mp hact
              rw [hholder] at this
              cases this
          simp [hp, hnot, Ne.symm hp]
      · intro owner howner
        simp only [Option.some.injEq] at howner
        rw [← howner]
        exact halive
      · intro p hp
        simp only [Option.some.injEq, LockOwner.daemon.injEq] at hp
        rw [hp]
      · exact .inr (.inr ⟨pid, rfl, h.alive_range pid halive⟩)
  · exact h

/-- Freeing locks keeps the invariant, as long as the daemon it frees is no longer active and the
dead hold nothing. -/
theorem machineInv_drop (h : MachineInv m) (gone : LockOwner → Bool) (alive' active' : ℕ → Bool)
    (halive : ∀ p, alive' p = true → m.alive p = true)
    (hkept : ∀ owner, gone owner = false → m.alive owner.process = true →
      alive' owner.process = true)
    (hactive : ∀ p, active' p = true ↔ m.active p = true ∧ gone (.daemon p) = false) :
    MachineInv ⟨alive', { m.anchor with lock := m.anchor.lock.drop gone }, active'⟩ where
  alive_range p hp := h.alive_range p (halive p hp)
  active_iff p := by
    rw [hactive, h.active_iff, Flock.holder_drop]
  holder_alive owner howner := by
    rw [Flock.holder_drop] at howner
    exact hkept owner howner.2 (h.holder_alive owner howner.1)
  holder_named p hp := by
    rw [Flock.holder_drop] at hp
    exact h.holder_named p hp.1
  text_range := h.text_range

/-- **One event keeps the invariant.** -/
theorem machineInv_step (m : Machine) (e : MachineEvent) (h : MachineInv m) :
    MachineInv (machineStep m e) := by
  cases e with
  | spawn pid => exact machineInv_spawn h pid
  | acquire pid => exact machineInv_acquire h pid
  | release pid =>
    refine machineInv_drop h _ _ _ (fun _ hp => hp) (fun _ _ hp => hp) fun p => ?_
    by_cases hp : p = pid <;> simp [hp]
  | exit pid =>
    refine machineInv_drop h _ _ _ ?_ ?_ fun p => ?_
    · intro p hp
      simp only [Function.update_apply] at hp
      split at hp
      · cases hp
      · exact hp
    · intro owner hgone hp
      have hne : owner.process ≠ pid := by simpa using hgone
      simp only [Function.update_apply, hne, if_false]
      exact hp
    · by_cases hp : p = pid <;> simp [LockOwner.process, hp]
  | probeLock pid =>
    rw [machineStep]
    split
    · rename_i halive
      constructor
      · exact h.alive_range
      · intro p
        show m.active p = true ↔ ((m.anchor.lock.tryLock (.probe pid)).1).holder = _
        rw [holder_attempt, h.active_iff]
        simp
      · intro owner howner
        change ((m.anchor.lock.tryLock (.probe pid)).1).holder = _ at howner
        rcases (holder_attempt _ _).mp howner with hheld | ⟨-, rfl⟩
        · exact h.holder_alive owner hheld
        · exact halive
      · intro p hp
        change ((m.anchor.lock.tryLock (.probe pid)).1).holder = _ at hp
        rcases (holder_attempt _ _).mp hp with hheld | ⟨-, heq⟩
        · show (PidManager.openAnchor m.anchor).text = _
          simp [PidManager.openAnchor, h.holder_named p hheld]
        · cases heq
      · exact .inr (text_openAnchor h.text_range)
    · exact h
  | probeUnlock pid =>
    refine machineInv_drop h _ _ _ (fun _ hp => hp) (fun _ _ hp => hp) fun p => ?_
    simp
  | dashboardStop => exact h
  | cliStop => exact h

/-- **Every reachable state.** -/
theorem machineRun_inv (events : List MachineEvent) :
    MachineInv (run machineStep .start events) :=
  run_inv MachineInv machineInv_start machineInv_step events

end Invariant

end WattWarden
