import WattWarden.Daemon.Processes

/-!
# Who is signalled, and what the lock tells

Two results about one machine: the stop commands signal the process the file names, and the file
outlives the daemon; the liveness probe takes the very lock it asks about.

* `stop_signals_daemon_iff` — **PROVED**: in every run, every `SIGTERM` reaches the process that
  holds the instance lock if and only if each stop command finds a daemon holding it, or nobody
  alive under the number in the file;
* `stop_signals_stranger` — a run that signals an unrelated process;
* `liveness_truthful_iff` — **PROVED**: at most one daemon is ever active, and the answers of
  `acquire` and `is_running` are truthful if and only if no attempt is made while a probe has the
  lock, nor by the active daemon itself;
* `probe_refuses_daemon`, `probe_sees_probe` — a probe turns the only daemon away, and takes
  another probe for a daemon.
-/

namespace WattWarden

open Library.Locking Library.Numerals Library.Runs

/-! ### Signals -/

/-- The signal of a stop command reaches the process that holds the instance lock. -/
def SignalsDaemon (m : Machine) : MachineEvent → Prop
  | .dashboardStop | .cliStop => ∀ pid, sigterm m = some pid →
      m.anchor.lock.holder = some (.daemon pid)
  | _ => True

/-- A stop command finds a daemon holding the lock, or nobody alive under the number in the file. -/
def StopIsSafe (m : Machine) : MachineEvent → Prop
  | .dashboardStop | .cliStop => (∃ pid, m.anchor.lock.holder = some (.daemon pid)) ∨
      ∀ pid : ℕ, PidManager.readPid m.anchor = some (pid : ℤ) → m.alive pid = false
  | _ => True

/-- A process number survives the file. -/
theorem readPid_decimal {a : Anchor} {pid : ℕ} (h : a.text = some (decimal pid))
    (hpid : pid < pidMax) : PidManager.readPid a = some (pid : ℤ) := by
  have hbound : pid < 2 ^ 31 := by
    rw [pidMax] at hpid
    omega
  rw [PidManager.readPid, h, Option.bind_some, trim_decimal, parseSigned_decimal hbound]

/-- **The signal goes where the file points**, to a process alive under that number. -/
theorem sigterm_eq_some_iff {m : Machine} (h : MachineInv m) (pid : ℕ) :
    sigterm m = some pid ↔
      PidManager.readPid m.anchor = some (pid : ℤ) ∧ m.alive pid = true := by
  rw [sigterm]
  constructor
  · intro hsig
    obtain ⟨raw, hraw, hsome⟩ := Option.bind_eq_some_iff.mp hsig
    split at hsome
    · rename_i hcond
      have hpid : raw.toNat = pid := Option.some.inj hsome
      have hcast : (pid : ℤ) = raw := by omega
      rw [hcast, ← hpid]
      exact ⟨hraw, hcond.2⟩
    · cases hsome
  · intro h
    obtain ⟨hread, halive⟩ := h
    have hpos : pid ≠ 0 := by
      have := (h.alive_range pid halive).1
      omega
    simp [hread, Nat.pos_of_ne_zero hpos, halive]

theorem signalsDaemon_iff_stopIsSafe (m : Machine) (e : MachineEvent) (h : MachineInv m) :
    SignalsDaemon m e ↔ StopIsSafe m e := by
  have hstop : (∀ pid, sigterm m = some pid → m.anchor.lock.holder = some (.daemon pid)) ↔
      ((∃ pid, m.anchor.lock.holder = some (.daemon pid)) ∨
        ∀ pid : ℕ, PidManager.readPid m.anchor = some (pid : ℤ) → m.alive pid = false) := by
    constructor
    · intro hsig
      by_cases hheld : ∃ pid, m.anchor.lock.holder = some (.daemon pid)
      · exact .inl hheld
      · refine .inr fun pid hread => ?_
        cases halive : m.alive pid with
        | false => rfl
        | true =>
          exact absurd ⟨pid, hsig pid ((sigterm_eq_some_iff h pid).mpr ⟨hread, halive⟩)⟩ hheld
    · intro hsafe pid hsig
      obtain ⟨hread, halive⟩ := (sigterm_eq_some_iff h pid).mp hsig
      rcases hsafe with ⟨owner, hheld⟩ | hdead
      · have howner := readPid_decimal (h.holder_named owner hheld)
          (h.alive_range owner (h.holder_alive _ hheld)).2
        rw [hread] at howner
        have heq : pid = owner := by
          have := Option.some.inj howner
          omega
        rw [heq]
        exact hheld
      · rw [hdead pid hread] at halive
        cases halive
  cases e with
  | dashboardStop => exact hstop
  | cliStop => exact hstop
  | spawn | acquire | release | exit | probeLock | probeUnlock => exact Iff.rfl

/-- **Only the daemon is signalled, exactly.**  In every run of starts, exits, crashes, number
reuse, probes and stop commands, every signal sent reaches the process that holds the instance lock
if and only if each stop command is made while a daemon holds it, or while nobody is alive under
the number in the file. -/
theorem stop_signals_daemon_iff (events : List MachineEvent) :
    StepsMeet SignalsDaemon machineStep .start events ↔
      StepsMeet StopIsSafe machineStep .start events :=
  stepsMeet_iff MachineInv machineInv_start machineInv_step signalsDaemon_iff_stopIsSafe

/-- The daemon 41 crashes, an unrelated process gets its number, and a manual adjustment on the
dashboard signals that process. -/
theorem stop_signals_stranger :
    let m := run machineStep .start [.spawn 41, .acquire 41, .exit 41, .spawn 41]
    m.anchor.lock.holder = none ∧ sigterm m = some 41 ∧
    ¬StepsMeet SignalsDaemon machineStep .start
      [.spawn 41, .acquire 41, .exit 41, .spawn 41, .dashboardStop] := by
  refine ⟨by decide +kernel, by decide +kernel, ?_⟩
  intro hall
  obtain ⟨-, -, -, -, hstop, -⟩ := hall
  have hheld := hstop 41 (by decide +kernel)
  revert hheld
  decide +kernel

/-! ### The probe -/

/-- At most one daemon has acquired and not released. -/
def AtMostOneDaemon (m : Machine) : Prop :=
  ∀ p q, m.active p = true → m.active q = true → p = q

/-- A refused daemon was refused because of another active one, and a probe that answers `true`
does so because of an active daemon. -/
def Truthful (m : Machine) : MachineEvent → Prop
  | .acquire pid => m.alive pid = true → (PidManager.acquire m.anchor pid).2.isOk = false →
      ∃ other, other ≠ pid ∧ m.active other = true
  | .probeLock pid => m.alive pid = true → (PidManager.probeLock m.anchor pid).2 = true →
      ∃ daemon, m.active daemon = true
  | _ => True

/-- No attempt on the lock while a probe has it, nor by the active daemon itself. -/
def NoProbeInTheWay (m : Machine) : MachineEvent → Prop
  | .acquire pid => m.alive pid = true →
      m.anchor.lock.holder ≠ some (.daemon pid) ∧
      ∀ q, m.anchor.lock.holder ≠ some (.probe q)
  | .probeLock pid => m.alive pid = true → ∀ q, m.anchor.lock.holder ≠ some (.probe q)
  | _ => True

theorem atMostOneDaemon_of_inv {m : Machine} (h : MachineInv m) : AtMostOneDaemon m := by
  intro p q hp hq
  have hholder := (h.active_iff p).mp hp
  rw [(h.active_iff q).mp hq] at hholder
  simpa using hholder.symm

theorem truthful_iff_noProbeInTheWay (m : Machine) (e : MachineEvent) (h : MachineInv m) :
    Truthful m e ↔ NoProbeInTheWay m e := by
  cases e with
  | acquire pid =>
    refine forall_congr' fun _ => ?_
    have hok := PidManager.acquire_ok_iff m.anchor pid
    cases hholder : m.anchor.lock.holder with
    | none =>
      rw [hok.mpr hholder]
      simp
    | some owner =>
      have herr : (PidManager.acquire m.anchor pid).2.isOk = false :=
        (PidManager.acquire_of_held hholder pid).2
      cases owner with
      | daemon p =>
        simp only [herr, h.active_iff, hholder, Option.some.injEq, LockOwner.daemon.injEq,
          exists_eq_right', ne_eq, reduceCtorEq, not_false_eq_true, implies_true, and_true,
          forall_const]
      | probe q =>
        simp [herr, h.active_iff, hholder]
  | probeLock pid =>
    refine forall_congr' fun _ => ?_
    rw [PidManager.probeLock_true_iff]
    cases hholder : m.anchor.lock.holder with
    | none => simp
    | some owner =>
      cases owner with
      | daemon p => simp [h.active_iff, hholder]
      | probe q => simp [h.active_iff, hholder]
  | spawn | release | exit | probeUnlock | dashboardStop | cliStop => exact Iff.rfl

/-- **The probe, exactly.**  In every interleaving of acquires, releases, crashes and probes of any
number of processes, at most one daemon is active at any time; and `acquire` is refused only
because of another active daemon and `is_running` answers `true` only because of one, if and only
if no attempt is made on the lock while a probe has it, nor by the active daemon itself. -/
theorem liveness_truthful_iff (events : List MachineEvent) :
    Always AtMostOneDaemon machineStep .start events ∧
    (StepsMeet Truthful machineStep .start events ↔
      StepsMeet NoProbeInTheWay machineStep .start events) := by
  constructor
  · exact always_of_inv MachineInv machineInv_start (fun m e h _ => machineInv_step m e h)
      (fun _ h => atMostOneDaemon_of_inv h) stepsMeet_true
  · exact stepsMeet_iff MachineInv machineInv_start machineInv_step truthful_iff_noProbeInTheWay

/-- The start-up poll of process 7 probes exactly while the only daemon, process 8, acquires: the
daemon is refused although no daemon is active. -/
theorem probe_refuses_daemon :
    ¬StepsMeet Truthful machineStep .start [.spawn 7, .spawn 8, .probeLock 7, .acquire 8] := by
  intro hall
  obtain ⟨-, -, -, hacquire, -⟩ := hall
  obtain ⟨other, -, hactive⟩ := hacquire (by decide +kernel) (by decide +kernel)
  cases hactive

/-- Two probes at once: the second takes the first for a daemon. -/
theorem probe_sees_probe :
    ¬StepsMeet Truthful machineStep .start [.spawn 7, .spawn 8, .probeLock 7, .probeLock 8] := by
  intro hall
  obtain ⟨-, -, -, hprobe, -⟩ := hall
  obtain ⟨daemon, hactive⟩ := hprobe (by decide +kernel) (by decide +kernel)
  cases hactive

end WattWarden
