import WattWarden.Platform.Privilege
import Mathlib.Tactic.Push

/-!
# How often an elevated command runs

`rerun_elevated` reads two things out of an exit code: code 1 from `sudo -n` means a refusal, 126
and 127 from `pkexec` a dismissed dialog.  A command may exit with these codes as well.

* `trySilentSudo_cases` / `tryInteractiveSudo_cases` / `tryPkexec_cases` — **PROVED**: what each
  escalator can do, and what the source concludes from it;
* `RunsAgain` / `TakenForDismissal` — the two ways a run of the command is misread;
* `runsAtMostOnce_iff` — **PROVED**: in every other case, and only there, the command runs at most
  once and the outcome is its exit code.
-/

namespace WattWarden

/-- One call runs the command at most once, and reports the exit code of the run. -/
def RunsAtMostOnce (host : EscalationHost) (argv : List String) (interactive : Bool) : Prop :=
  (commandRuns host (rerunElevated host argv interactive).2).length ≤ 1 ∧
    ∀ code ∈ commandRuns host (rerunElevated host argv interactive).2,
      (rerunElevated host argv interactive).1 = .ran code

namespace EscalationHost

/-- `sudo` is asked on the terminal, and starts. -/
def PromptStarts (host : EscalationHost) (interactive : Bool) : Prop :=
  (interactive && host.hasSudo && host.isTerminal) = true ∧ host.answer .sudo ≠ .notStarted

/-- The command ran under `sudo -n` and exited 1; a later escalator is then asked, and runs it once
more or, for `pkexec`, reports an outcome of its own. -/
def RunsAgain (host : EscalationHost) (interactive : Bool) : Prop :=
  host.hasSudo = true ∧ host.answer .silentSudo = .runs 1 ∧
    ((host.PromptStarts interactive ∧ ∃ code, host.answer .sudo = .runs code) ∨
      (¬host.PromptStarts interactive ∧ host.hasPkexec = true))

/-- The command ran under `pkexec` only and exited with a code of the dialog. -/
def TakenForDismissal (host : EscalationHost) (interactive : Bool) : Prop :=
  (host.hasSudo = true → host.answer .silentSudo = .notStarted ∨
    host.answer .silentSudo = .refused 1) ∧
    ¬host.PromptStarts interactive ∧ host.hasPkexec = true ∧
    (host.answer .pkexec = .runs 126 ∨ host.answer .pkexec = .runs 127)

end EscalationHost

open EscalationHost

variable {host : EscalationHost} {argv : List String} {interactive : Bool}

/-! ### One escalator at a time -/

theorem commandRuns_append (started started' : List Escalator) :
    commandRuns host (started ++ started') = commandRuns host started ++ commandRuns host started' :=
  List.filterMap_append

theorem commandRuns_of_runs {e : Escalator} {code : ℤ} (h : host.answer e = .runs code) :
    commandRuns host [e] = [code] := by
  simp [commandRuns, h, EscalatorAnswer.commandCode]

theorem commandRuns_of_not_runs {e : Escalator} (h : ∀ code, host.answer e ≠ .runs code) :
    commandRuns host [e] = [] := by
  cases hanswer : host.answer e with
  | notStarted => simp [commandRuns, hanswer, EscalatorAnswer.commandCode]
  | refused code => simp [commandRuns, hanswer, EscalatorAnswer.commandCode]
  | runs code => exact absurd hanswer (h code)

/-- `sudo -n` decides when the command ran and did not exit 1; otherwise it hands on, and only a
command that exited 1 has been run. -/
theorem trySilentSudo_cases (host : EscalationHost) :
    (∃ code, code ≠ 1 ∧ host.hasSudo = true ∧ host.answer .silentSudo = .runs code ∧
      host.trySilentSudo = (some (.ran code), [.silentSudo])) ∨
    (host.hasSudo = true ∧ host.answer .silentSudo = .runs 1 ∧
      host.trySilentSudo = (none, [.silentSudo])) ∨
    ((host.hasSudo = true → host.answer .silentSudo = .notStarted ∨
        host.answer .silentSudo = .refused 1) ∧
      ∃ started, host.trySilentSudo = (none, started) ∧ commandRuns host started = []) := by
  cases hsudo : host.hasSudo with
  | false => exact .inr (.inr ⟨by simp, [], by simp [trySilentSudo, hsudo], rfl⟩)
  | true =>
    cases hanswer : host.answer .silentSudo with
    | notStarted =>
      exact .inr (.inr ⟨fun _ => .inl rfl, [.silentSudo],
        by simp [trySilentSudo, hsudo, hanswer, EscalatorAnswer.status],
        commandRuns_of_not_runs (by simp [hanswer])⟩)
    | refused code =>
      obtain rfl := host.sudo_refusal .silentSudo code (by decide) hanswer
      exact .inr (.inr ⟨fun _ => .inr rfl, [.silentSudo],
        by simp [trySilentSudo, hsudo, hanswer, EscalatorAnswer.status],
        commandRuns_of_not_runs (by simp [hanswer])⟩)
    | runs code =>
      by_cases hone : code = 1
      · subst hone
        exact .inr (.inl ⟨rfl, rfl, by simp [trySilentSudo, hsudo, hanswer, EscalatorAnswer.status]⟩)
      · refine .inl ⟨code, hone, rfl, rfl, ?_⟩
        by_cases hzero : code = 0
        · simp [trySilentSudo, hsudo, hanswer, EscalatorAnswer.status, hzero]
        · simp [trySilentSudo, hsudo, hanswer, EscalatorAnswer.status, hzero, hone]

/-- Interactive `sudo` decides once it starts, with the command's code or its own refusal. -/
theorem tryInteractiveSudo_cases (host : EscalationHost) (interactive : Bool) :
    (∃ code, host.PromptStarts interactive ∧ host.answer .sudo = .runs code ∧
      host.tryInteractiveSudo interactive = (some (.ran code), [.sudo])) ∨
    (host.PromptStarts interactive ∧ host.answer .sudo = .refused 1 ∧
      host.tryInteractiveSudo interactive = (some (.ran 1), [.sudo])) ∨
    (¬host.PromptStarts interactive ∧ ∃ started,
      host.tryInteractiveSudo interactive = (none, started) ∧ commandRuns host started = []) := by
  by_cases hasked : (interactive && host.hasSudo && host.isTerminal) = true
  · cases hanswer : host.answer .sudo with
    | notStarted =>
      exact .inr (.inr ⟨fun h => h.2 hanswer, [.sudo],
        by simp only [tryInteractiveSudo, if_pos hasked, hanswer]; rfl,
        commandRuns_of_not_runs (by simp [hanswer])⟩)
    | refused code =>
      obtain rfl := host.sudo_refusal .sudo code (by decide) hanswer
      exact .inr (.inl ⟨⟨hasked, by simp [hanswer]⟩, rfl,
        by simp only [tryInteractiveSudo, if_pos hasked, hanswer]; rfl⟩)
    | runs code =>
      exact .inl ⟨code, ⟨hasked, by simp [hanswer]⟩, rfl,
        by simp only [tryInteractiveSudo, if_pos hasked, hanswer]; rfl⟩
  · exact .inr (.inr ⟨fun h => hasked h.1, [], if_neg hasked, rfl⟩)

/-- `pkexec` decides where it is installed; it never reports a run that did not happen as one. -/
theorem tryPkexec_cases (host : EscalationHost) :
    (host.hasPkexec = false ∧ host.tryPkexec = (none, [])) ∨
    (∃ code, host.hasPkexec = true ∧ host.answer .pkexec = .runs code ∧ host.tryPkexec =
      (some (if code = 126 ∨ code = 127 then .cancelled else .ran code), [.pkexec])) ∨
    (host.hasPkexec = true ∧ commandRuns host [.pkexec] = [] ∧ (∀ c, host.answer .pkexec ≠ .runs c) ∧
      ∃ outcome, host.tryPkexec = (some outcome, [.pkexec]) ∧ ∀ code, outcome ≠ .ran code) := by
  cases hpkexec : host.hasPkexec with
  | false => exact .inl ⟨rfl, by simp [tryPkexec, hpkexec]⟩
  | true =>
    cases hanswer : host.answer .pkexec with
    | notStarted =>
      exact .inr (.inr ⟨rfl, commandRuns_of_not_runs (by simp [hanswer]), by simp, .unavailable,
        by simp [tryPkexec, hpkexec, hanswer, EscalatorAnswer.status], by simp⟩)
    | refused code =>
      refine .inr (.inr ⟨rfl, commandRuns_of_not_runs (by simp [hanswer]), by simp, .cancelled, ?_,
        by simp⟩)
      rcases host.pkexec_refusal code hanswer with rfl | rfl
      · simp [tryPkexec, hpkexec, hanswer, EscalatorAnswer.status]
      · simp [tryPkexec, hpkexec, hanswer, EscalatorAnswer.status]
    | runs code =>
      refine .inr (.inl ⟨code, rfl, rfl, ?_⟩)
      by_cases hzero : code = 0
      · simp [tryPkexec, hpkexec, hanswer, EscalatorAnswer.status, hzero]
      · simp [tryPkexec, hpkexec, hanswer, EscalatorAnswer.status, hzero]

/-! ### The chain -/

section Chain

variable {outcome : Escalation} {started started' started'' : List Escalator}

theorem rerunElevated_of_silent (hargv : argv ≠ [])
    (hsilent : host.trySilentSudo = (some outcome, started)) :
    rerunElevated host argv interactive = (outcome, started) := by
  rw [rerunElevated, if_neg (by simpa using hargv), hsilent]

theorem rerunElevated_of_prompted (hargv : argv ≠ [])
    (hsilent : host.trySilentSudo = (none, started))
    (hprompted : host.tryInteractiveSudo interactive = (some outcome, started')) :
    rerunElevated host argv interactive = (outcome, started ++ started') := by
  rw [rerunElevated, if_neg (by simpa using hargv), hsilent]
  simp only [hprompted]

theorem rerunElevated_of_pkexec (hargv : argv ≠ [])
    (hsilent : host.trySilentSudo = (none, started))
    (hprompted : host.tryInteractiveSudo interactive = (none, started'))
    (hgraphical : host.tryPkexec = (some outcome, started'')) :
    rerunElevated host argv interactive = (outcome, started ++ started' ++ started'') := by
  rw [rerunElevated, if_neg (by simpa using hargv), hsilent]
  simp only [hprompted, hgraphical]

theorem rerunElevated_of_none (hargv : argv ≠ [])
    (hsilent : host.trySilentSudo = (none, started))
    (hprompted : host.tryInteractiveSudo interactive = (none, started'))
    (hgraphical : host.tryPkexec = (none, started'')) :
    rerunElevated host argv interactive =
      (if host.hasSudo then .ran 1 else .unavailable, started ++ started' ++ started'') := by
  rw [rerunElevated, if_neg (by simpa using hargv), hsilent]
  simp only [hprompted, hgraphical]

end Chain

/-- A command that exited 1 under `sudo -n` is reported right when nothing runs after it. -/
theorem runsAtMostOnce_of_silent_one (hargv : argv ≠ []) (hsudo : host.hasSudo = true)
    (hrun : host.answer .silentSudo = .runs 1)
    (hsilent : host.trySilentSudo = (none, [.silentSudo])) :
    RunsAtMostOnce host argv interactive ↔ ¬host.RunsAgain interactive := by
  have hfirst := commandRuns_of_runs hrun
  rcases tryInteractiveSudo_cases host interactive with
    ⟨code, hstarts, hsecond, hprompted⟩ | ⟨hstarts, hsecond, hprompted⟩ | ⟨hstarts, started, hprompted, hnone⟩
  · have hagain : host.RunsAgain interactive := ⟨hsudo, hrun, .inl ⟨hstarts, code, hsecond⟩⟩
    rw [RunsAtMostOnce, rerunElevated_of_prompted hargv hsilent hprompted, commandRuns_append, hfirst,
      commandRuns_of_runs hsecond]
    simp [hagain]
  · have honce : ¬host.RunsAgain interactive := by simp [RunsAgain, hsecond, hstarts]
    rw [RunsAtMostOnce, rerunElevated_of_prompted hargv hsilent hprompted, commandRuns_append, hfirst,
      commandRuns_of_not_runs (by simp [hsecond])]
    simp [honce]
  · rcases tryPkexec_cases host with
      ⟨hmissing, hgraphical⟩ | ⟨code, hpkexec, hsecond, hgraphical⟩ |
        ⟨hpkexec, hsecond, -, outcome, hgraphical, hother⟩
    · have honce : ¬host.RunsAgain interactive := by simp [RunsAgain, hmissing, hstarts]
      rw [RunsAtMostOnce, rerunElevated_of_none hargv hsilent hprompted hgraphical,
        commandRuns_append, commandRuns_append, hfirst, hnone]
      simp [honce, hsudo, commandRuns]
    · have hagain : host.RunsAgain interactive := ⟨hsudo, hrun, .inr ⟨hstarts, hpkexec⟩⟩
      rw [RunsAtMostOnce, rerunElevated_of_pkexec hargv hsilent hprompted hgraphical,
        commandRuns_append, commandRuns_append, hfirst, hnone, commandRuns_of_runs hsecond]
      simp [hagain]
    · have hagain : host.RunsAgain interactive := ⟨hsudo, hrun, .inr ⟨hstarts, hpkexec⟩⟩
      rw [RunsAtMostOnce, rerunElevated_of_pkexec hargv hsilent hprompted hgraphical,
        commandRuns_append, commandRuns_append, hfirst, hnone, hsecond]
      simp [hagain, hother]

/-- When `sudo -n` has not run the command, only `pkexec` can misread its exit code. -/
theorem runsAtMostOnce_of_silent_none {started : List Escalator} (hargv : argv ≠ [])
    (hidle : host.hasSudo = true → host.answer .silentSudo = .notStarted ∨
      host.answer .silentSudo = .refused 1)
    (hsilent : host.trySilentSudo = (none, started)) (hfirst : commandRuns host started = []) :
    RunsAtMostOnce host argv interactive ↔ ¬host.TakenForDismissal interactive := by
  rcases tryInteractiveSudo_cases host interactive with
    ⟨code, hstarts, hrun, hprompted⟩ | ⟨hstarts, hrefused, hprompted⟩ |
      ⟨hstarts, started', hprompted, hsecond⟩
  · have hright : ¬host.TakenForDismissal interactive := fun h => h.2.1 hstarts
    rw [RunsAtMostOnce, rerunElevated_of_prompted hargv hsilent hprompted, commandRuns_append, hfirst,
      commandRuns_of_runs hrun]
    simp [hright]
  · have hright : ¬host.TakenForDismissal interactive := fun h => h.2.1 hstarts
    rw [RunsAtMostOnce, rerunElevated_of_prompted hargv hsilent hprompted, commandRuns_append, hfirst,
      commandRuns_of_not_runs (by simp [hrefused])]
    simp [hright]
  · rcases tryPkexec_cases host with
      ⟨hmissing, hgraphical⟩ | ⟨code, hpkexec, hrun, hgraphical⟩ |
        ⟨hpkexec, hnone, hidle', outcome, hgraphical, hother⟩
    · have hright : ¬host.TakenForDismissal interactive := by simp [TakenForDismissal, hmissing]
      rw [RunsAtMostOnce, rerunElevated_of_none hargv hsilent hprompted hgraphical,
        commandRuns_append, commandRuns_append, hfirst, hsecond]
      simp [hright, commandRuns]
    · have hmisread : host.TakenForDismissal interactive ↔ code = 126 ∨ code = 127 := by
        simpa [TakenForDismissal, hstarts, hpkexec, hrun] using fun _ => hidle
      rw [RunsAtMostOnce, rerunElevated_of_pkexec hargv hsilent hprompted hgraphical,
        commandRuns_append, commandRuns_append, hfirst, hsecond, commandRuns_of_runs hrun, hmisread]
      by_cases hcode : code = 126 ∨ code = 127
      · simp [hcode]
      · simp [hcode]
    · have hright : ¬host.TakenForDismissal interactive := by
        simp [TakenForDismissal, hidle']
      rw [RunsAtMostOnce, rerunElevated_of_pkexec hargv hsilent hprompted hgraphical,
        commandRuns_append, commandRuns_append, hfirst, hsecond, hnone]
      simp [hright]

/-- **When an elevated command runs at most once.**  For every command and every host, it does, and
its exit code is the outcome, unless it exits 1 under `sudo -n` and another escalator is asked, or
exits 126 or 127 under `pkexec`. -/
theorem runsAtMostOnce_iff (host : EscalationHost) (program : String) (args : List String)
    (interactive : Bool) :
    RunsAtMostOnce host (program :: args) interactive ↔
      ¬host.RunsAgain interactive ∧ ¬host.TakenForDismissal interactive := by
  have hargv : program :: args ≠ [] := by simp
  rcases trySilentSudo_cases host with
    ⟨code, hone, hsudo, hrun, hsilent⟩ | ⟨hsudo, hrun, hsilent⟩ | ⟨hidle, started, hsilent, hfirst⟩
  · have honce : ¬host.RunsAgain interactive := by simp [RunsAgain, hrun, hone]
    have hright : ¬host.TakenForDismissal interactive := by simp [TakenForDismissal, hsudo, hrun]
    rw [RunsAtMostOnce, rerunElevated_of_silent hargv hsilent, commandRuns_of_runs hrun]
    simp [honce, hright]
  · have hright : ¬host.TakenForDismissal interactive := by simp [TakenForDismissal, hsudo, hrun]
    rw [runsAtMostOnce_of_silent_one hargv hsudo hrun hsilent]
    simp [hright]
  · have honce : ¬host.RunsAgain interactive := by
      intro h
      obtain ⟨hsudo, hrun, -⟩ := h
      rcases hidle hsudo with hanswer | hanswer
      · rw [hanswer] at hrun
        cases hrun
      · rw [hanswer] at hrun
        cases hrun
    rw [runsAtMostOnce_of_silent_none hargv hidle hsilent hfirst]
    simp [honce]

/-- `sudo` with cached credentials and `pkexec`; the command exits 1 every time. -/
def failingCommandHost : EscalationHost where
  hasSudo := true
  hasPkexec := true
  isTerminal := false
  answer _ := .runs 1
  sudo_refusal := by simp
  pkexec_refusal := by simp

/-- A command that exits 1 under `sudo -n` is run again by `pkexec`. -/
theorem runsAtMostOnce_failing_command :
    ¬RunsAtMostOnce failingCommandHost ["wattwarden", "calibrate"] false := by
  intro h
  exact absurd h.1 (by decide)

end WattWarden
