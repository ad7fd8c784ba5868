import Mathlib.Data.Int.Notation

/-!
# Privilege escalation for one-shot hardware writes

`rerun_elevated`: cached-credential `sudo -n`, then `sudo` where there is a terminal to prompt on,
then `pkexec`.  An escalator either does not run the command or runs it once; the exit status of
its process is all the caller gets to see.

* `EscalatorAnswer` / `EscalatorAnswer.status` — what an escalator does, and the status it ends with;
* `EscalationHost` — the installed escalators, the terminal, and the answer of each escalator: a
  refusal by `sudo` exits 1, a dismissed `pkexec` dialog 126 or 127;
* `rerunElevated` — the outcome, with the escalators that were started on the way;
* `commandRuns` — the exit codes of the runs of the command in a list of started escalators.
-/

namespace WattWarden

/-- Outcome of an escalation attempt. -/
inductive Escalation where
  | ran (code : ℤ)
  | cancelled
  | unavailable
  deriving DecidableEq, Repr

/-- The three ways a command is handed to an escalator. -/
inductive Escalator where
  | silentSudo
  | sudo
  | pkexec
  deriving DecidableEq, Repr

/-- What an escalator does with a command: its process cannot be started, it refuses with an exit
code of its own, or it runs the command and exits with the command's code. -/
inductive EscalatorAnswer where
  | notStarted
  | refused (code : ℤ)
  | runs (code : ℤ)
  deriving DecidableEq, Repr

/-- The exit code of the escalator's process, when there was one. -/
def EscalatorAnswer.status : EscalatorAnswer → Option ℤ
  | notStarted => none
  | refused code => some code
  | runs code => some code

/-- The exit code of the command, when it was run. -/
def EscalatorAnswer.commandCode : EscalatorAnswer → Option ℤ
  | notStarted => none
  | refused _ => none
  | runs code => some code

structure EscalationHost where
  hasSudo : Bool
  hasPkexec : Bool
  /-- Standard output is a terminal. -/
  isTerminal : Bool
  answer : Escalator → EscalatorAnswer
  sudo_refusal : ∀ e code, e ≠ .pkexec → answer e = .refused code → code = 1
  pkexec_refusal : ∀ code, answer .pkexec = .refused code → code = 126 ∨ code = 127

namespace EscalationHost

/-- `sudo -n`: decides unless it is missing or exits 1. -/
def trySilentSudo (host : EscalationHost) : Option Escalation × List Escalator :=
  if host.hasSudo then
    let decided :=
      match (host.answer .silentSudo).status with
      | some code =>
          if code = 0 then some (.ran 0)
          else if code ≠ 1 then some (.ran code)
          else none
      | none => none
    (decided, [.silentSudo])
  else (none, [])

/-- Interactive `sudo`: decides once it is started. -/
def tryInteractiveSudo (host : EscalationHost) (interactive : Bool) :
    Option Escalation × List Escalator :=
  if interactive && host.hasSudo && host.isTerminal then
    ((host.answer .sudo).status.map .ran, [.sudo])
  else (none, [])

/-- `pkexec`: decides where it is installed. -/
def tryPkexec (host : EscalationHost) : Option Escalation × List Escalator :=
  if host.hasPkexec then
    let outcome :=
      match (host.answer .pkexec).status with
      | some code =>
          if code = 0 then .ran 0
          else if code = 126 ∨ code = 127 then .cancelled
          else .ran code
      | none => .unavailable
    (some outcome, [.pkexec])
  else (none, [])

end EscalationHost

/-- `rerun_elevated`, with the escalators it starts. -/
def rerunElevated (host : EscalationHost) (argv : List String) (interactive : Bool) :
    Escalation × List Escalator :=
  if argv.isEmpty then (.unavailable, [])
  else
    let (silent, started) := host.trySilentSudo
    if let some outcome := silent then (outcome, started)
    else
      let (prompted, started') := host.tryInteractiveSudo interactive
      if let some outcome := prompted then (outcome, started ++ started')
      else
        let (graphical, started'') := host.tryPkexec
        if let some outcome := graphical then (outcome, started ++ started' ++ started'')
        else (if host.hasSudo then .ran 1 else .unavailable, started ++ started' ++ started'')

/-- The exit codes of the runs of the command, in order. -/
def commandRuns (host : EscalationHost) (started : List Escalator) : List ℤ :=
  started.filterMap fun e => (host.answer e).commandCode

/-- `elevate` of the command line: the exit code to leave with, when there is one. -/
def RealRuntime.elevate (host : EscalationHost) (exe : String) (args : List String) : Option ℤ :=
  match (rerunElevated host (exe :: args) true).1 with
  | .ran code => some code
  | _ => none

end WattWarden
