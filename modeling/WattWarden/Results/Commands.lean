import WattWarden.FrontEnds.ChargeLimit
import WattWarden.FrontEnds.RealRuntime
import WattWarden.Library.Runs
import WattWarden.Results.CliGate

/-!
# What commands do to a machine

Command lines run to their end on a machine, by processes with root and without, one after the
other.  A command that hands over to the daemon or the dashboard is not among them.

* `toggled` / `user_or_refused` — **PROVED**: without root a command does what it does with root, or
  nothing; only auto-brightness is switched by either process, each with a save of its own;
* `namedSetting` / `namedBrightness` — what a command line names;
* `Done` / `Settles` — what exit code 0 promises, and what a command leaves;
* `invoke_settles` — **PROVED**: every command settles;
* `session_settings` — **PROVED**: after any session the configuration is the old one with settings
  that were named, in the order they were named.
-/

namespace WattWarden

open Library.Numerals Library.Requests Library.Requests.Program

namespace Cli

/-! ### Parts of commands on a machine -/

section Parts

variable {rt : CliRuntime World} {w : World}

/-- The runtime answers what only asks or prints without touching the world. -/
def Asks (rt : CliRuntime World) : Prop := ∀ r w, Harmless r → (rt r w).2 = w

theorem asks_operation (o : Circumstances) (elevate : World → Option ℤ × World) :
    Asks (RealRuntime.operation o elevate) := by
  intro r w h
  cases r <;> first | rfl | cases h

theorem result_asksOnly {α : Type} (hrt : Asks rt) {p : Cli α} (h : AsksOnly p) :
    (result rt p w).2 = w := result_memory hrt h w

theorem result_fail (hrt : Asks rt) (message : String) : result rt (fail message) w = (1, w) := by
  have hprinted : (rt (.writeln (.text message)) w).2 = w := hrt _ w trivial
  show ((1 : ℤ), (rt (.writeln (.text message)) w).2) = _
  rw [hprinted]

/-- A command that makes one call: exit code 0 if it returned `Ok`, and the world the call left. -/
theorem result_reporting {α : Type} (hrt : Asks rt) (operation : Cli (Except String α))
    (complaint : String) {success : α → Cli Unit} (hsuccess : ∀ a, AsksOnly (success a)) :
    result rt (reporting operation complaint success) w
      = (if (result rt operation w).1.isOk then 0 else 1, (result rt operation w).2) := by
  rw [reporting, result_bind]
  obtain ⟨answer, after⟩ := result rt operation w
  cases answer with
  | error e => exact result_fail hrt (complaint ++ e)
  | ok a =>
    show result rt (success a >>= fun _ => pure 0) after = (0, after)
    rw [result_bind, result_pure, result_asksOnly hrt (hsuccess a)]

theorem result_requireRoot (hrt : Asks rt) (hroot : (rt .isRoot w).2 = w) (message : String)
    (body : Cli ℤ) : result rt (requireRoot message body) w
      = if (rt .isRoot w).1 then result rt body w else (1, w) := by
  rw [requireRoot, result_bind]
  show result rt (if (rt .isRoot w).1 then body else fail message) (rt .isRoot w).2 = _
  rw [hroot]
  split
  · rfl
  · exact result_fail hrt message

theorem result_ensurePrivileged (hrt : Asks rt) (hroot : (rt .isRoot w).2 = w) (message : String)
    (body : Cli ℤ) : result rt (ensurePrivileged message body) w
      = if (rt .isRoot w).1 then result rt body w
        else ((rt .elevate w).1.getD 1, (rt .elevate w).2) := by
  rw [ensurePrivileged, result_bind]
  show result rt (if (rt .isRoot w).1 then body else _) (rt .isRoot w).2 = _
  rw [hroot]
  split
  · rfl
  · have hcall : result rt (call .elevate) w = rt .elevate w := rfl
    rw [result_bind, hcall]
    obtain ⟨escalated, after⟩ := rt .elevate w
    cases escalated with
    | some code => rfl
    | none => exact result_fail hrt message

end Parts

/-! ### With root and without -/

section Privileges

variable {o : Circumstances} {args : List String} {w : World}

/-- What only asks or prints is answered alike without root and with it, but for the privileges. -/
theorem userRuntime_eq (r : CliRequest) (w : World) (h : Harmless r) :
    userRuntime o args r w = rootRuntime o r w := by
  cases r <;> first | rfl | exact absurd h id

/-- The process without root does what one with root does, or nothing. -/
def AlikeOrRefused (o : Circumstances) (args : List String) (w : World) (p : Cli ℤ) : Prop :=
  result (userRuntime o args) p w = result (rootRuntime o) p w ∨
    result (userRuntime o args) p w = (1, w)

theorem alike_asksOnly {p : Cli ℤ} (h : AsksOnly p) : AlikeOrRefused o args w p :=
  .inl (result_congr userRuntime_eq h w)

theorem refused_requireRoot (message : String) (body : Cli ℤ) :
    AlikeOrRefused o args w (requireRoot message body) := by
  right
  have hasks : Asks (userRuntime o args) := asks_operation _ _
  rw [result_requireRoot hasks rfl]
  rfl

/-- The same, and nothing only where no escalator is usable. -/
def Elevated (o : Circumstances) (args : List String) (w : World) (p : Cli ℤ) : Prop :=
  result (userRuntime o args) p w = result (rootRuntime o) p w ∨
    (o.escalates = false ∧ result (userRuntime o args) p w = (1, w))

theorem Elevated.alike {p : Cli ℤ} (h : Elevated o args w p) : AlikeOrRefused o args w p :=
  h.imp_right And.right

theorem elevated_asksOnly {p : Cli ℤ} (h : AsksOnly p) : Elevated o args w p :=
  .inl (result_congr userRuntime_eq h w)

/-- An escalator runs the whole command with root. -/
theorem elevated_ensurePrivileged {message : String} {body : Cli ℤ}
    (hrun : Cli.run args = ensurePrivileged message body) :
    Elevated o args w (ensurePrivileged message body) := by
  have hasks : Asks (userRuntime o args) := asks_operation _ _
  have huser : result (userRuntime o args) (ensurePrivileged message body) w
      = ((elevate o args w).1.getD 1, (elevate o args w).2) := by
    rw [result_ensurePrivileged hasks rfl]
    rfl
  rw [Elevated, huser, elevate]
  cases o.escalates with
  | false => exact .inr ⟨rfl, rfl⟩
  | true =>
    left
    rw [← hrun]
    rfl

/-- What a command line switches auto-brightness to. -/
def toggled (args : List String) : Option Bool :=
  match args[1]?.bind commandOf with
  | some .brightnessFlag => args[2]?.map fun arg => decide (arg = "on" ∨ arg = "1" ∨ arg = "true")
  | some .brightness =>
      match args[2]? with
      | some "on" => some true
      | some "off" => some false
      | _ => none
  | _ => none

theorem run_of_toggled {enabled : Bool} (h : toggled args = some enabled) :
    Cli.run args = toggleAutoBrightness enabled := by
  rw [Cli.run]
  rw [toggled] at h
  split at h
  · rename_i hcommand
    obtain ⟨arg, harg, rfl⟩ := Option.map_eq_some_iff.mp h
    rw [hcommand, harg]
    rfl
  · rename_i hcommand
    rw [hcommand]
    split at h
    · rename_i harg
      rw [harg, ← Option.some.inj h]
      rfl
    · rename_i harg
      rw [harg, ← Option.some.inj h]
      rfl
    · cases h
  · cases h

theorem alike_brightness (hcommand : args[1]?.bind commandOf = some .brightness)
    (h : toggled args = none) : AlikeOrRefused o args w (brightness args[2]?) := by
  rw [toggled, hcommand] at h
  unfold brightness
  split
  · rename_i harg
    rw [harg] at h
    cases h
  · rename_i harg
    rw [harg] at h
    cases h
  · split
    · split
      · exact refused_requireRoot _ _
      · exact alike_asksOnly (asksOnly_fail _)
    · exact alike_asksOnly (asksOnly_fail _)
  · exact alike_asksOnly asksOnly_showAutoBrightness

theorem elevated_chargeLimit {arg : Option String} (hrun : Cli.run args = chargeLimit arg) :
    Elevated o args w (chargeLimit arg) := by
  obtain ⟨p, hp⟩ : ∃ p, p = chargeLimit arg := ⟨_, rfl⟩
  rw [← hp] at hrun ⊢
  unfold chargeLimit at hp
  split at hp
  · rw [hp]
    exact elevated_ensurePrivileged (hrun.trans hp)
  · split at hp
    · split at hp
      · rw [hp]
        exact elevated_ensurePrivileged (hrun.trans hp)
      · rw [hp]
        exact elevated_asksOnly (asksOnly_fail _)
    · rw [hp]
      exact elevated_asksOnly (asksOnly_fail _)
  · rw [hp]
    exact elevated_asksOnly (asksOnly_reportHealth _ fun _ => asksOnly_println _)

theorem alike_service (arg : Option String) : AlikeOrRefused o args w (service arg) := by
  unfold service
  split
  · exact refused_requireRoot _ _
  · exact refused_requireRoot _ _
  · exact alike_asksOnly (asksOnly_printHelp.bind fun _ => asksOnly_pure 1)

theorem alike_run (o : Circumstances) (w : World) (h : toggled args = none) :
    AlikeOrRefused o args w (Cli.run args) := by
  obtain ⟨p, hp⟩ : ∃ p, p = Cli.run args := ⟨_, rfl⟩
  have hrun := hp.symm
  rw [Cli.run] at hp
  rw [hrun]
  split at hp
  · rename_i command hcommand
    rw [hp] at hrun ⊢
    cases command with
    | daemon => exact refused_requireRoot _ _
    | installService => exact refused_requireRoot _ _
    | uninstallService => exact refused_requireRoot _ _
    | service => exact alike_service _
    | start => exact refused_requireRoot _ _
    | stop => exact refused_requireRoot _ _
    | status =>
      exact alike_asksOnly (asksOnly_printDaemon.bind fun _ =>
        asksOnly_printBattery.bind fun _ => asksOnly_pure 0)
    | health =>
      exact alike_asksOnly (asksOnly_reportHealth _ fun report =>
        asksOnly_call (r := .writeln (.health report)) trivial)
    | chargeLimit => exact (elevated_chargeLimit hrun).alike
    | calibrate => exact (elevated_ensurePrivileged hrun).alike
    | brightnessFlag =>
      show AlikeOrRefused o args w (brightnessFlag _)
      unfold brightnessFlag
      split
      · rename_i harg
        simp only [toggled, hcommand, harg, Option.map_some, reduceCtorEq] at h
      · exact alike_asksOnly asksOnly_showAutoBrightness
    | brightness => exact alike_brightness hcommand h
    | profile => exact refused_requireRoot _ _
    | level => exact refused_requireRoot _ _
    | version =>
      exact alike_asksOnly ((asksOnly_println _).bind fun _ => asksOnly_pure 0)
    | help =>
      exact alike_asksOnly (asksOnly_printHelp.bind fun _ => asksOnly_pure 0)
  · rw [hp]
    exact refused_requireRoot _ _

/-- **Without root a command does what it does with root, or nothing.**  Whatever the machine and the
command line, a process without root leaves the world and the exit code that one with root would, or
exit code 1 and the world as it was; and for the charge limit and the calibration the latter only
where no escalator is usable.  Auto-brightness is switched without asking for root: there both exit
with 0, and each has saved the flag as far as its own save went. -/
theorem user_or_refused (o : Circumstances) (args : List String) (w : World) :
    let user := invoke { o with isRoot := false } args w
    let root := invoke { o with isRoot := true } args w
    (toggled args = none → user = root ∨ user = (1, w)) ∧
    (o.escalates = true →
      args[1]?.bind commandOf = some .chargeLimit ∨ args[1]?.bind commandOf = some .calibrate →
      user = root) ∧
    (∀ enabled, toggled args = some enabled → ∀ isRoot : Bool,
      let process := { o with isRoot := isRoot }
      invoke process args w = (0, (RealRuntime.saveSetting process w (.autoBrightness enabled)).2)) := by
  intro user root
  refine ⟨alike_run o w, ?_, ?_⟩
  · intro hescalates hcommand
    have helevated : Elevated o args w (Cli.run args) := by
      rcases hcommand with hcommand | hcommand
      · have hrun : Cli.run args = chargeLimit args[2]? := by rw [Cli.run, hcommand]; rfl
        rw [hrun]
        exact elevated_chargeLimit hrun
      · have hrun : Cli.run args = calibrate args[2]? := by rw [Cli.run, hcommand]; rfl
        rw [hrun]
        exact elevated_ensurePrivileged hrun
    rcases helevated with hsame | ⟨hnone, -⟩
    · exact hsame
    · rw [hescalates] at hnone
      cases hnone
  · intro enabled htoggled isRoot
    cases isRoot with
    | true =>
      show result (rootRuntime o) (Cli.run args) w = _
      rw [run_of_toggled htoggled]
      rfl
    | false =>
      show result (userRuntime o args) (Cli.run args) w = _
      rw [run_of_toggled htoggled]
      rfl

end Privileges

/-! ### What commands leave -/

/-- The setting a command line names. -/
def namedSetting (args : List String) : Option Setting :=
  let arg := args[2]?
  match args[1]?.bind commandOf with
  | some .start => some (.autoExtremeEnabled true)
  | some .stop => some (.autoExtremeEnabled false)
  | some .chargeLimit =>
      if arg = some "off" then some (.batteryChargeLimit none)
      else (arg.bind (parseUnsigned (2 ^ 8))).map fun n => .batteryChargeLimit (some n)
  | some .brightnessFlag => arg.map fun arg => .autoBrightness (arg = "on" ∨ arg = "1" ∨ arg = "true")
  | some .brightness => arg.map fun arg => .autoBrightness (arg = "on")
  | some .profile =>
      match (arg.map toAsciiLowercase).getD "" with
      | "performance" | "perf" => some (.profile (some .performance))
      | "extreme" => some (.profile (some .extreme))
      | "normal" | "restore" | "default" => some (.profile none)
      | "auto" => some (.autoExtremeEnabled true)
      | _ => none
  | some .level =>
      match arg with
      | some "low" => some (.autoExtremeLevel .low)
      | some "medium" => some (.autoExtremeLevel .medium)
      | some "high" => some (.autoExtremeLevel .high)
      | _ => none
  | _ => none

/-- A command line that hands over to the daemon or the dashboard. -/
def Foreground (args : List String) : Prop :=
  args[1]?.bind commandOf = none ∨ args[1]?.bind commandOf = some .daemon

/-- The brightness a command line names. -/
def namedBrightness (args : List String) : Option ℕ :=
  if args[1]?.bind commandOf = some .brightness then args[2]?.bind (parseUnsigned (2 ^ 8)) else none

/-- What exit code 0 promises.  A flag is saved as far as the save went: its error is dropped. -/
def Done (o : Circumstances) (args : List String) (w w' : World) (setting : Setting) : Prop :=
  let config := setting.apply w.file.loadOrDefault
  match setting with
  | .autoExtremeEnabled enabled => w'.file = (config.trySave w.file o.saved).1 ∧ w'.sysfs = w.sysfs ∧
      (enabled = true → o.startsDaemon.isOk = true)
  | .autoBrightness _ => w'.file = (config.trySave w.file o.saved).1 ∧
      match namedBrightness args with
      | none => w'.sysfs = w.sysfs
      | some n => 1 ≤ n ∧ n ≤ 100 ∧ (LinuxBacklight.withRoot w.sysfs.tree).isSome = true ∧
          w'.sysfs = LinuxBacklight.setBrightnessPercent o.host.brightnessctl w.sysfs n
  | .autoExtremeLevel _ => w'.file = config.save ∧ w'.sysfs = w.sysfs
  | .profile chosen => w'.file = config.save ∧
      w'.sysfs = (LinuxBackend.withRoot o.host w.sysfs.tree).applyProfile w.sysfs (chosen.getD .normal)
  | .batteryChargeLimit none => w'.file = config.save ∧ w'.sysfs = w.sysfs
  | .batteryChargeLimit (some n) => w'.file = config.save ∧ 55 ≤ n ∧ n ≤ 100 ∧
      (Threshold.setChargeThreshold w.sysfs n).2.isOk = true ∧
      w'.sysfs = (Threshold.setChargeThreshold w.sysfs n).1

/-- What a command leaves: a configuration it did not touch, or one it saved with the setting it
names; with exit code 0 what was promised; and a calibration state that only `calibrate` changes. -/
structure Settles (o : Circumstances) (args : List String) (w : World) (code : ℤ) (w' : World) :
    Prop where
  file : w'.file = w.file ∨ ∃ setting, namedSetting args = some setting ∧
    w'.file = ((setting.apply w.file.loadOrDefault).trySave w.file o.saved).1
  done : code = 0 → ∀ setting, namedSetting args = some setting → Done o args w w' setting
  state : args[1]?.bind commandOf ≠ some .calibrate → w'.state = w.state

section Settling

variable {o : Circumstances} {args : List String} {w : World}

/-- A run that leaves the world as it was, and either fails or names nothing. -/
theorem settles_same {code : ℤ} (h : code ≠ 0 ∨ namedSetting args = none) :
    Settles o args w code w where
  file := .inl rfl
  done hcode setting hnamed := by
    rcases h with h | h
    · exact absurd hcode h
    · rw [h] at hnamed
      cases hnamed
  state _ := rfl

/-- A save whose error is dropped, and what else was done. -/
theorem settles_tried {code : ℤ} {setting : Setting} (hnamed : namedSetting args = some setting)
    (s : SysfsRoot)
    (hdone : code = 0 → Done o args w (RealRuntime.saveSetting o { w with sysfs := s } setting).2
      setting) :
    Settles o args w code (RealRuntime.saveSetting o { w with sysfs := s } setting).2 where
  file := .inr ⟨setting, hnamed, rfl⟩
  done hcode setting' hnamed' := by
    rw [hnamed] at hnamed'
    cases hnamed'
    exact hdone hcode
  state _ := rfl

/-- A save that returned `Ok` saved. -/
theorem trySave_ok {config : Config} {file : ConfigFile} {outcome : Calibrate.SaveOutcome}
    (h : (config.trySave file outcome).2.isOk = true) :
    (config.trySave file outcome).1 = config.save := by
  cases outcome with
  | saved => rfl
  | dirFailed e => cases h
  | openFailed e => cases h
  | writeFailed e => cases h

theorem isOk_of_code {α : Type} {answer : Except String α}
    (h : (if answer.isOk then (0 : ℤ) else 1) = 0) : answer.isOk = true := by
  cases answer with
  | ok a => rfl
  | error e => cases h

theorem settles_setChargeLimit {limit : Option ℕ}
    (hnamed : namedSetting args = some (.batteryChargeLimit limit))
    (hrange : ∀ n, limit = some n → 55 ≤ n ∧ n ≤ 100) :
    Settles o args w (if (RealRuntime.setChargeLimit o w limit).1.isOk then 0 else 1)
      (RealRuntime.setChargeLimit o w limit).2 := by
  obtain ⟨file, answer, hsave⟩ : ∃ file answer, ((Setting.batteryChargeLimit limit).apply
    w.file.loadOrDefault).trySave w.file o.saved = (file, answer) := ⟨_, _, rfl⟩
  have hfile : file = (((Setting.batteryChargeLimit limit).apply
      w.file.loadOrDefault).trySave w.file o.saved).1 := by rw [hsave]
  rw [RealRuntime.setChargeLimit, RealRuntime.saveSetting, hsave]
  cases answer with
  | error e =>
    exact ⟨.inr ⟨_, hnamed, hfile⟩, fun hcode => (by cases hcode), fun _ => rfl⟩
  | ok u =>
    have hsaved : file = ((Setting.batteryChargeLimit limit).apply w.file.loadOrDefault).save := by
      rw [hfile]
      exact trySave_ok (by rw [hsave]; rfl)
    cases limit with
    | none =>
      refine ⟨.inr ⟨_, hnamed, hfile⟩, fun _ setting hsetting => ?_, fun _ => rfl⟩
      rw [hnamed] at hsetting
      cases hsetting
      exact ⟨hsaved, rfl⟩
    | some n =>
      dsimp only
      by_cases hsupports : (!Threshold.supportsThreshold w.sysfs) = true
      · simp only [if_pos hsupports]
        exact ⟨.inr ⟨_, hnamed, hfile⟩, fun hcode => (by cases hcode), fun _ => rfl⟩
      · simp only [if_neg hsupports]
        refine ⟨.inr ⟨_, hnamed, hfile⟩, fun hcode setting hsetting => ?_, fun _ => rfl⟩
        rw [hnamed] at hsetting
        cases hsetting
        have hok := isOk_of_code hcode
        refine ⟨hsaved, (hrange n rfl).1, (hrange n rfl).2, ?_, rfl⟩
        revert hok
        show (Except.mapError _ (Threshold.setChargeThreshold w.sysfs n).2).isOk = true → _
        cases (Threshold.setChargeThreshold w.sysfs n).2 with
        | ok u => exact fun _ => rfl
        | error e => exact id

theorem settles_saveSetting {setting : Setting} (hnamed : namedSetting args = some setting)
    (s : SysfsRoot)
    (hdone : ∀ w', w'.sysfs = s → w'.file = (setting.apply w.file.loadOrDefault).save →
      Done o args w w' setting) :
    Settles o args w
      (if (RealRuntime.saveSetting o { w with sysfs := s } setting).1.isOk then 0 else 1)
      (RealRuntime.saveSetting o { w with sysfs := s } setting).2 :=
  settles_tried hnamed s fun hcode => hdone _ rfl (trySave_ok (isOk_of_code hcode))

/-- A part of a command, run with root, settles the command line. -/
def SettlesRoot (o : Circumstances) (args : List String) (w : World) (p : Cli ℤ) : Prop :=
  Settles { o with isRoot := true } args w (result (rootRuntime o) p w).1
    (result (rootRuntime o) p w).2

theorem asks_root : Asks (rootRuntime o) := asks_operation _ _

theorem settlesRoot_requireRoot {message : String} {body : Cli ℤ} (h : SettlesRoot o args w body) :
    SettlesRoot o args w (requireRoot message body) := by
  rw [SettlesRoot, result_requireRoot asks_root rfl]
  exact h

theorem settlesRoot_ensurePrivileged {message : String} {body : Cli ℤ}
    (h : SettlesRoot o args w body) : SettlesRoot o args w (ensurePrivileged message body) := by
  rw [SettlesRoot, result_ensurePrivileged asks_root rfl]
  exact h

theorem settlesRoot_asksOnly {p : Cli ℤ} (h : AsksOnly p) (hnamed : namedSetting args = none) :
    SettlesRoot o args w p := by
  rw [SettlesRoot, result_asksOnly asks_root h]
  exact settles_same (.inr hnamed)

theorem settlesRoot_fail (message : String) : SettlesRoot o args w (fail message) := by
  rw [SettlesRoot, result_fail asks_root]
  exact settles_same (.inl one_ne_zero)

/-- One call with what it returns and leaves. -/
theorem settlesRoot_reporting {α : Type} {operation : Cli (Except String α)}
    {answer : Except String α} {w' : World}
    (hcall : result (rootRuntime o) operation w = (answer, w')) {complaint : String}
    {success : α → Cli Unit} (hsuccess : ∀ a, AsksOnly (success a))
    (h : Settles { o with isRoot := true } args w (if answer.isOk then 0 else 1) w') :
    SettlesRoot o args w (reporting operation complaint success) := by
  rw [SettlesRoot, result_reporting asks_root operation complaint hsuccess, hcall]
  exact h

theorem settles_toggle {enabled : Bool}
    (hnamed : namedSetting args = some (.autoBrightness enabled)) (hnone : namedBrightness args = none) :
    Settles o args w 0 (RealRuntime.saveSetting o w (.autoBrightness enabled)).2 := by
  refine settles_tried hnamed w.sysfs fun _ => ⟨rfl, ?_⟩
  rw [hnone]
  rfl

theorem settlesRoot_start (hnamed : namedSetting args = some (.autoExtremeEnabled true))
    {complaint : String} {success : Unit → Cli Unit} (hsuccess : ∀ a, AsksOnly (success a)) :
    SettlesRoot o args w (reporting (call .startBackgroundDaemon) complaint success) :=
  settlesRoot_reporting rfl hsuccess
    (settles_tried hnamed w.sysfs fun hcode => ⟨rfl, rfl, fun _ => isOk_of_code hcode⟩)

theorem settlesRoot_stop (hnamed : namedSetting args = some (.autoExtremeEnabled false)) :
    SettlesRoot o args w stop := by
  apply settlesRoot_requireRoot
  show Settles _ args w 0 (RealRuntime.saveSetting _ w (.autoExtremeEnabled false)).2
  exact settles_tried hnamed w.sysfs fun _ => ⟨rfl, rfl, fun h => nomatch h⟩

/-- A call that leaves the world alone, in a command that names nothing. -/
theorem settlesRoot_elsewhere {operation : Cli (Except String Unit)} {answer : Except String Unit}
    (hcall : result (rootRuntime o) operation w = (answer, w)) (hnamed : namedSetting args = none)
    {message complaint line : String} :
    SettlesRoot o args w
      (requireRoot message (reporting operation complaint fun _ => println line)) :=
  settlesRoot_requireRoot (settlesRoot_reporting hcall (fun _ => asksOnly_println _)
    (settles_same (.inr hnamed)))

theorem settlesRoot_calibration {operation : Cli (Except String String)}
    {outcome : Calibrate.Outcome SysfsRoot}
    (hcall : result (rootRuntime o) operation w = RealRuntime.calibrated w outcome)
    (hcommand : args[1]?.bind commandOf = some .calibrate) {complaint : String} :
    SettlesRoot o args w (reporting operation complaint println) := by
  have hnamed : namedSetting args = none := by simp only [namedSetting, hcommand]
  refine settlesRoot_reporting hcall asksOnly_println ⟨.inl rfl, fun _ setting h => ?_, fun h => ?_⟩
  · rw [hnamed] at h
    cases h
  · exact absurd hcommand h

theorem settlesRoot_chargeLimit (hcommand : args[1]?.bind commandOf = some .chargeLimit) :
    SettlesRoot o args w (chargeLimit args[2]?) := by
  unfold chargeLimit
  split
  · rename_i harg
    have hnamed : namedSetting args = some (.batteryChargeLimit none) := by
      simp [namedSetting, hcommand, harg]
    apply settlesRoot_ensurePrivileged
    exact settlesRoot_reporting rfl (fun _ => asksOnly_printCleared)
      (settles_setChargeLimit hnamed fun n hn => by cases hn)
  · rename_i arg hoff harg
    split
    · rename_i n hn
      have hnamed : namedSetting args = some (.batteryChargeLimit (some n)) := by
        have hne : arg ≠ "off" := fun heq => hoff (by rw [heq])
        simp only [namedSetting, hcommand, harg, Option.some.injEq, hne, if_false, Option.bind_some,
          hn, Option.map_some]
      split
      · rename_i hrange
        apply settlesRoot_ensurePrivileged
        refine settlesRoot_reporting rfl (fun _ => asksOnly_println _)
          (settles_setChargeLimit hnamed fun m hm => ?_)
        cases hm
        exact hrange
      · exact settlesRoot_fail _
    · exact settlesRoot_fail _
  · rename_i harg
    refine settlesRoot_asksOnly (asksOnly_reportHealth _ fun _ => asksOnly_println _) ?_
    simp [namedSetting, hcommand, harg]

theorem settlesRoot_calibrate (hcommand : args[1]?.bind commandOf = some .calibrate) :
    SettlesRoot o args w (calibrate args[2]?) := by
  apply settlesRoot_ensurePrivileged
  split
  · exact settlesRoot_calibration rfl hcommand
  · exact settlesRoot_calibration rfl hcommand
  · exact settlesRoot_calibration rfl hcommand
  · exact settlesRoot_calibration rfl hcommand
  · exact settlesRoot_calibration rfl hcommand
  · exact settlesRoot_fail _

theorem settlesRoot_showAutoBrightness (hnamed : namedSetting args = none) :
    SettlesRoot o args w showAutoBrightness := settlesRoot_asksOnly asksOnly_showAutoBrightness hnamed

/-- What is switched is named, and no brightness is. -/
theorem namedSetting_of_toggled {enabled : Bool} (h : toggled args = some enabled) :
    namedSetting args = some (.autoBrightness enabled) ∧ namedBrightness args = none := by
  rw [toggled] at h
  split at h
  · rename_i hcommand
    obtain ⟨arg, harg, rfl⟩ := Option.map_eq_some_iff.mp h
    simp [namedSetting, namedBrightness, hcommand, harg]
  · rename_i hcommand
    split at h
    · rename_i harg
      obtain rfl := Option.some.inj h
      simp only [namedSetting, namedBrightness, hcommand, harg]
      exact ⟨rfl, by decide⟩
    · rename_i harg
      obtain rfl := Option.some.inj h
      simp only [namedSetting, namedBrightness, hcommand, harg]
      exact ⟨rfl, by decide⟩
    · cases h
  · cases h

theorem settlesRoot_toggled {enabled : Bool} (h : toggled args = some enabled) :
    SettlesRoot o args w (toggleAutoBrightness enabled) := by
  obtain ⟨hnamed, hnone⟩ := namedSetting_of_toggled h
  exact settles_toggle hnamed hnone

theorem settlesRoot_brightnessFlag (hcommand : args[1]?.bind commandOf = some .brightnessFlag) :
    SettlesRoot o args w (brightnessFlag args[2]?) := by
  unfold brightnessFlag
  split
  · rename_i arg harg
    exact settlesRoot_toggled (by simp only [toggled, hcommand, harg, Option.map_some])
  · rename_i harg
    exact settlesRoot_showAutoBrightness (by simp only [namedSetting, hcommand, harg, Option.map_none])

theorem settlesRoot_brightness (hcommand : args[1]?.bind commandOf = some .brightness) :
    SettlesRoot o args w (brightness args[2]?) := by
  unfold brightness
  split
  · rename_i harg
    exact settlesRoot_toggled (by simp only [toggled, hcommand, harg])
  · rename_i harg
    exact settlesRoot_toggled (by simp only [toggled, hcommand, harg])
  · rename_i arg hon _ harg
    have hnamed : namedSetting args = some (.autoBrightness false) := by
      have hne : arg ≠ "on" := fun heq => hon (by rw [heq])
      simp [namedSetting, hcommand, harg, hne]
    split
    · rename_i n hn
      have hbrightness : namedBrightness args = some n := by
        rw [namedBrightness, if_pos hcommand, harg]
        exact hn
      split
      · rename_i hrange
        apply settlesRoot_requireRoot
        refine settlesRoot_reporting rfl (fun _ => asksOnly_println _) ?_
        show Settles _ args w (if (RealRuntime.setBrightnessPercent _ w n).1.isOk then 0 else 1)
          (RealRuntime.setBrightnessPercent _ w n).2
        rw [RealRuntime.setBrightnessPercent, clamp_eq_self hrange.1 hrange.2]
        split
        · exact settles_same (.inl one_ne_zero)
        · rename_i hbacklight
          refine settles_tried hnamed _ fun _ => ⟨rfl, ?_⟩
          rw [hbrightness]
          exact ⟨hrange.1, hrange.2, by simpa [Option.isSome_iff_ne_none] using hbacklight, rfl⟩
      · exact settlesRoot_fail _
    · exact settlesRoot_fail _
  · rename_i harg
    exact settlesRoot_showAutoBrightness (by simp only [namedSetting, hcommand, harg, Option.map_none])

theorem settlesRoot_setProfile {chosen : Option PowerProfile} {label : String}
    (hnamed : namedSetting args = some (.profile chosen)) :
    SettlesRoot o args w (setProfile (call (.setProfile chosen)) label) := by
  refine settlesRoot_reporting rfl (fun _ => asksOnly_println _) ?_
  exact settles_saveSetting hnamed _ fun w' hsysfs hfile => ⟨hfile, hsysfs⟩

theorem settlesRoot_profile (hcommand : args[1]?.bind commandOf = some .profile) :
    SettlesRoot o args w (profile args[2]?) := by
  apply settlesRoot_requireRoot
  split
  · exact settlesRoot_setProfile (by simp only [namedSetting, *])
  · exact settlesRoot_setProfile (by simp only [namedSetting, *])
  · exact settlesRoot_setProfile (by simp only [namedSetting, *])
  · exact settlesRoot_setProfile (by simp only [namedSetting, *])
  · exact settlesRoot_setProfile (by simp only [namedSetting, *])
  · exact settlesRoot_setProfile (by simp only [namedSetting, *])
  · exact settlesRoot_start (by simp only [namedSetting, *]) fun _ => asksOnly_println _
  · exact settlesRoot_fail _

theorem settlesRoot_setLevel {level : AutoExtremeLevel} {name : String}
    (hnamed : namedSetting args = some (.autoExtremeLevel level)) :
    SettlesRoot o args w (setLevel level name) := by
  refine settlesRoot_reporting rfl (fun _ => asksOnly_println _) ?_
  exact settles_saveSetting hnamed w.sysfs fun w' hsysfs hfile => ⟨hfile, hsysfs⟩

theorem settlesRoot_level (hcommand : args[1]?.bind commandOf = some .level) :
    SettlesRoot o args w (level args[2]?) := by
  apply settlesRoot_requireRoot
  split
  · exact settlesRoot_setLevel (by simp only [namedSetting, *])
  · exact settlesRoot_setLevel (by simp only [namedSetting, *])
  · exact settlesRoot_setLevel (by simp only [namedSetting, *])
  · exact settlesRoot_fail _

/-- **Every command, run with root.** -/
theorem settlesRoot_run (o : Circumstances) {args : List String} (w : World)
    (hback : ¬Foreground args) : SettlesRoot o args w (Cli.run args) := by
  cases hcommand : args[1]?.bind commandOf with
  | none => exact absurd (.inl hcommand) hback
  | some command =>
    have hrun : Cli.run args = command.run args[2]? := by rw [Cli.run, hcommand]
    rw [hrun]
    cases command with
    | daemon => exact absurd (.inr hcommand) hback
    | installService =>
      exact settlesRoot_elsewhere rfl (by simp only [namedSetting, hcommand])
    | uninstallService =>
      exact settlesRoot_elsewhere rfl (by simp only [namedSetting, hcommand])
    | service =>
      have hnamed : namedSetting args = none := by simp only [namedSetting, hcommand]
      show SettlesRoot o args w (service args[2]?)
      unfold service
      split
      · exact settlesRoot_elsewhere rfl hnamed
      · exact settlesRoot_elsewhere rfl hnamed
      · exact settlesRoot_asksOnly (asksOnly_printHelp.bind fun _ => asksOnly_pure 1) hnamed
    | start =>
      apply settlesRoot_requireRoot
      exact settlesRoot_start (by simp only [namedSetting, hcommand]) fun _ => asksOnly_println _
    | stop => exact settlesRoot_stop (by simp only [namedSetting, hcommand])
    | status =>
      exact settlesRoot_asksOnly (asksOnly_printDaemon.bind fun _ =>
        asksOnly_printBattery.bind fun _ => asksOnly_pure 0) (by simp only [namedSetting, hcommand])
    | health =>
      exact settlesRoot_asksOnly (asksOnly_reportHealth _ fun report =>
        asksOnly_call (r := .writeln (.health report)) trivial) (by simp only [namedSetting, hcommand])
    | chargeLimit => exact settlesRoot_chargeLimit hcommand
    | calibrate => exact settlesRoot_calibrate hcommand
    | brightnessFlag => exact settlesRoot_brightnessFlag hcommand
    | brightness => exact settlesRoot_brightness hcommand
    | profile => exact settlesRoot_profile hcommand
    | level => exact settlesRoot_level hcommand
    | version =>
      exact settlesRoot_asksOnly ((asksOnly_println _).bind fun _ => asksOnly_pure 0)
        (by simp only [namedSetting, hcommand])
    | help =>
      exact settlesRoot_asksOnly (asksOnly_printHelp.bind fun _ => asksOnly_pure 0)
        (by simp only [namedSetting, hcommand])

/-- The process that saves: without root only auto-brightness is switched. -/
def saver (o : Circumstances) (args : List String) : Circumstances :=
  { o with isRoot := o.isRoot || (toggled args).isNone }

/-- **Every command settles**, with root or without. -/
theorem invoke_settles (o : Circumstances) {args : List String} (w : World)
    (hback : ¬Foreground args) :
    Settles (saver o args) args w (invoke o args w).1 (invoke o args w).2 := by
  have hroot : Settles { o with isRoot := true } args w (invokeRoot o args w).1
      (invokeRoot o args w).2 := settlesRoot_run o w hback
  cases hprocess : o.isRoot with
  | true =>
    rw [invoke, saver, hprocess, Bool.true_or]
    exact hroot
  | false =>
    rw [invoke, saver, hprocess, Bool.false_or]
    show Settles _ args w (result (userRuntime o args) (Cli.run args) w).1
      (result (userRuntime o args) (Cli.run args) w).2
    cases htoggled : toggled args with
    | none =>
      rcases alike_run o w htoggled with hsame | hrefused
      · rw [hsame]
        exact hroot
      · rw [hrefused]
        exact settles_same (.inl one_ne_zero)
    | some enabled =>
      obtain ⟨hnamed, hnone⟩ := namedSetting_of_toggled htoggled
      rw [run_of_toggled htoggled]
      exact settles_toggle hnamed hnone

end Settling

/-! ### Sessions -/

/-- A command line somebody gives, that comes back, and whose save is not torn: it lands, or it
fails before the file is opened. -/
structure CommandLine where
  circumstances : Circumstances
  args : List String
  background : ¬Foreground args
  whole : ∀ e, (saver circumstances args).saved ≠ .writeFailed e

namespace CommandLine

def step (w : World) (c : CommandLine) : World := (invoke c.circumstances c.args w).2

def named (c : CommandLine) : Option Setting := namedSetting c.args

end CommandLine

/-- The configuration after settings, first to last. -/
def settled (config : Config) (settings : List Setting) : Config :=
  settings.foldl (fun config setting => setting.apply config) config

/-- A whole save lands or leaves the file. -/
theorem loadOrDefault_trySave (config : Config) (file : ConfigFile)
    {outcome : Calibrate.SaveOutcome} (hwhole : ∀ e, outcome ≠ .writeFailed e) :
    (config.trySave file outcome).1.loadOrDefault = config ∨
      (config.trySave file outcome).1.loadOrDefault = file.loadOrDefault := by
  cases outcome with
  | saved => exact .inl rfl
  | dirFailed e => exact .inr rfl
  | openFailed e => exact .inr rfl
  | writeFailed e => exact absurd rfl (hwhole e)

/-- One command: the setting it names, or none. -/
theorem step_settled (w : World) (c : CommandLine) : ∃ landed : List Setting,
    landed.Sublist c.named.toList ∧
    (c.step w).file.loadOrDefault = settled w.file.loadOrDefault landed := by
  rcases (invoke_settles c.circumstances w c.background).file with hsame | ⟨setting, hnamed, hsaved⟩
  · refine ⟨[], List.nil_sublist _, ?_⟩
    show (invoke c.circumstances c.args w).2.file.loadOrDefault = _
    rw [hsame]
    rfl
  · have hload : (c.step w).file.loadOrDefault = _ := congrArg ConfigFile.loadOrDefault hsaved
    have hname : c.named = some setting := hnamed
    rw [hload, hname]
    have hwhole := loadOrDefault_trySave (setting.apply w.file.loadOrDefault) w.file c.whole
    rcases hwhole with hlands | hleaves
    · exact ⟨[setting], List.Sublist.refl _, hlands⟩
    · exact ⟨[], List.nil_sublist _, hleaves⟩

theorem get_settled (config : Config) (settings : List Setting) {f : Field}
    (h : ∀ setting ∈ settings, setting.field ≠ f) :
    (settled config settings).get f = config.get f := by
  induction settings generalizing config with
  | nil => rfl
  | cons setting settings ih =>
    rw [List.forall_mem_cons] at h
    show (settled (setting.apply config) settings).get f = config.get f
    rw [ih _ h.2, Config.get_apply, if_neg (Ne.symm h.1)]

/-- **Sessions.**  After any command lines that come back and whose saves are not torn, by processes
with root and without, one after the other: the configuration is the one there was, with settings the
command lines named, in their order, so that a field none of them names is as it was; a command line
that exits with 0 has done to the hardware what it names and saved the setting, or, for the flags that
`start`, `stop`, `profile auto` and `brightness` set, saved it as far as the save went; and only
`calibrate` touches the calibration. -/
theorem session_settings (session : List CommandLine) (w : World) :
    let after := Library.Runs.run CommandLine.step w session
    (∃ landed : List Setting, landed.Sublist (session.filterMap CommandLine.named) ∧
      after.file.loadOrDefault = settled w.file.loadOrDefault landed) ∧
    (∀ f, (∀ setting ∈ session.filterMap CommandLine.named, setting.field ≠ f) →
      after.file.loadOrDefault.get f = w.file.loadOrDefault.get f) ∧
    (∀ v ∈ Library.Runs.visits CommandLine.step w session,
      Settles (saver v.2.circumstances v.2.args) v.2.args v.1
        (invoke v.2.circumstances v.2.args v.1).1 (v.2.step v.1)) := by
  intro after
  have hlanded : ∃ landed : List Setting,
      landed.Sublist (session.filterMap CommandLine.named) ∧
      after.file.loadOrDefault = settled w.file.loadOrDefault landed := by
    show ∃ landed : List Setting, _ ∧
      (Library.Runs.run CommandLine.step w session).file.loadOrDefault = _
    clear after
    induction session generalizing w with
    | nil => exact ⟨[], List.Sublist.refl _, rfl⟩
    | cons c session ih =>
      obtain ⟨first, hfirst, hstep⟩ := step_settled w c
      obtain ⟨rest, hrest, hrun⟩ := ih (c.step w)
      refine ⟨first ++ rest, ?_, ?_⟩
      · have hnamed : (c :: session).filterMap CommandLine.named
            = c.named.toList ++ session.filterMap CommandLine.named := by
          rw [List.filterMap_cons]
          cases c.named <;> rfl
        rw [hnamed]
        exact hfirst.append hrest
      · rw [Library.Runs.run_cons, hrun, hstep, settled, settled, settled, List.foldl_append]
  refine ⟨hlanded, ?_, ?_⟩
  · intro f hf
    obtain ⟨landed, hsub, hfile⟩ := hlanded
    rw [hfile]
    exact get_settled _ _ fun setting hmem => hf setting (hsub.subset hmem)
  · intro v _
    exact invoke_settles v.2.circumstances v.1 v.2.background

/-! ### The dashboard's helper -/

/-- The argument of `run_elevated_charge_limit`. -/
def limitArg : Option ℕ → String
  | none => "off"
  | some n => decimal n

theorem namedSetting_limitArg (exe : String) (limit : Option (Fin 256)) :
    namedSetting [exe, "charge-limit", limitArg (limit.map Fin.val)]
      = some (.batteryChargeLimit (limit.map Fin.val)) := by
  cases limit with
  | none => rfl
  | some n =>
    have hread : parseUnsigned (2 ^ 8) (decimal n.val) = some n.val := parseUnsigned_decimal n.isLt
    have hne : decimal n.val ≠ "off" := by
      intro heq
      have hnone : parseUnsigned (2 ^ 8) "off" = none := by decide
      rw [heq, hnone] at hread
      cases hread
    show (if some (decimal n.val) = some "off" then _
      else Option.map _ (parseUnsigned (2 ^ 8) (decimal n.val))) = _
    rw [if_neg (by simpa using hne), hread]
    rfl

/-- **The helper keeps its word.**  The dashboard asks for the limit by running this very program with
root: where that exits with 0, the limit is persisted, and the hardware accepted it. -/
theorem helper_persists (o : Circumstances) (exe : String) (limit : Option (Fin 256)) (w : World) :
    let r := invokeRoot o [exe, "charge-limit", limitArg (limit.map Fin.val)] w
    r.1 ≠ 0 ∨ (r.2.file.chargeLimit = limit.map Fin.val ∧
      match limit with
      | none => r.2.sysfs = w.sysfs
      | some n => 55 ≤ n.val ∧ n.val ≤ 100 ∧
          (Threshold.setChargeThreshold w.sysfs n).2.isOk = true ∧
          r.2.sysfs = (Threshold.setChargeThreshold w.sysfs n).1) := by
  intro r
  rw [or_iff_not_imp_left, not_not]
  intro hcode
  have hback : ¬Foreground [exe, "charge-limit", limitArg (limit.map Fin.val)] := by
    intro h
    rcases h with h | h <;> cases h
  have hdone : Done { o with isRoot := true } _ w r.2 _ :=
    (settlesRoot_run o w hback).done hcode _ (namedSetting_limitArg exe limit)
  cases limit with
  | none => exact ⟨by rw [ConfigFile.chargeLimit, hdone.1]; rfl, hdone.2⟩
  | some n => exact ⟨by rw [ConfigFile.chargeLimit, hdone.1]; rfl, hdone.2⟩

end Cli

end WattWarden
