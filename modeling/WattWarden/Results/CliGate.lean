import WattWarden.FrontEnds.Cli

/-!
# The privilege gate of the command line

Whatever the argument vector and whatever the runtime answers.  A command is made of two parts: what
it does before it knows of any privileges, and what it does after; the first part is harmless, and
the second makes at most one change.

* `Harmless` — requests that only ask or print;
* `Sound` — arguments in range, at most one change, and an error in the exit code: what is asked of
  a command that has its privileges;
* `Gated` — the same, and nothing but harmless operations where privileges are denied;
* `sound_reporting`, `gated_requireRoot`, `gated_ensurePrivileged` — **PROVED**: the shapes of commands;
* `run_gated` — **PROVED**: every run of the command line is `Gated`.
-/

namespace WattWarden

open Library.Numerals Library.Requests Library.Requests.Program

namespace Cli

/-! ### Kinds of requests -/

/-- Operations of the runtime.  Output and environment variables are not. -/
def IsOperation : CliRequest → Prop
  | .writeln _ | .envVar _ => False
  | _ => True

/-- A setter, or a calibrate, start, stop, install or uninstall call. -/
def isMutating : CliRequest → Bool
  | .setAutoBrightness _ | .startBackgroundDaemon | .stopBackgroundDaemon | .installService
  | .uninstallService | .setChargeLimit _ | .calibrateStart | .calibrateStatus | .calibrateFinish
  | .setProfile _ | .setAutoExtremeLevel _ | .setBrightnessPercent _ => true
  | _ => false

/-- A brightness command with an argument. -/
def BrightnessGiven (args : List String) : Prop :=
  (args[1]? = some "--brightness" ∨ args[1]? = some "brightness") ∧ args[2]?.isSome = true

/-- What may be called without privileges. -/
def OpenToAll (args : List String) : CliRequest → Prop
  | .isRoot | .elevate | .daemonActive | .autoBrightness | .healthReport => True
  | .setAutoBrightness _ => BrightnessGiven args
  | _ => False

/-- The argument ranges. -/
def InRange : CliRequest → Prop
  | .setChargeLimit (some n) => 55 ≤ n ∧ n ≤ 100
  | .setBrightnessPercent n => 1 ≤ n ∧ n ≤ 100
  | _ => True

/-- A mutating operation that returned `Err`. -/
def Failed : Exchange CliRequest Answer → Prop
  | ⟨.startBackgroundDaemon, x⟩ | ⟨.installService, x⟩ | ⟨.uninstallService, x⟩
  | ⟨.setChargeLimit _, x⟩ | ⟨.calibrateStart, x⟩ | ⟨.calibrateStatus, x⟩ | ⟨.calibrateFinish, x⟩
  | ⟨.setProfile _, x⟩ | ⟨.setAutoExtremeLevel _, x⟩ | ⟨.setBrightnessPercent _, x⟩ =>
      x.isOk = false
  | _ => False

/-- An exchange without privileges: not root, and no escalator to run the command. -/
def Denied : Exchange CliRequest Answer → Prop
  | ⟨.isRoot, x⟩ => x = false
  | ⟨.elevate, x⟩ => x = none
  | _ => True

/-- Requests that only ask or print. -/
def Harmless : CliRequest → Prop
  | .writeln _ | .daemonActive | .autoBrightness | .healthReport => True
  | _ => False

/-! ### What a run of a command may be -/

/-- Every exchange is harmless. -/
def AllHarmless (trace : List (Exchange CliRequest Answer)) : Prop :=
  ∀ e ∈ trace, Harmless e.request

/-- Of a command with its privileges. -/
structure Sound (trace : List (Exchange CliRequest Answer)) (code : ℤ) : Prop where
  ranges : ∀ e ∈ trace, InRange e.request
  once : (trace.filter fun e => isMutating e.request).length ≤ 1
  failure : ∀ e ∈ trace, Failed e → code ≠ 0

/-- Of a whole run. -/
structure Gated (args : List String) (trace : List (Exchange CliRequest Answer)) (code : ℤ) :
    Prop extends Sound trace code where
  unprivileged : (∀ e ∈ trace, Denied e) →
    ∀ e ∈ trace, IsOperation e.request → OpenToAll args e.request

section Traces

variable {args : List String} {e : Exchange CliRequest Answer}
variable {trace : List (Exchange CliRequest Answer)} {code : ℤ}

theorem Harmless.not_mutating {r : CliRequest} (h : Harmless r) : isMutating r = false := by
  cases r <;> first | rfl | cases h

theorem Harmless.inRange {r : CliRequest} (h : Harmless r) : InRange r := by
  cases r <;> trivial

theorem Harmless.openToAll {r : CliRequest} (h : Harmless r) (hr : IsOperation r) :
    OpenToAll args r := by
  cases r <;> trivial

theorem Harmless.not_failed (h : Harmless e.request) : ¬Failed e := by
  obtain ⟨r, x⟩ := e
  cases r <;> first | exact id | cases h

/-- One request, and nothing but harmless ones around it. -/
theorem Sound.around {l k : List (Exchange CliRequest Answer)}
    (hbefore : AllHarmless l) (hafter : AllHarmless k) (hrange : InRange e.request)
    (hfailed : Failed e → code ≠ 0) : Sound (l ++ e :: k) code where
  ranges := by
    simp only [List.forall_mem_append, List.forall_mem_cons]
    exact ⟨fun e he => (hbefore e he).inRange, hrange, fun e he => (hafter e he).inRange⟩
  once := by
    have hnone : ∀ l, AllHarmless l → (l.filter fun e => isMutating e.request) = [] := by
      intro l hl
      apply List.filter_eq_nil_iff.mpr
      intro e he
      rw [(hl e he).not_mutating]
      decide
    rw [List.filter_append, hnone l hbefore, List.nil_append, List.filter_cons]
    split
    · rw [hnone k hafter]
      exact Nat.le_refl 1
    · rw [hnone k hafter]
      exact Nat.zero_le 1
  failure := by
    simp only [List.forall_mem_append, List.forall_mem_cons]
    exact ⟨fun e he h => absurd h (hbefore e he).not_failed, hfailed,
      fun e he h => absurd h (hafter e he).not_failed⟩

theorem AllHarmless.sound (h : AllHarmless trace) : Sound trace code where
  ranges e he := (h e he).inRange
  once := by
    rw [List.filter_eq_nil_iff.mpr]
    · exact Nat.zero_le 1
    · intro e he
      rw [(h e he).not_mutating]
      decide
  failure e he hfailed := absurd hfailed (h e he).not_failed

theorem AllHarmless.gated (h : AllHarmless trace) : Gated args trace code where
  toSound := h.sound
  unprivileged _ e he hop := (h e he).openToAll hop

/-- Requests about privileges. -/
def AsksPrivileges : CliRequest → Prop
  | .isRoot | .elevate => True
  | _ => False

/-- Requests that count for nothing in a command that has its privileges. -/
def Neutral : CliRequest → Prop
  | .isRoot | .elevate | .syncInstalledBinary | .envVar _ => True
  | _ => False

theorem AsksPrivileges.neutral {r : CliRequest} (h : AsksPrivileges r) : Neutral r := by
  cases r <;> trivial

theorem Sound.neutral (h : Sound trace code) (he : Neutral e.request) :
    Sound (e :: trace) code := by
  obtain ⟨r, x⟩ := e
  have hkind : InRange r ∧ isMutating r = false ∧ ¬Failed ⟨r, x⟩ := by
    cases r <;> first | exact ⟨trivial, rfl, id⟩ | cases he
  refine ⟨List.forall_mem_cons.mpr ⟨hkind.1, h.ranges⟩, ?_, ?_⟩
  · rw [List.filter_cons_of_neg (by simp [hkind.2.1])]
    exact h.once
  · exact List.forall_mem_cons.mpr ⟨fun hfailed => absurd hfailed hkind.2.2, h.failure⟩

theorem AsksPrivileges.openToAll {r : CliRequest} (h : AsksPrivileges r) : OpenToAll args r := by
  cases r <;> trivial

theorem Gated.privileges (h : Gated args trace code) (he : AsksPrivileges e.request) :
    Gated args (e :: trace) code where
  toSound := h.toSound.neutral he.neutral
  unprivileged hdenied := by
    have hopen : OpenToAll args e.request := he.openToAll
    rw [List.forall_mem_cons] at hdenied ⊢
    exact ⟨fun _ => hopen, h.unprivileged hdenied.2⟩

/-- With root granted nothing is left to show about privileges. -/
theorem Sound.granted (h : Sound trace code) : Gated args (⟨.isRoot, true⟩ :: trace) code where
  toSound := h.neutral trivial
  unprivileged hdenied := by
    have hroot : true = false := hdenied ⟨.isRoot, true⟩ (by simp)
    cases hroot

end Traces

/-! ### The shapes of commands -/

section Shapes

variable {args : List String} {α : Type}

/-- Nothing but harmless requests, whatever the answers. -/
abbrev AsksOnly (p : Cli α) : Prop := Exchanges (fun e => Harmless e.request) p

theorem asksOnly_println (s : String) : AsksOnly (println s) := by
  intro x
  simp [Harmless]

theorem asksOnly_pure (a : α) : AsksOnly (pure a : Cli α) := by
  simp [AsksOnly, Exchanges, pure_eq]

theorem AsksOnly.bind {β : Type} {p : Cli α} {f : α → Cli β} (hp : AsksOnly p)
    (hf : ∀ a, AsksOnly (f a)) : AsksOnly (p >>= f) := by
  rw [AsksOnly, Exchanges, meets_bind]
  refine hp.mono fun trace a htrace => (hf a).mono fun rest _ hrest => ?_
  exact List.forall_mem_append.mpr ⟨htrace, hrest⟩

theorem AsksOnly.sound {p : Cli ℤ} (h : AsksOnly p) : Meets Sound p :=
  h.mono fun _ _ h => AllHarmless.sound h

theorem AsksOnly.gated {p : Cli ℤ} (h : AsksOnly p) : Meets (Gated args) p :=
  h.mono fun _ _ h => AllHarmless.gated h

theorem asksOnly_printHelp : AsksOnly printHelp :=
  Exchanges.forM fun line _ => asksOnly_println line

theorem asksOnly_fail (message : String) : AsksOnly (fail message) :=
  (asksOnly_println message).bind fun _ => asksOnly_pure 1

/-- One operation with its argument in range, whose errors show in what it returns. -/
def Operation (operation : Cli (Except String α)) : Prop :=
  Meets (fun trace x => ∃ e, trace = [e] ∧ InRange e.request ∧ (Failed e → x.isOk = false))
    operation

theorem sound_reporting {operation : Cli (Except String α)} (hop : Operation operation)
    (complaint : String) {success : α → Cli Unit} (hsuccess : ∀ a, AsksOnly (success a)) :
    Meets Sound (reporting operation complaint success) := by
  rw [reporting, meets_bind]
  refine hop.mono ?_
  rintro _ x ⟨e, rfl, hrange, hfailed⟩
  cases x with
  | error message =>
    -- the exit code of a failure is 1
    intro y
    refine Sound.around (e := e) (l := []) (k := [⟨_, y⟩]) (by simp [AllHarmless]) ?_
      hrange fun _ => by decide
    simp [AllHarmless, Harmless]
  | ok a =>
    refine ((hsuccess a).bind fun _ => asksOnly_pure 0).mono fun rest code hrest => ?_
    exact Sound.around (l := []) (by simp [AllHarmless]) hrest hrange fun h => by
      have hok := hfailed h
      cases hok

/-- Without root there is only a message. -/
theorem gated_requireRoot (message : String) {body : Cli ℤ} (hbody : Meets Sound body) :
    Meets (Gated args) (requireRoot message body) := by
  rw [requireRoot, meets_bind]
  intro root
  cases root with
  | true => exact hbody.mono fun _ _ h => h.granted
  | false =>
    have hfail : Meets (Gated args) (fail message) := (asksOnly_fail message).gated
    exact hfail.mono fun _ _ h => h.privileges (e := ⟨.isRoot, false⟩) trivial

/-- An escalator runs the command elsewhere; without one there is only a message. -/
theorem gated_ensurePrivileged (message : String) {body : Cli ℤ} (hbody : Meets Sound body) :
    Meets (Gated args) (ensurePrivileged message body) := by
  rw [ensurePrivileged, meets_bind]
  intro root
  cases root with
  | true => exact hbody.mono fun _ _ h => h.granted
  | false =>
    intro escalated
    cases escalated with
    | some code =>
      have hnothing : Gated args [] code := AllHarmless.gated (by simp [AllHarmless])
      exact (hnothing.privileges (e := ⟨.elevate, some code⟩) trivial).privileges
        (e := ⟨.isRoot, false⟩) trivial
    | none =>
      have hfail : Meets (Gated args) (fail message) := (asksOnly_fail message).gated
      refine hfail.mono fun _ _ h => ?_
      exact (h.privileges (e := ⟨.elevate, none⟩) trivial).privileges (e := ⟨.isRoot, false⟩) trivial

end Shapes

/-! ### The commands -/

section Commands

variable {args : List String}

theorem asksOnly_call {r : CliRequest} (h : Harmless r) : AsksOnly (call r) := by
  intro x
  simpa using h

/-- The commands that ask for root, make one call and say so. -/
theorem gated_rooted {operation : Cli (Except String Unit)} (hop : Operation operation)
    (message complaint line : String) :
    Meets (Gated args) (requireRoot message (reporting operation complaint fun _ => println line)) :=
  gated_requireRoot message (sound_reporting hop complaint fun _ => asksOnly_println line)

theorem gated_daemon : Meets (Gated args) daemon := by
  have hop : Operation (call .runDaemon) := fun x => ⟨⟨_, x⟩, rfl, trivial, False.elim⟩
  exact gated_requireRoot _ (sound_reporting hop _ fun _ => asksOnly_pure ())

theorem gated_installService : Meets (Gated args) installService := by
  have hop : Operation (call .installService) := fun x => ⟨⟨_, x⟩, rfl, trivial, id⟩
  exact gated_rooted hop _ _ _

theorem gated_uninstallService : Meets (Gated args) uninstallService := by
  have hop : Operation (call .uninstallService) := fun x => ⟨⟨_, x⟩, rfl, trivial, id⟩
  exact gated_rooted hop _ _ _

theorem gated_service (arg : Option String) : Meets (Gated args) (service arg) := by
  unfold service
  split
  · exact gated_installService
  · exact gated_uninstallService
  · exact (asksOnly_printHelp.bind fun _ => asksOnly_pure 1).gated

theorem operation_start : Operation (call .startBackgroundDaemon) := fun x =>
  ⟨⟨_, x⟩, rfl, trivial, id⟩

theorem gated_start : Meets (Gated args) start := gated_rooted operation_start _ _ _

/-- Stopping cannot fail. -/
theorem gated_stop : Meets (Gated args) stop := by
  apply gated_requireRoot
  intro x
  have hrest := (asksOnly_println "🛑 WattWarden background daemon stopped.").bind
    fun _ => asksOnly_pure (0 : ℤ)
  refine hrest.mono fun rest code hrest => ?_
  exact Sound.around (e := ⟨.stopBackgroundDaemon, x⟩) (l := []) (by simp [AllHarmless])
    hrest trivial False.elim

theorem asksOnly_printDaemon : AsksOnly printDaemon := by
  have hactive : AsksOnly (call .daemonActive) := asksOnly_call trivial
  apply hactive.bind
  intro active
  split
  · exact asksOnly_println _
  · exact asksOnly_println _

theorem asksOnly_printBattery : AsksOnly printBattery := by
  have hreport : AsksOnly (call .healthReport) := asksOnly_call trivial
  apply hreport.bind
  intro answer
  split
  · split
    · exact asksOnly_call trivial
    · exact asksOnly_pure ()
  · exact asksOnly_pure ()

theorem gated_status : Meets (Gated args) status :=
  (asksOnly_printDaemon.bind fun _ => asksOnly_printBattery.bind fun _ => asksOnly_pure 0).gated

/-- Reporting on the battery reads only. -/
theorem asksOnly_reportHealth (complaint : String) {success : HealthReport → Cli Unit}
    (hsuccess : ∀ report, AsksOnly (success report)) :
    AsksOnly (reporting (call .healthReport) complaint success) := by
  have hreport : AsksOnly (call .healthReport) := asksOnly_call trivial
  rw [reporting]
  apply hreport.bind
  intro answer
  split
  · exact asksOnly_fail _
  · exact (hsuccess _).bind fun _ => asksOnly_pure 0

theorem gated_health : Meets (Gated args) health :=
  (asksOnly_reportHealth _ fun report =>
    asksOnly_call (r := .writeln (.health report)) trivial).gated

theorem asksOnly_printCleared : AsksOnly printCleared := by
  have hreport : AsksOnly (call .healthReport) := asksOnly_call trivial
  refine (asksOnly_println _).bind fun _ => hreport.bind fun answer => ?_
  split
  · split
    · exact asksOnly_println _
    · exact asksOnly_pure ()
  · exact asksOnly_pure ()

/-- The limit is checked before the privileges are. -/
theorem gated_chargeLimit (arg : Option String) : Meets (Gated args) (chargeLimit arg) := by
  unfold chargeLimit
  split
  · have hop : Operation (call (.setChargeLimit none)) := fun x => ⟨⟨_, x⟩, rfl, trivial, id⟩
    exact gated_ensurePrivileged _ (sound_reporting hop _ fun _ => asksOnly_printCleared)
  · split
    · rename_i n _
      split
      · rename_i hrange
        have hop : Operation (call (.setChargeLimit (some n))) := fun x =>
          ⟨⟨_, x⟩, rfl, hrange, id⟩
        exact gated_ensurePrivileged _ (sound_reporting hop _ fun _ => asksOnly_println _)
      · exact (asksOnly_fail _).gated
    · exact (asksOnly_fail _).gated
  · exact (asksOnly_reportHealth _ fun _ => asksOnly_println _).gated

theorem gated_calibrate (arg : Option String) : Meets (Gated args) (calibrate arg) := by
  have hstart : Operation (call .calibrateStart) := fun x => ⟨⟨_, x⟩, rfl, trivial, id⟩
  have hstatus : Operation (call .calibrateStatus) := fun x => ⟨⟨_, x⟩, rfl, trivial, id⟩
  have hfinish : Operation (call .calibrateFinish) := fun x => ⟨⟨_, x⟩, rfl, trivial, id⟩
  apply gated_ensurePrivileged
  split
  · exact sound_reporting hstart _ asksOnly_println
  · exact sound_reporting hstart _ asksOnly_println
  · exact sound_reporting hstatus _ asksOnly_println
  · exact sound_reporting hfinish _ asksOnly_println
  · exact sound_reporting hfinish _ asksOnly_println
  · exact (asksOnly_fail _).sound

/-- The one change that needs no privileges. -/
theorem gated_toggleAutoBrightness (hgiven : BrightnessGiven args) (enabled : Bool) :
    Meets (Gated args) (toggleAutoBrightness enabled) := by
  intro x
  have hrest := (asksOnly_println ("Auto-brightness set to: " ++ toString enabled)).bind
    fun _ => asksOnly_pure (0 : ℤ)
  refine hrest.mono fun rest code hrest => ?_
  refine ⟨Sound.around (e := ⟨.setAutoBrightness enabled, x⟩) (l := [])
    (by simp [AllHarmless]) hrest trivial False.elim, fun _ => ?_⟩
  exact List.forall_mem_cons.mpr ⟨fun _ => hgiven, fun e he hop => (hrest e he).openToAll hop⟩

theorem asksOnly_showAutoBrightness : AsksOnly showAutoBrightness := by
  have hread : AsksOnly (call .autoBrightness) := asksOnly_call trivial
  exact hread.bind fun _ => (asksOnly_println _).bind fun _ => asksOnly_pure 0

theorem gated_brightnessFlag (h : args[1]? = some "--brightness") :
    Meets (Gated args) (brightnessFlag args[2]?) := by
  unfold brightnessFlag
  split
  · rename_i arg harg
    exact gated_toggleAutoBrightness ⟨.inl h, by rw [harg]; rfl⟩ _
  · exact asksOnly_showAutoBrightness.gated

theorem gated_brightness (h : args[1]? = some "brightness") :
    Meets (Gated args) (brightness args[2]?) := by
  unfold brightness
  split
  · rename_i harg
    exact gated_toggleAutoBrightness ⟨.inr h, by rw [harg]; rfl⟩ _
  · rename_i harg
    exact gated_toggleAutoBrightness ⟨.inr h, by rw [harg]; rfl⟩ _
  · split
    · rename_i n _
      split
      · rename_i hrange
        have hop : Operation (call (.setBrightnessPercent n)) := fun x =>
          ⟨⟨_, x⟩, rfl, hrange, id⟩
        exact gated_rooted hop _ _ _
      · exact (asksOnly_fail _).gated
    · exact (asksOnly_fail _).gated
  · exact asksOnly_showAutoBrightness.gated

theorem gated_profile (arg : Option String) : Meets (Gated args) (profile arg) := by
  have hset : ∀ profile, Operation (call (.setProfile profile)) := fun profile x =>
    ⟨⟨_, x⟩, rfl, trivial, id⟩
  have hlabel : ∀ {operation} label, Operation operation →
      Meets Sound (setProfile operation label) := fun label hop =>
    sound_reporting hop _ fun _ => asksOnly_println _
  apply gated_requireRoot
  split
  · exact hlabel _ (hset _)
  · exact hlabel _ (hset _)
  · exact hlabel _ (hset _)
  · exact hlabel _ (hset _)
  · exact hlabel _ (hset _)
  · exact hlabel _ (hset _)
  · exact hlabel _ operation_start
  · exact (asksOnly_fail _).sound

theorem gated_level (arg : Option String) : Meets (Gated args) (level arg) := by
  have hset : ∀ level name, Meets Sound (setLevel level name) := by
    intro level name
    have hop : Operation (call (.setAutoExtremeLevel level)) := fun x => ⟨⟨_, x⟩, rfl, trivial, id⟩
    exact sound_reporting hop _ fun _ => asksOnly_println _
  apply gated_requireRoot
  split
  · exact hset _ _
  · exact hset _ _
  · exact hset _ _
  · exact (asksOnly_fail _).sound

/-- Synchronising the binary, the daemon and the dashboard come after the root check, and are none
of the mutating operations. -/
theorem gated_fallThrough : Meets (Gated args) fallThrough := by
  have hdaemon : Operation (call .runDaemon) := fun x => ⟨⟨_, x⟩, rfl, trivial, False.elim⟩
  have hdashboard : Operation (call .launchDashboard) := fun x =>
    ⟨⟨_, x⟩, rfl, trivial, False.elim⟩
  have hlast : ∀ value : Option String, Meets Sound (if value = some "1" then
      reporting (call .runDaemon) "Error running daemon: " fun _ => pure ()
      else reporting (call .launchDashboard) "Error: " fun _ => pure ()) := by
    intro value
    split
    · exact sound_reporting hdaemon _ fun _ => asksOnly_pure ()
    · exact sound_reporting hdashboard _ fun _ => asksOnly_pure ()
  apply gated_requireRoot
  intro synced value
  refine (hlast value).mono fun _ _ h => ?_
  exact (h.neutral (e := ⟨.envVar "WATTWARDEN_DAEMON", value⟩) trivial).neutral
    (e := ⟨.syncInstalledBinary, synced⟩) trivial

end Commands

/-! ### Every run -/

theorem commandOf_brightnessFlag {name : String} (h : commandOf name = some .brightnessFlag) :
    name = "--brightness" := by
  unfold commandOf at h
  split at h <;> first | rfl | cases h

theorem commandOf_brightness {name : String} (h : commandOf name = some .brightness) :
    name = "brightness" := by
  unfold commandOf at h
  split at h <;> first | rfl | cases h

/-- **Every command line, whatever is answered.** -/
theorem meets_run (args : List String) : Meets (Gated args) (run args) := by
  rw [run]
  split
  · rename_i command hcommand
    obtain ⟨name, hname, hof⟩ := Option.bind_eq_some_iff.mp hcommand
    cases command with
    | daemon => exact gated_daemon
    | installService => exact gated_installService
    | uninstallService => exact gated_uninstallService
    | service => exact gated_service _
    | start => exact gated_start
    | stop => exact gated_stop
    | status => exact gated_status
    | health => exact gated_health
    | chargeLimit => exact gated_chargeLimit _
    | calibrate => exact gated_calibrate _
    | brightnessFlag =>
      rw [commandOf_brightnessFlag hof] at hname
      exact gated_brightnessFlag hname
    | brightness =>
      rw [commandOf_brightness hof] at hname
      exact gated_brightness hname
    | profile => exact gated_profile _
    | level => exact gated_level _
    | version => exact ((asksOnly_println _).bind fun _ => asksOnly_pure 0).gated
    | help => exact (asksOnly_printHelp.bind fun _ => asksOnly_pure 0).gated
  · exact gated_fallThrough

/-- **The privilege gate.**  For every argument vector and every runtime: without root and without an
escalator, only reading operations are called, and auto-brightness set only by a brightness
command that has an argument; charge limits and brightness values are in range; and at most one
mutating operation is called, whose error is in the exit code. -/
theorem run_gated {σ : Type} (rt : CliRuntime σ) (s : σ) (args : List String) :
    let r := (run args).exec rt s
    ((∀ s, (rt .isRoot s).1 = false) → (∀ s, (rt .elevate s).1 = none) →
      ∀ e ∈ r.trace, IsOperation e.request → OpenToAll args e.request) ∧
    (∀ e ∈ r.trace, InRange e.request) ∧
    ((r.trace.filter fun e => isMutating e.request).length ≤ 1 ∧
      ∀ e ∈ r.trace, Failed e → r.value ≠ 0) := by
  intro r
  have hgated : Gated args r.trace r.value := meets_exec (meets_run args) rt s
  refine ⟨fun hroot helevate => ?_, hgated.ranges, hgated.once, hgated.failure⟩
  apply hgated.unprivileged
  apply answers_exec
  intro request s
  cases request with
  | isRoot => exact hroot s
  | elevate => exact helevate s
  | _ => trivial

end Cli

end WattWarden
