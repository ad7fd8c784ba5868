import WattWarden.Daemon.Contention
import WattWarden.Results.OptIn

/-!
# The lock makes many daemons one

Any number of daemon processes, started, refused, killed and started again in any order, with other
programs in between.  What they do to the tree, the configuration and the health log together is
what a single daemon could have done, one life after the other.

* `Matches` — the only daemon is the process that has the lock;
* `matches_step` — **PROVED**: an event of the daemons is some events of the only daemon, or none;
* `daemons_refine_solo` — **PROVED**: so is a run, in the order of the calls;
* `perform_extends` — **PROVED**: a call writes what the configuration on disk asks for;
* `only_holder_writes` — **PROVED**: whatever happens, only the holder of the lock writes, and only
  that.
-/

namespace WattWarden

open Library.FileTree Library.Floats Library.Journaling Library.Locking Library.Refinement Library.Runs
  Threshold

section Solo

variable {F : Type} [FloatLike F] {host : Host} {daemons : Daemons} {solo : Solo}

theorem solo_runner_iff {pid : ℕ} {r : DaemonRunner} :
    solo.runner pid = some r ↔ solo.daemon = some (pid, r) := by
  rw [Solo.runner, Option.map_eq_some_iff]
  constructor
  · intro h
    obtain ⟨⟨p, r'⟩, hd, rfl⟩ := h
    rw [Option.filter_eq_some_iff, decide_eq_true_eq] at hd
    obtain ⟨hd, rfl⟩ := hd
    exact hd
  · intro h
    refine ⟨(pid, r), ?_, rfl⟩
    rw [h]
    simp

/-- The lock admits one runner. -/
theorem DaemonsInv.holder_iff (h : DaemonsInv daemons) (pid : ℕ) :
    (daemons.runner pid).isSome = true ↔ daemons.machine.anchor.lock.holder = some (.daemon pid) := by
  rw [← h.active_iff, h.machine.active_iff]

theorem DaemonsInv.runner_unique (h : DaemonsInv daemons) {p q : ℕ}
    (hp : (daemons.runner p).isSome = true) (hq : (daemons.runner q).isSome = true) : p = q := by
  rw [h.holder_iff] at hp hq
  rw [hp] at hq
  cases hq
  rfl

/-- The only daemon is the process that has the lock. -/
structure Matches (daemons : Daemons) (solo : Solo) : Prop where
  inv : DaemonsInv daemons
  site_eq : daemons.site = solo.site
  runner_eq : ∀ pid, daemons.runner pid = solo.runner pid

/-- Where a process gets the lock, nothing runs. -/
theorem Matches.daemon_none (h : Matches daemons solo) {pid : ℕ}
    (hgranted : (PidManager.acquire daemons.machine.anchor pid).2.isOk = true) :
    solo.daemon = none := by
  rw [PidManager.acquire_ok_iff] at hgranted
  cases hdaemon : solo.daemon with
  | none => rfl
  | some d =>
    have hrunner : daemons.runner d.1 = some d.2 := by
      rw [h.runner_eq, solo_runner_iff, hdaemon]
    have hheld := (h.inv.holder_iff d.1).mp (by rw [hrunner]; rfl)
    rw [hgranted] at hheld
    cases hheld

/-- The runners of a daemons whose only runner is at `pid`, once that one is at something else. -/
theorem runner_put_of_unique (h : DaemonsInv daemons) {pid : ℕ} {r : DaemonRunner}
    (hr : daemons.runner pid = some r) (next : Option DaemonRunner) (site : Site) (p : ℕ) :
    (daemons.put pid (next.map DaemonProgram.running)).runner p
      = Solo.runner ⟨site, next.map fun r' => (pid, r')⟩ p := by
  rw [runner_put]
  by_cases hp : p = pid
  · rw [if_pos hp, hp]
    cases next with
    | none => rfl
    | some r' => exact (solo_runner_iff.mpr rfl).symm
  · rw [if_neg hp]
    have hnone : daemons.runner p = none := by
      cases hrunner : daemons.runner p with
      | none => rfl
      | some r' =>
        exact absurd (h.runner_unique (by rw [hrunner]; rfl) (by rw [hr]; rfl)) hp
    rw [hnone]
    cases next with
    | none => rfl
    | some r' =>
      cases hsolo : Solo.runner ⟨site, some (pid, r')⟩ p with
      | none => exact hsolo.symm
      | some r'' =>
        rw [solo_runner_iff] at hsolo
        cases hsolo
        exact absurd rfl hp

/-- A history of one mark. -/
theorem history_one {solo' : Solo} {mark : Mark} (h : soloStep F solo mark = some solo') :
    history (soloStep F) solo [mark] = some solo' := by
  rw [history_cons, h]
  rfl

/-- An event that is none of the daemon's. -/
theorem Matches.unmarked (h : Matches daemons solo) {daemons' : Daemons} (hinv : DaemonsInv daemons')
    (hsite : daemons'.site = daemons.site)
    (hrunner : ∀ pid, daemons'.runner pid = daemons.runner pid) :
    ∃ solo', history (soloStep F) solo [] = some solo' ∧ Matches daemons' solo' :=
  ⟨solo, rfl, hinv, hsite.trans h.site_eq, fun pid => (hrunner pid).trans (h.runner_eq pid)⟩

/-- **One event.** -/
theorem matches_step (F : Type) [FloatLike F] (host : Host) :
    Refines Matches (daemonsStep F host) (soloStep F) (Daemons.marks F) := by
  intro daemons solo e h
  have hinv : DaemonsInv (daemonsStep F host daemons e) := daemonsStep_inv F host e h.inv
  cases e with
  | spawn pid => exact h.unmarked hinv rfl fun _ => rfl
  | probeLock pid => exact h.unmarked hinv rfl fun _ => rfl
  | probeUnlock pid => exact h.unmarked hinv rfl fun _ => rfl
  | outside site =>
    exact ⟨{ solo with site := site }, rfl, hinv, rfl, h.runner_eq⟩
  | discover pid =>
    apply h.unmarked hinv
    · rw [daemonsStep]
      split <;> rfl
    · intro p
      rw [daemonsStep]
      split
      · rename_i hfree
        rw [Bool.and_eq_true, Option.isNone_iff_eq_none] at hfree
        rw [runner_put]
        split
        · rename_i hp
          rw [hp, Daemons.runner, hfree.2]
          rfl
        · rfl
      · rfl
  | acquire pid =>
    cases hprogram : daemons.programs pid with
    | none =>
      simp only [daemonsStep, Daemons.marks, hprogram] at hinv ⊢
      exact h.unmarked hinv rfl fun _ => rfl
    | some program =>
      cases program with
      | running r =>
        simp only [daemonsStep, Daemons.marks, hprogram] at hinv ⊢
        exact h.unmarked hinv rfl fun _ => rfl
      | discovered backend =>
        have hnone : daemons.runner pid = none := by
          rw [Daemons.runner, hprogram]
          rfl
        cases hgranted : (PidManager.acquire daemons.machine.anchor pid).2.isOk with
        | false =>
          simp only [daemonsStep, Daemons.marks, hprogram, hgranted] at hinv ⊢
          apply h.unmarked hinv rfl
          intro p
          show (daemons.put pid none).runner p = daemons.runner p
          rw [runner_put]
          split
          · rename_i hp
            rw [hp, hnone]
            rfl
          · rfl
        | true =>
          have hfree := h.daemon_none hgranted
          simp only [daemonsStep, Daemons.marks, hprogram, hgranted] at hinv ⊢
          refine ⟨{ solo with daemon := some (pid, .start backend) }, ?_, hinv, h.site_eq, ?_⟩
          · apply history_one
            rw [soloStep, hfree]
            rfl
          · intro p
            show (daemons.put pid (some (.running (.start backend)))).runner p = _
            rw [runner_put]
            by_cases hp : p = pid
            · rw [if_pos hp, hp]
              exact (solo_runner_iff.mpr rfl).symm
            · rw [if_neg hp, h.runner_eq, Solo.runner, Solo.runner, hfree]
              simp [Ne.symm hp]
  | work pid w =>
    cases hstep : (daemons.runner pid).bind fun r => r.step F daemons.site w with
    | none =>
      simp only [daemonsStep, Daemons.marks, hstep] at hinv ⊢
      exact h.unmarked hinv rfl fun _ => rfl
    | some x =>
      obtain ⟨r, hr, -⟩ := Option.bind_eq_some_iff.mp hstep
      simp only [daemonsStep, Daemons.marks, hstep] at hinv ⊢
      refine ⟨⟨x.2, some (pid, x.1)⟩, ?_, hinv, rfl, ?_⟩
      · apply history_one
        rw [soloStep, ← h.runner_eq, ← h.site_eq, hstep]
        rfl
      · exact runner_put_of_unique h.inv hr (some x.1) x.2
  | killed pid w writes =>
    cases hstep : (daemons.runner pid).bind fun r => r.interrupted F daemons.site w writes with
    | none =>
      simp only [daemonsStep, Daemons.marks, hstep] at hinv ⊢
      exact h.unmarked hinv rfl fun _ => rfl
    | some site =>
      obtain ⟨r, hr, -⟩ := Option.bind_eq_some_iff.mp hstep
      simp only [daemonsStep, Daemons.marks, hstep] at hinv ⊢
      refine ⟨⟨site, none⟩, ?_, hinv, rfl, ?_⟩
      · apply history_one
        rw [soloStep, ← h.runner_eq, ← h.site_eq, hstep]
        rfl
      · exact runner_put_of_unique h.inv hr none site
  | shutdown pid =>
    cases hstage : (daemons.runner pid).filter fun r => decide (r.stage = .loop) with
    | none =>
      simp only [daemonsStep, Daemons.marks, hstage] at hinv ⊢
      exact h.unmarked hinv rfl fun _ => rfl
    | some r =>
      have hr : daemons.runner pid = some r := (Option.filter_eq_some_iff.mp hstage).1
      simp only [daemonsStep, Daemons.marks, hstage] at hinv ⊢
      refine ⟨{ solo with daemon := none }, ?_, hinv, h.site_eq, ?_⟩
      · apply history_one
        rw [soloStep, ← h.runner_eq, hr]
        rfl
      · exact runner_put_of_unique h.inv hr none solo.site
  | exit pid =>
    cases hr : daemons.runner pid with
    | none =>
      simp only [daemonsStep, Daemons.marks, hr] at hinv ⊢
      apply h.unmarked hinv rfl
      intro p
      show (daemons.put pid none).runner p = daemons.runner p
      rw [runner_put]
      split
      · rename_i hp
        rw [hp, hr]
        rfl
      · rfl
    | some r =>
      simp only [daemonsStep, Daemons.marks, hr] at hinv ⊢
      refine ⟨{ solo with daemon := none }, ?_, hinv, h.site_eq, ?_⟩
      · apply history_one
        rw [soloStep, ← h.runner_eq, hr]
        rfl
      · exact runner_put_of_unique h.inv hr none solo.site

/-- **The lock makes many daemons one.**  Any number of processes that discover, try for the lock,
work, shut down, end or are killed anywhere, in any order, with probes and other programs in between:
what they do is a history of one daemon at a time, each going through the calls of `run` in order,
and it leaves the tree, the configuration and the health log that one daemon would have left. -/
theorem daemons_refine_solo (F : Type) [FloatLike F] (host : Host) (site : Site)
    (events : List DaemonsEvent) :
    let daemons := run (daemonsStep F host) (.start site) events
    ∃ solo, history (soloStep F) ⟨site, none⟩
        (emitted (daemonsStep F host) (Daemons.marks F) (.start site) events) = some solo ∧
      daemons.site = solo.site ∧
      (∀ pid r, daemons.runner pid = some r ↔ solo.daemon = some (pid, r)) ∧
      ∀ pid, (daemons.runner pid).isSome = true ↔
        daemons.machine.anchor.lock.holder = some (.daemon pid) := by
  intro daemons
  have hstart : Matches (.start site) ⟨site, none⟩ := ⟨daemonsInv_start site, rfl, fun _ => rfl⟩
  obtain ⟨solo, hhistory, hmatches⟩ := refines_run (matches_step F host) hstart events
  refine ⟨solo, hhistory, hmatches.site_eq, ?_, hmatches.inv.holder_iff⟩
  intro pid r
  rw [← solo_runner_iff]
  exact Eq.congr_left (hmatches.runner_eq pid)

end Solo

/-! ### What is written, and by whom -/

section Writes

variable {F : Type} [FloatLike F] {host : Host}

/-- What a configuration asks of a daemon, on a machine that `t` describes. -/
inductive AskedWrite (b : LinuxBackend) (t : Tree) (config : Config) (w : Write Actor) : Prop
  | profile : config.profile ≠ none → ProfileWrite b t w → AskedWrite b t config w
  | ladder : config.autoExtremeEnabled = true → LadderWrite b t w → AskedWrite b t config w
  | brightness : config.autoBrightness = true → BacklightWrite w → AskedWrite b t config w
  | threshold : config.batteryChargeLimit ≠ none → ThresholdWrite t w → AskedWrite b t config w

theorem AskedWrite.configured {b : LinuxBackend} {t : Tree} {config : Config} {w : Write Actor}
    (h : AskedWrite b t config w) : ConfiguredWrite b t config w := by
  cases h with
  | profile hsome h => exact .profile hsome h
  | ladder henabled h => exact .ladder henabled h
  | brightness hauto h => exact .brightness hauto h
  | threshold hsome h => exact .threshold hsome h

/-- **A call** writes what the configuration on disk asks for. -/
theorem perform_extends (r : DaemonRunner) (site : Site) (w : Work) :
    Extends (AskedWrite r.backend site.sysfs.tree site.file.loadOrDefault) site.sysfs
      (r.perform F site w).2.sysfs := by
  obtain ⟨config, hconfig⟩ : ∃ config, config = site.file.loadOrDefault := ⟨_, rfl⟩
  have hfix : ∀ w, AskedWrite r.backend site.sysfs.tree config w → ¬IsRange w.path :=
    fun w hw => hw.configured.not_isRange
  have hkeep : KeepsSupplies site.sysfs.tree (AskedWrite r.backend site.sysfs.tree config) :=
    fun w hw => ConfiguredWrite.keepsSupplies w hw.configured
  have hnothing := Extends.refl (AskedWrite r.backend site.sysfs.tree config) site.sysfs
  have henforce : ∀ clock (s : SysfsRoot) t,
      Extends (AskedWrite r.backend site.sysfs.tree config) site.sysfs s →
      Extends (AskedWrite r.backend site.sysfs.tree config) site.sysfs
        (enforceLogged linuxChargeThreshold config clock s t).1 := by
    intro clock s t hs
    rw [enforceLogged_fst]
    refine enforceSysfs_extends (fun limit hlimit w hw => ?_) hkeep hs
    exact .threshold (by rw [hlimit]; exact Option.some_ne_none _) hw
  rw [← hconfig]
  cases w with
  | bootSettings clock =>
    show Extends _ _ (enforceLogged linuxChargeThreshold site.file.loadOrDefault clock _ _).1
    rw [← hconfig]
    apply henforce
    cases hprofile : config.profile with
    | none => exact hnothing
    | some profile =>
      have hasked : ∀ w, ProfileWrite r.backend site.sysfs.tree w →
          AskedWrite r.backend site.sysfs.tree config w := fun w hw =>
        .profile (by rw [hprofile]; exact Option.some_ne_none _) hw
      exact applyProfile_extends hfix hasked hnothing profile
  | logic clock =>
    show Extends _ _ (enforceLogged linuxChargeThreshold site.file.loadOrDefault clock _ _).1
    rw [← hconfig]
    apply henforce
    cases henabled : config.autoExtremeEnabled with
    | false =>
      rw [applyLogicStep_off r.backend site.sysfs henabled]
      exact hnothing
    | true =>
      exact applyLogicStep_extends (fun w hw => .ladder henabled (.hardware hw)) hfix
        (fun w hw => .ladder henabled (.peripheral hw)) hnothing config
  | brightness activeClass =>
    show Extends _ _ (applyBrightnessStep r.backend site.file.loadOrDefault activeClass _).1.sysfs
    rw [← hconfig]
    cases hauto : config.autoBrightness with
    | false =>
      rw [applyBrightnessStep_off r.backend activeClass _ hauto]
      exact hnothing
    | true =>
      exact applyBrightnessStep_extends (fun w hw => .brightness hauto hw) hnothing r.backend config _
  | sample clock outcome => exact hnothing

/-- A call leaves the configuration alone, and the health log as well if the user did not ask for
it. -/
theorem perform_files (r : DaemonRunner) (site : Site) (w : Work) :
    (r.perform F site w).2.file = site.file ∧
    (site.file.loadOrDefault.batteryHealthLog = false →
      (r.perform F site w).2.healthLog = site.healthLog) := by
  cases w with
  | bootSettings clock => exact ⟨rfl, fun _ => rfl⟩
  | logic clock => exact ⟨rfl, fun _ => rfl⟩
  | brightness activeClass => exact ⟨rfl, fun _ => rfl⟩
  | sample clock outcome =>
    refine ⟨rfl, ?_⟩
    intro hoff
    obtain ⟨o, ho⟩ : ∃ o : Occasion, o = ⟨clock, site.file.loadOrDefault, site.sysfs.tree, outcome⟩ :=
      ⟨_, rfl⟩
    have hconfig : o.config.batteryHealthLog = false := by rw [ho]; exact hoff
    show (maybeSampleHealth r.backend.battery (r.telemetry site) ⟨clock, _, _, outcome⟩).healthLog = _
    rw [← ho, maybeSampleHealth, hconfig]
    split
    · rfl
    · have hlog : sampleLog r.backend.battery (r.telemetry site) o = r.telemetry site := by
        rw [sampleLog, hconfig]
        rfl
      rw [hlog, sampleTemp]
      split <;> rfl

/-- What the process that has the lock may make of what is shared: the writes its configuration asks
for, and rows of a health log the user wants. -/
structure Written (daemons : Daemons) (pid : ℕ) (r : DaemonRunner) (after : Site) : Prop where
  running : daemons.runner pid = some r
  holder : daemons.machine.anchor.lock.holder = some (.daemon pid)
  file : after.file = daemons.site.file
  sysfs : Extends (AskedWrite r.backend daemons.site.sysfs.tree daemons.site.file.loadOrDefault)
    daemons.site.sysfs after.sysfs
  healthLog : daemons.site.file.loadOrDefault.batteryHealthLog = false →
    after.healthLog = daemons.site.healthLog

variable {daemons : Daemons} {pid : ℕ} {r : DaemonRunner}

theorem written_step (h : DaemonsInv daemons) (hr : daemons.runner pid = some r) {w : Work}
    {x : DaemonRunner × Site} (hstep : r.step F daemons.site w = some x) :
    Written daemons pid r x.2 := by
  obtain ⟨stage, -, rfl⟩ := Option.map_eq_some_iff.mp hstep
  obtain ⟨hfile, hlog⟩ := perform_files (F := F) { r with stage := stage } daemons.site w
  refine ⟨hr, (h.holder_iff pid).mp (by rw [hr]; rfl), hfile, ?_, hlog⟩
  exact perform_extends { r with stage := stage } daemons.site w

/-- Cut off anywhere, a call has written nothing else. -/
theorem written_interrupted (h : DaemonsInv daemons) (hr : daemons.runner pid = some r) {w : Work}
    {writes : ℕ} {site : Site} (hcut : r.interrupted F daemons.site w writes = some site) :
    Written daemons pid r site := by
  obtain ⟨x, hx, rfl⟩ := Option.map_eq_some_iff.mp hcut
  have hwritten := written_step h hr hx
  exact { hwritten with sysfs := hwritten.sysfs.cutShort writes }

/-- **One event.** -/
theorem daemonsStep_site (h : DaemonsInv daemons) (e : DaemonsEvent) :
    (daemonsStep F host daemons e).site = daemons.site ∨ (∃ site, e = .outside site) ∨
      ∃ pid r, Written daemons pid r (daemonsStep F host daemons e).site := by
  cases e with
  | spawn pid => exact .inl rfl
  | probeLock pid => exact .inl rfl
  | probeUnlock pid => exact .inl rfl
  | exit pid => exact .inl rfl
  | outside site => exact .inr (.inl ⟨site, rfl⟩)
  | discover pid =>
    left
    rw [daemonsStep]
    split <;> rfl
  | acquire pid =>
    left
    rw [daemonsStep]
    split <;> rfl
  | shutdown pid =>
    left
    rw [daemonsStep]
    split <;> rfl
  | work pid w =>
    rw [daemonsStep]
    split
    · rename_i x hx
      obtain ⟨r, hr, hstep⟩ := Option.bind_eq_some_iff.mp hx
      exact .inr (.inr ⟨pid, r, written_step h hr hstep⟩)
    · exact .inl rfl
  | killed pid w writes =>
    rw [daemonsStep]
    split
    · rename_i site hcut
      obtain ⟨r, hr, hcut⟩ := Option.bind_eq_some_iff.mp hcut
      exact .inr (.inr ⟨pid, r, written_interrupted h hr hcut⟩)
    · exact .inl rfl

/-- Nothing is asked of a daemon. -/
def AsksNothing (config : Config) : Prop :=
  config.profile = none ∧ config.autoExtremeEnabled = false ∧ config.autoBrightness = false ∧
    config.batteryChargeLimit = none ∧ config.batteryHealthLog = false

theorem Written.eq_of_asksNothing {after : Site} (h : Written daemons pid r after)
    (hasks : AsksNothing daemons.site.file.loadOrDefault) : after = daemons.site := by
  obtain ⟨hprofile, henabled, hauto, hlimit, hlog⟩ := hasks
  obtain ⟨hinitial, ws, hws, hasked⟩ := h.sysfs
  have hnone : ws = [] := by
    apply List.eq_nil_iff_forall_not_mem.mpr
    intro w hw
    cases hasked w hw with
    | profile hsome _ => exact hsome hprofile
    | ladder htrue _ => rw [henabled] at htrue; cases htrue
    | brightness htrue _ => rw [hauto] at htrue; cases htrue
    | threshold hsome _ => exact hsome hlimit
  have hsysfs : after.sysfs = daemons.site.sysfs := by
    apply Journal.ext_log hinitial
    rw [hws, hnone, List.nil_append]
  have hrows := h.healthLog hlog
  have hfile := h.file
  cases after
  simp only at hsysfs hrows hfile
  rw [hsysfs, hrows, hfile]

/-- **Only the holder of the lock writes, and only what it is asked to.**  After any events of any
number of processes, with whatever other programs made of the tree, the configuration and the log:
another event changes none of them, or is another program's, or belongs to the process that has the
lock, and then it leaves the configuration alone and writes only what the configuration on disk asks
for, also when it is killed in the middle.  Where that asks for nothing, nothing changes. -/
theorem only_holder_writes (F : Type) [FloatLike F] (host : Host) (site : Site)
    (events : List DaemonsEvent) (e : DaemonsEvent) :
    let daemons := run (daemonsStep F host) (.start site) events
    let after := (daemonsStep F host daemons e).site
    (after = daemons.site ∨ (∃ site, e = .outside site) ∨ ∃ pid r, Written daemons pid r after) ∧
    (AsksNothing daemons.site.file.loadOrDefault →
      after = daemons.site ∨ ∃ site, e = .outside site) := by
  intro daemons after
  have hinv : DaemonsInv daemons :=
    run_inv DaemonsInv (daemonsInv_start site) (fun _ e h => daemonsStep_inv F host e h) events
  have hsite : after = daemons.site ∨ (∃ site, e = .outside site) ∨
      ∃ pid r, Written daemons pid r after := daemonsStep_site hinv e
  refine ⟨hsite, ?_⟩
  intro hasks
  rcases hsite with hsame | houtside | ⟨pid, r, hwritten⟩
  · exact .inl hsame
  · exact .inr houtside
  · exact .inl (hwritten.eq_of_asksNothing hasks)

end Writes

end WattWarden
