import WattWarden.Library.Runs
import WattWarden.Results.Keys

/-!
# Extreme is asked for

The confirmation of Extreme over whole runs of the loop.

* `Opens` / `Waits` — a turn that brings the confirmation up, and one that leaves it up;
* `confirming_since` — **PROVED**: a confirmation that is up was brought up, and left up since;
* `extreme_confirmed` — **PROVED**: Extreme is applied by a yes to such a confirmation and by nothing
  else, and nothing was done in between.
-/

namespace WattWarden

open Library.Runs

/-- Enter on the Extreme row. -/
def Opens (app : App) (t : Turn) : Prop :=
  app.shouldQuit = false ∧ t.quitRequested = false ∧ app.confirmExtreme = false ∧
    app.item = .profileExtreme ∧ ∃ key o, t.key = some (key, o) ∧ key.code = .enter

/-- No key, or one that does not answer. -/
def Waits (t : Turn) : Prop :=
  t.quitRequested = false ∧ ∀ key o, t.key = some (key, o) → key.answer = none

theorem command_eq_enter {key : Key} : key.command = some .enter ↔ key.code = .enter := by
  cases hcode : key.code with
  | char c =>
    simp only [Key.command, hcode]
    split_ifs <;> simp
  | _ => simp [Key.command, hcode]

/-- Only Enter on the Extreme row brings the confirmation up. -/
theorem Panel.execute_confirmExtreme {p : Panel} {c : Command} (hp : p.confirmExtreme = false)
    (h : (p.execute c).confirmExtreme = true) : c = .enter ∧ p.item = .profileExtreme := by
  cases c with
  | speedUp =>
    rw [execute] at h
    split at h <;> exact absurd (hp.symm.trans h) (by decide)
  | speedDown =>
    rw [execute] at h
    split at h <;> exact absurd (hp.symm.trans h) (by decide)
  | restore => cases h
  | enter =>
    rw [execute] at h
    split at h
    · rename_i hitem
      exact ⟨rfl, hitem⟩
    · cases h
    · exact absurd (hp.symm.trans h) (by decide)
  | _ => exact absurd (hp.symm.trans h) (by decide)

namespace App

variable {b : LinuxBackend} {app : App} {t : Turn}

theorem asked_frame (b : LinuxBackend) (t : Turn) (app : App) :
    (app.frame b t).confirmExtreme = app.confirmExtreme ∧ (app.frame b t).item = app.item :=
  ⟨congrArg Panel.confirmExtreme (panel_frame b t app), congrArg Panel.item (panel_frame b t app)⟩

/-- A turn with a key. -/
theorem turn_of_key {key : Key} {o : KeyOutcomes} (happ : app.shouldQuit = false)
    (ht : t.quitRequested = false) (hkey : t.key = some (key, o)) :
    app.turn b t = (app.frame b t).press b o key := by
  rw [turn, happ, ht, hkey]
  rfl

/-- A key that is waited for changes nothing but the frame. -/
theorem turn_of_waits (happ : app.shouldQuit = false) (hup : app.confirmExtreme = true)
    (ht : Waits t) : app.turn b t = app.frame b t := by
  obtain ⟨hquit, hanswer⟩ := ht
  cases hkey : t.key with
  | none =>
    rw [turn, happ, hquit, hkey]
    rfl
  | some k =>
    have hnone : k.1.answer = none := hanswer k.1 k.2 hkey
    rw [turn_of_key happ hquit hkey, press, (asked_frame b t app).1, hup, hnone]
    rfl

/-- Asking does nothing yet. -/
theorem calls_of_opens (h : Opens app t) : (app.turn b t).calls = app.calls := by
  obtain ⟨happ, hquit, hdown, hitem, key, o, hkey, henter⟩ := h
  obtain ⟨hframe, hrow⟩ := asked_frame b t app
  rw [turn_of_key happ hquit hkey, press, hframe, hdown, command_eq_enter.mpr henter]
  show ((app.frame b t).handleEnter b o).calls = app.calls
  rw [handleEnter, hrow, hitem]
  exact calls_frame b t app

/-- **One turn.**  After it the confirmation is up when the turn brought it up, or left it up. -/
theorem confirming_step (hup : (app.turn b t).confirmExtreme = true)
    (hstays : (app.turn b t).shouldQuit = false) :
    Opens app t ∨ (app.confirmExtreme = true ∧ app.shouldQuit = false ∧ Waits t) := by
  cases happ : app.shouldQuit with
  | true =>
    rw [turn, happ] at hstays
    exact absurd (happ.symm.trans hstays) (by decide)
  | false =>
    cases hquit : t.quitRequested with
    | true =>
      rw [turn, happ, hquit] at hstays
      cases hstays
    | false =>
      cases hkey : t.key with
      | none =>
        right
        rw [turn, happ, hquit, hkey] at hup
        refine ⟨(asked_frame b t app).1.symm.trans hup, rfl, hquit, ?_⟩
        intro key o hsome
        rw [hkey] at hsome
        cases hsome
      | some k =>
        obtain ⟨hframe, hrow⟩ := asked_frame b t app
        rw [turn_of_key happ hquit hkey] at hup
        have hpressed : ((app.frame b t).panel.press k.1).confirmExtreme = true := by
          rw [← @panel_press b k.2 (app.frame b t) k.1]
          exact hup
        cases hasked : app.confirmExtreme with
        | true =>
          right
          rw [Panel.press_asked (hframe.trans hasked)] at hpressed
          refine ⟨rfl, rfl, hquit, ?_⟩
          intro key o hsome
          rw [hkey] at hsome
          obtain rfl := congrArg Prod.fst (Option.some.inj hsome)
          split at hpressed
          · cases hpressed
          · rename_i hanswer
            simpa using hanswer
        | false =>
          left
          rw [Panel.press_free (hframe.trans hasked)] at hpressed
          cases hcommand : k.1.command with
          | none =>
            rw [hcommand] at hpressed
            exact absurd ((hframe.trans hasked).symm.trans hpressed) (by decide)
          | some c =>
            rw [hcommand] at hpressed
            obtain ⟨rfl, hextreme⟩ := Panel.execute_confirmExtreme (hframe.trans hasked) hpressed
            exact ⟨happ, hquit, hasked, hrow.symm.trans hextreme, k.1, k.2, hkey,
              command_eq_enter.mp hcommand⟩

end App

section Session

variable (b : LinuxBackend)

/-- **Where a confirmation comes from**: a turn brought it up, every turn since left it up, and no call
was made in between. -/
theorem confirming_since {app : App} (hstart : app.confirmExtreme = false) (turns : List Turn)
    (hup : (run (App.turn b) app turns).confirmExtreme = true)
    (hstays : (run (App.turn b) app turns).shouldQuit = false) :
    ∃ before ask since, turns = before ++ ask :: since ∧
      Opens (run (App.turn b) app before) ask ∧ (∀ u ∈ since, Waits u) ∧
      (run (App.turn b) app turns).calls = (run (App.turn b) app before).calls := by
  induction turns using List.reverseRecOn with
  | nil => exact absurd (hstart.symm.trans hup) (by decide)
  | append_singleton turns t ih =>
    rw [run_concat] at hup hstays ⊢
    rcases App.confirming_step hup hstays with hopens | ⟨hasked, happ, hwaits⟩
    · refine ⟨turns, t, [], rfl, hopens, ?_, App.calls_of_opens hopens⟩
      exact fun u hu => absurd hu List.not_mem_nil
    · obtain ⟨before, ask, since, rfl, hopens, hsince, hcalls⟩ := ih hasked happ
      refine ⟨before, ask, since ++ [t], ?_, hopens, ?_, ?_⟩
      · rw [List.append_assoc, List.cons_append]
      · intro u hu
        rcases List.mem_append.mp hu with hu | hu
        · exact hsince u hu
        · rwa [List.mem_singleton.mp hu]
      · rw [App.turn_of_waits happ hasked hwaits, App.calls_frame, hcalls]

/-- A command never stands for Extreme. -/
theorem App.chosen_ne_extreme (app : App) (c : Command) : app.chosen c ≠ some .extreme := by
  cases c with
  | enter =>
    rw [chosen]
    split <;> simp
  | _ => simp [chosen]

/-- **Extreme needs a confirmation.**  A turn of a run applies Extreme only when its key says yes to a
confirmation that Enter on the Extreme row brought up, that every key since left unanswered, and
during which the dashboard did nothing else. -/
theorem extreme_confirmed (config : Config) (file : ConfigFile) (sysfs : SysfsRoot)
    (calibration : Calibrate.StateFile) (now : ℤ) (turns : List Turn) (t : Turn) :
    let after := run (App.turn b) (App.new config file sysfs calibration now)
    ∃ cs, (after (turns ++ [t])).calls = (after turns).calls ++ cs ∧
      (.applyProfile .extreme ∈ cs →
        (∃ key o, t.key = some (key, o) ∧ key.answer = some true) ∧
        ∃ before ask since, turns = before ++ ask :: since ∧ Opens (after before) ask ∧
          (∀ u ∈ since, Waits u) ∧ (after turns).calls = (after before).calls) := by
  intro after
  obtain ⟨cs, hcs, -, -, hchosen⟩ := App.did_turn b t (after turns)
  refine ⟨cs, ?_, ?_⟩
  · show (run (App.turn b) _ (turns ++ [t])).calls = _
    rw [run_concat]
    exact hcs
  · intro hextreme
    have hchose := hchosen _ hextreme
    rw [App.chosenIn, Option.bind_eq_some_iff] at hchose
    obtain ⟨⟨key, o⟩, htaken, hpressed⟩ := hchose
    rw [App.taken] at htaken
    split at htaken
    · cases htaken
    · rename_i hrunning
      rw [Bool.or_eq_true, not_or, Bool.not_eq_true, Bool.not_eq_true] at hrunning
      rw [App.chosenOn, (App.asked_frame b t (after turns)).1] at hpressed
      split at hpressed
      · rename_i hup
        split at hpressed
        · rename_i hyes
          refine ⟨⟨key, o, htaken, hyes⟩, ?_⟩
          exact confirming_since b rfl turns hup hrunning.1
        · cases hpressed
      · obtain ⟨c, -, hc⟩ := Option.bind_eq_some_iff.mp hpressed
        exact absurd hc (App.chosen_ne_extreme _ c)

end Session

end WattWarden
