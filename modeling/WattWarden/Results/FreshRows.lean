import WattWarden.Library.Runs
import WattWarden.Results.Confirmation

/-!
# How old the rows of a frame are

The rows are kept between frames.  Over whole runs of the loop, a frame shows rows that were read for
it, or for a frame less than half a second before it with no key in between that acts outside the
confirmation.

* `App.rowUse` — what a turn does to the rows: a look at them, and a warning after a key;
* `rows_run` — **PROVED**: the rows of a run are what these uses leave;
* `rows_fresh` — **PROVED**: how old the rows of a frame are.
-/

namespace WattWarden

open Library.Caching Library.Runs

namespace App

/-- A key is pressed that acts outside the confirmation. -/
def actsFreely (app : App) (t : Turn) : Bool := (app.taken t).isSome && !app.confirmExtreme

/-- What a turn does to the rows. -/
def rowUse (b : LinuxBackend) (app : App) (t : Turn) : Use RowSources where
  look := if app.shouldQuit || t.quitRequested then none else some (t.now, app.seen b t)
  spoils := app.actsFreely t

theorem execute_rows (p : Panel) (c : Command) : (p.execute c).rows = p.rows := by
  cases c with
  | speedUp =>
    rw [Panel.execute]
    split <;> rfl
  | speedDown =>
    rw [Panel.execute]
    split <;> rfl
  | enter =>
    rw [Panel.execute]
    split <;> rfl
  | _ => rfl

/-- A turn on the rows. -/
theorem rows_turn (b : LinuxBackend) (app : App) (t : Turn) :
    (app.turn b t).rows = app.rows.step rowsTtl (menuRows menuItems) (app.rowUse b t) := by
  have hrows : (app.turn b t).rows = (app.panel.turn t (app.seen b t)).rows :=
    congrArg Panel.rows (panel_turn b app t)
  rw [hrows, Panel.turn, rowUse, actsFreely, taken]
  show (if app.shouldQuit then _ else _ : Panel).rows = _
  cases app.shouldQuit with
  | true => rfl
  | false =>
    cases t.quitRequested with
    | true => rfl
    | false =>
      cases t.key with
      | none => rfl
      | some k =>
        show (Panel.press k.1 { app.panel with rows := _ }).rows = _
        cases hasked : app.confirmExtreme with
        | true =>
          rw [Panel.press_asked hasked]
          split <;> rfl
        | false =>
          rw [Panel.press_free hasked]
          cases k.1.command with
          | none => rfl
          | some c =>
            show (Panel.execute _ c).rows.spoil = _
            rw [execute_rows]
            rfl

end App

variable (b : LinuxBackend)

/-- What the turns of a run do to the rows. -/
def rowUses (app : App) (turns : List Turn) : List (Use RowSources) :=
  (visits (App.turn b) app turns).map fun v => v.1.rowUse b v.2

theorem rows_run (app : App) (turns : List Turn) :
    (run (App.turn b) app turns).rows
      = app.rows.after rowsTtl (menuRows menuItems) (rowUses b app turns) := by
  induction turns using List.reverseRecOn with
  | nil => rfl
  | append_singleton turns t ih =>
    rw [run_concat, App.rows_turn, ih, rowUses, rowUses, visits_concat, List.map_append]
    exact (Cache.after_concat _ _ _ _ _).symm

/-- **The rows on the screen are young.**  The rows of a frame are read for it; or they were read for
a frame of an earlier turn, less than half a second before, and no key from that turn on acted
outside the confirmation. -/
theorem rows_fresh (config : Config) (file : ConfigFile) (sysfs : SysfsRoot)
    (calibration : Calibrate.StateFile) (now : ℤ) (turns : List Turn) (t : Turn) :
    let after := run (App.turn b) (App.new config file sysfs calibration now)
    let shown := ((after turns).frame b t).rows.value
    shown = menuRows menuItems ((after turns).seen b t) ∨
      ∃ before u since, turns = before ++ u :: since ∧
        shown = menuRows menuItems ((after before).seen b u) ∧ t.now - u.now < rowsTtl ∧
        ∀ v ∈ visits (App.turn b) (after before) (u :: since), v.1.actsFreely v.2 = false := by
  intro after shown
  obtain ⟨app, happ⟩ : ∃ app, app = App.new config file sysfs calibration now := ⟨_, rfl⟩
  have hspoiled : app.rows.spoiled = true := by
    rw [happ]
    rfl
  have hshown : shown = ((app.rows.after rowsTtl (menuRows menuItems) (rowUses b app turns)).refresh
      rowsTtl (menuRows menuItems) t.now ((after turns).seen b t)).value := by
    rw [← rows_run, happ]
    exact congrArg (fun p => p.rows.value) (App.panel_frame b t (after turns))
  rw [hshown]
  rcases shown_fresh hspoiled (rowUses b app turns) t.now ((after turns).seen b t) with
    hnow | ⟨before, u, since, computed, world, hsince, hvalue, hyoung, hclean⟩
  · exact .inl hnow
  · right
    obtain ⟨visited, rest, hvisits, -, hrest⟩ := List.map_eq_append_iff.mp hsince.uses_eq
    obtain ⟨v, later, rfl, hu, hlater⟩ := List.map_eq_cons_iff.mp hrest
    obtain ⟨turns₁, turns₂, hturns, hstate, hthere⟩ := visits_split hvisits
    have hafter : v.1 = after turns₁ := by
      rw [hstate, happ]
    have hlook : computed = v.2.now ∧ world = v.1.seen b v.2 := by
      have hlook := hsince.look_eq
      rw [← hu, App.rowUse] at hlook
      split at hlook
      · cases hlook
      · obtain ⟨hnow, hworld⟩ := Prod.mk.inj (Option.some.inj hlook)
        exact ⟨hnow.symm, hworld.symm⟩
    refine ⟨turns₁, v.2, turns₂, hturns, ?_, ?_, ?_⟩
    · rw [hvalue, hlook.2, hafter]
    · rwa [hlook.1] at hyoung
    · intro w hw
      rw [← hafter, ← hthere] at hw
      have huse : w.1.rowUse b w.2 ∈ u :: since := by
        rw [← hu, ← hlater]
        rcases List.mem_cons.mp hw with rfl | hw
        · exact List.mem_cons_self
        · exact List.mem_cons_of_mem _ (List.mem_map.mpr ⟨w, hw, rfl⟩)
      exact hclean _ huse

end WattWarden
