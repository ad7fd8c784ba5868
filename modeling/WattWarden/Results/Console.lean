import WattWarden.Results.Confirmation
import WattWarden.Results.Navigation

/-!
# What always holds of the dashboard

Over whole runs of the loop: the selection is on a row, so that indexing the menu never fails; the
sampling interval is one of twenty, so that subtracting a step from it never fails, and a change of it
is announced by a text that reads back as the interval; and two escapes leave.

* `readDuration_formatDuration` — **PROVED**: `format_duration` is read back, of any whole milliseconds;
* `Panel.Sound` — the selection and the interval are in range;
* `sound_turn` / `announced_turn` / `escapes_leave` — **PROVED**: one turn, and two escapes;
* `console_sound` — **PROVED**: all of this, in every run.
-/

namespace WattWarden

open Library.Decimals Library.DigitRuns Library.Floats Library.Numerals Library.Runs Library.Tenths

/-! ### Intervals as text -/

/-- A reader of durations, in milliseconds. -/
def readDuration (text : String) : Option ℚ :=
  match text.toList.reverse with
  | 's' :: 'm' :: digits => parseDecimal (String.ofList digits.reverse)
  | 's' :: digits => (parseDecimal (String.ofList digits.reverse)).map (· * 1000)
  | _ => none

theorem parseDecimal_decimal (n : ℕ) : parseDecimal (decimal n) = some (n : ℚ) := by
  have hchars := parseDecimal_decimalChars false (isDigits_decimal n) (show AllDigits [] by simp [AllDigits])
  simpa [decimalChars, ofDigitChars_decimal] using hchars

/-- Seconds are told from milliseconds by the character before the `s`. -/
theorem readDuration_seconds {text : String} {rest : List Char} (htext : text.toList.reverse = 's' :: rest)
    (hrest : rest.head? ≠ some 'm') :
    readDuration text = (parseDecimal (String.ofList rest.reverse)).map (· * 1000) := by
  rw [readDuration, htext]
  split
  · rename_i heq
    rw [(List.cons.inj heq).2] at hrest
    exact absurd rfl hrest
  · rename_i heq
    rw [(List.cons.inj heq).2]
  · rename_i hno
    exact absurd rfl (hno rest)

theorem readDuration_millis {text : String} {rest : List Char}
    (htext : text.toList.reverse = 's' :: 'm' :: rest) :
    readDuration text = parseDecimal (String.ofList rest.reverse) := by
  rw [readDuration, htext]
  rfl

/-- **`format_duration` is read back.** -/
theorem readDuration_formatDuration (ms : ℕ) : readDuration (formatDuration ms) = some (ms : ℚ) := by
  rw [formatDuration]
  split
  · have hlist : (decimal ms ++ "ms").toList.reverse = 's' :: 'm' :: (decimal ms).toList.reverse := by
      simp
    rw [readDuration_millis hlist, List.reverse_reverse, String.ofList_toList, parseDecimal_decimal]
  · have hlist : (String.ofList (trimZeros (fixedChars 3 ms)) ++ "s").toList.reverse
        = 's' :: (trimZeros (fixedChars 3 ms)).reverse := by
      simp
    have hlast : (trimZeros (fixedChars 3 ms)).reverse.head? ≠ some 'm' := by
      intro hm
      rw [List.head?_reverse] at hm
      rcases mem_trimZeros (List.mem_of_getLast? hm) with h | h | h <;> exact absurd h (by decide)
    have hms : (ms : ℚ) / 10 ^ 3 * 1000 = ms := by norm_num
    rw [readDuration_seconds hlist hlast, List.reverse_reverse, parseDecimal_trimZeros (by decide),
      Option.map_some, hms]

/-! ### One turn -/

/-- The selection and the sampling interval are in range. -/
structure Panel.Sound (p : Panel) : Prop where
  selected : IsRow menuItems p.selected
  delay_ge : minRefreshDelay ≤ p.refreshDelay
  delay_le : p.refreshDelay ≤ maxRefreshDelay
  delay_dvd : refreshStep ∣ p.refreshDelay

namespace Panel

variable {p p' : Panel}

theorem Sound.congr (h : p.Sound) (hselected : p'.selected = p.selected)
    (hdelay : p'.refreshDelay = p.refreshDelay) : p'.Sound where
  selected := hselected ▸ h.selected
  delay_ge := hdelay ▸ h.delay_ge
  delay_le := hdelay ▸ h.delay_le
  delay_dvd := hdelay ▸ h.delay_dvd

/-- **A command** keeps the selection and the interval in range. -/
theorem Sound.execute (h : p.Sound) (c : Command) : (p.execute c).Sound := by
  obtain ⟨hrow, hge, hle, hdvd⟩ := h
  cases c with
  | speedUp =>
    rw [Panel.execute]
    split
    · refine ⟨hrow, le_max_right _ _, ?_, ?_⟩
      · show max (p.refreshDelay - refreshStep) minRefreshDelay ≤ maxRefreshDelay
        simp only [minRefreshDelay, maxRefreshDelay, refreshStep] at hle ⊢
        omega
      · show refreshStep ∣ max (p.refreshDelay - refreshStep) minRefreshDelay
        simp only [minRefreshDelay, refreshStep] at hge hdvd ⊢
        omega
    · exact ⟨hrow, hge, hle, hdvd⟩
  | speedDown =>
    rw [Panel.execute]
    split
    · refine ⟨hrow, ?_, min_le_right _ _, ?_⟩
      · show minRefreshDelay ≤ min (p.refreshDelay + refreshStep) maxRefreshDelay
        simp only [minRefreshDelay, maxRefreshDelay, refreshStep] at hge ⊢
        omega
      · show refreshStep ∣ min (p.refreshDelay + refreshStep) maxRefreshDelay
        simp only [maxRefreshDelay, refreshStep] at hdvd ⊢
        omega
    · exact ⟨hrow, hge, hle, hdvd⟩
  | move forward => exact ⟨stepSelection_isRow hrow forward, hge, hle, hdvd⟩
  | enter =>
    rw [Panel.execute]
    split <;> exact ⟨hrow, hge, hle, hdvd⟩
  | _ => exact ⟨hrow, hge, hle, hdvd⟩

end Panel

/-- Only the two speed keys change the interval. -/
theorem Panel.execute_refreshDelay {p : Panel} {c : Command}
    (h : (p.execute c).refreshDelay ≠ p.refreshDelay) : c = .speedUp ∨ c = .speedDown := by
  cases c with
  | speedUp => exact .inl rfl
  | speedDown => exact .inr rfl
  | enter =>
    rw [execute] at h
    split at h <;> exact absurd rfl h
  | _ => exact absurd rfl h

namespace App

variable {b : LinuxBackend} {app : App} {t : Turn}

/-- What a turn does to the selection and the interval: nothing, or what a command outside the
confirmation does. -/
theorem turn_cases (b : LinuxBackend) (app : App) (t : Turn) :
    ((app.turn b t).selected = app.selected ∧ (app.turn b t).refreshDelay = app.refreshDelay) ∨
      ∃ (framed : App) (o : KeyOutcomes) (c : Command), framed.selected = app.selected ∧
        framed.refreshDelay = app.refreshDelay ∧ app.turn b t = (framed.execute b o c).markRowsDirty := by
  have hframe := panel_frame b t app
  have hselected : (app.frame b t).selected = app.selected := congrArg Panel.selected hframe
  have hdelay : (app.frame b t).refreshDelay = app.refreshDelay := congrArg Panel.refreshDelay hframe
  cases happ : app.shouldQuit with
  | true =>
    rw [turn, happ]
    exact .inl ⟨rfl, rfl⟩
  | false =>
    cases hquit : t.quitRequested with
    | true =>
      rw [turn, happ, hquit]
      exact .inl ⟨rfl, rfl⟩
    | false =>
      cases hkey : t.key with
      | none =>
        rw [turn, happ, hquit, hkey]
        exact .inl ⟨hselected, hdelay⟩
      | some k =>
        rw [turn_of_key happ hquit hkey]
        cases hasked : (app.frame b t).confirmExtreme with
        | true =>
          left
          have hpress : (press b k.2 k.1 (app.frame b t)).panel = _ :=
            (panel_press k.1).trans (Panel.press_asked hasked)
          split at hpress
          · exact ⟨(congrArg Panel.selected hpress).trans hselected,
              (congrArg Panel.refreshDelay hpress).trans hdelay⟩
          · exact ⟨(congrArg Panel.selected hpress).trans hselected,
              (congrArg Panel.refreshDelay hpress).trans hdelay⟩
        | false =>
          rw [press, hasked]
          cases k.1.command with
          | none => exact .inl ⟨hselected, hdelay⟩
          | some c => exact .inr ⟨app.frame b t, k.2, c, hselected, hdelay, rfl⟩

/-- The dashboard starts on its first row, at the default interval. -/
theorem sound_new (config : Config) (file : ConfigFile) (sysfs : SysfsRoot)
    (calibration : Calibrate.StateFile) (now : ℤ) :
    (new config file sysfs calibration now).panel.Sound where
  selected := initialSelection_isRow ⟨1, buildMenu_isRow_one "Linux"⟩
  delay_ge := show minRefreshDelay ≤ defaultRefreshDelay by decide
  delay_le := show defaultRefreshDelay ≤ maxRefreshDelay by decide
  delay_dvd := show refreshStep ∣ defaultRefreshDelay by decide

/-- **One turn** keeps the selection and the interval in range. -/
theorem sound_turn (b : LinuxBackend) (h : app.panel.Sound) (t : Turn) :
    (app.turn b t).panel.Sound := by
  rcases turn_cases b app t with ⟨hselected, hdelay⟩ | ⟨framed, o, c, hselected, hdelay, hturn⟩
  · exact h.congr hselected hdelay
  · have hframed : framed.panel.Sound := h.congr hselected hdelay
    have hexecuted : (framed.execute b o c).panel.Sound := by
      rw [panel_execute]
      exact hframed.execute c
    rw [hturn]
    exact hexecuted.congr rfl rfl

/-- **A change of the interval is announced.** -/
theorem announced_turn (b : LinuxBackend) (app : App) (t : Turn)
    (h : (app.turn b t).refreshDelay ≠ app.refreshDelay) : (app.turn b t).dashboard.toast
      = "Update Speed: " ++ formatDuration (app.turn b t).refreshDelay := by
  rcases turn_cases b app t with ⟨-, hdelay⟩ | ⟨framed, o, c, -, hdelay, hturn⟩
  · exact absurd hdelay h
  · rw [hturn] at h ⊢
    rw [← hdelay] at h
    have hchanged : (framed.panel.execute c).refreshDelay ≠ framed.panel.refreshDelay := by
      rw [← @panel_execute b o framed c]
      exact h
    rcases Panel.execute_refreshDelay hchanged with rfl | rfl
    · change framed.speedUp.refreshDelay ≠ _ at h
      show framed.speedUp.dashboard.toast = "Update Speed: " ++ formatDuration framed.speedUp.refreshDelay
      rw [speedUp] at h ⊢
      split at h
      · rename_i hslow
        rw [if_pos hslow]
        rfl
      · exact absurd rfl h
    · change framed.speedDown.refreshDelay ≠ _ at h
      show framed.speedDown.dashboard.toast = "Update Speed: " ++ formatDuration framed.speedDown.refreshDelay
      rw [speedDown] at h ⊢
      split at h
      · rename_i hfast
        rw [if_pos hfast]
        rfl
      · exact absurd rfl h

/-- An escape makes no calls; it leaves, unless the confirmation was up. -/
theorem escape_turn (b : LinuxBackend) (app : App) (t : Turn)
    (ht : ∃ key o, t.key = some (key, o) ∧ key.code = .esc) :
    (app.turn b t).calls = app.calls ∧ ((app.turn b t).shouldQuit = true ∨
      (app.confirmExtreme = true ∧ (app.turn b t).confirmExtreme = false)) := by
  obtain ⟨key, o, hkey, hesc⟩ := ht
  have hanswer : key.answer = some false := by simp [Key.answer, hesc]
  have hcommand : key.command = some .quit := by simp [Key.command, hesc]
  cases happ : app.shouldQuit with
  | true =>
    rw [turn, happ]
    exact ⟨rfl, .inl happ⟩
  | false =>
    cases hquit : t.quitRequested with
    | true =>
      rw [turn, happ, hquit]
      exact ⟨rfl, .inl rfl⟩
    | false =>
      rw [turn_of_key happ hquit hkey, press, (asked_frame b t app).1]
      cases app.confirmExtreme with
      | true =>
        rw [hanswer]
        exact ⟨calls_frame b t app, .inr ⟨rfl, rfl⟩⟩
      | false =>
        rw [hcommand]
        exact ⟨calls_frame b t app, .inl rfl⟩

/-- **Two escapes leave**, from anywhere, and do nothing else. -/
theorem escapes_leave (b : LinuxBackend) (app : App) {t t' : Turn}
    (ht : ∃ key o, t.key = some (key, o) ∧ key.code = .esc)
    (ht' : ∃ key o, t'.key = some (key, o) ∧ key.code = .esc) :
    ((app.turn b t).turn b t').shouldQuit = true ∧ ((app.turn b t).turn b t').calls = app.calls := by
  obtain ⟨hcalls, hleft⟩ := escape_turn b app t ht
  obtain ⟨hcalls', hleft'⟩ := escape_turn b (app.turn b t) t' ht'
  refine ⟨?_, hcalls'.trans hcalls⟩
  rcases hleft with hquit | ⟨-, hdown⟩
  · rw [turn, hquit]
    exact hquit
  · rcases hleft' with hquit | ⟨hup, -⟩
    · exact hquit
    · exact absurd (hup.symm.trans hdown) (by decide)

end App

/-- **The dashboard stays usable.**  In every run the selection is on a row of the menu and the
sampling interval is one of twenty; a turn that changes the interval announces it, and the text reads
back as the interval; and two escapes leave without another call. -/
theorem console_sound (b : LinuxBackend) (config : Config) (file : ConfigFile) (sysfs : SysfsRoot)
    (calibration : Calibrate.StateFile) (now : ℤ) (turns : List Turn) :
    let after := run (App.turn b) (App.new config file sysfs calibration now)
    (after turns).panel.Sound ∧
    (∀ t : Turn, (after (turns ++ [t])).refreshDelay ≠ (after turns).refreshDelay →
      ∃ text, (after (turns ++ [t])).dashboard.toast = "Update Speed: " ++ text ∧
        readDuration text = some ((after (turns ++ [t])).refreshDelay : ℚ)) ∧
    ∀ t t' : Turn, (∃ key o, t.key = some (key, o) ∧ key.code = .esc) →
      (∃ key o, t'.key = some (key, o) ∧ key.code = .esc) →
      (after (turns ++ [t] ++ [t'])).shouldQuit = true ∧
        (after (turns ++ [t] ++ [t'])).calls = (after turns).calls := by
  intro after
  have hnext : ∀ turns t, after (turns ++ [t]) = (after turns).turn b t := fun _ _ => run_concat _ _ _
  refine ⟨?_, ?_, ?_⟩
  · induction turns using List.reverseRecOn with
    | nil => exact App.sound_new config file sysfs calibration now
    | append_singleton turns t ih =>
      rw [hnext]
      exact App.sound_turn b ih t
  · intro t hchanged
    rw [hnext] at hchanged ⊢
    exact ⟨_, App.announced_turn b (after turns) t hchanged, readDuration_formatDuration _⟩
  · intro t t' ht ht'
    rw [hnext, hnext]
    exact App.escapes_leave b (after turns) ht ht'

end WattWarden
