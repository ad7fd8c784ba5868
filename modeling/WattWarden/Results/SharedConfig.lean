import WattWarden.Core.ConfigText
import WattWarden.Results.Commands

/-!
# One configuration file for all programs

Dashboards, commands and daemons on one configuration file, as `fs::write` treats it: any number of
them at once, saves that overlap, fail or are cut off, and reads at any time between.

* `FrontEndCall` / `ConfigEvent` — what a dashboard or a command sets, and the steps of a program;
* `sharedConfig` — the file and the copies after a run;
* `Seen` — what a load finds, or a program holds;
* `config_shared` — **PROVED**: nobody ever sees a setting that nobody made.
-/

namespace WattWarden

open Library.Runs Library.SharedText

/-- An action of a dashboard, or a command. -/
inductive FrontEndCall where
  | dashboard (action : DashboardAction)
  | command (command : CliCommand)

/-- The setting it makes of the copy its program holds. -/
def FrontEndCall.setting : FrontEndCall → Config → Option Setting
  | .dashboard action, config => action.setting config
  | .command c, _ => some c.setting

/-- A step of a program: `load_or_default`, a setting in its copy, the steps of `Config::save`. -/
inductive ConfigEvent where
  | load (p : ℕ)
  | call (p : ℕ) (call : FrontEndCall)
  | truncate (p : ℕ)
  | write (p : ℕ)
  | writeFails (p : ℕ)
  | exit (p : ℕ)

def ConfigEvent.event : ConfigEvent → Event Config Setting
  | .load p => .load p
  | .call p c => .update p c.setting
  | .truncate p => .truncate p
  | .write p => .write p
  | .writeFails p => .abandon p
  | .exit p => .leave p

section Shared

/-- One field of a copy is set. -/
def applySetting (setting : Setting) (config : Config) : Config := setting.apply config

variable {β : Type*} (format : Format Config β)

abbrev configStep (s : State Config β Setting) (e : Event Config Setting) :
    State Config β Setting :=
  step format applySetting Config.default s e

/-- The file and the copies after a run of programs, none of them there at first. -/
def sharedConfig (text : Option (List β)) (events : List ConfigEvent) : State Config β Setting :=
  run (configStep format) (State.start text) (events.map ConfigEvent.event)

/-- A load finds it, or a program holds it. -/
def Seen (s : State Config β Setting) (config : Config) : Prop :=
  config = loaded format Config.default s.text ∨ ∃ p h, s.holder p = some h ∧ h.copy = config

/-- Nobody loads or truncates the file during a save, and no save fails or is cut off. -/
def WholeSaves (text : Option (List β)) (events : List ConfigEvent) : Prop :=
  StepsMeet Undisturbed (configStep format) (State.start text) (events.map ConfigEvent.event)

variable {format}

/-- What the settings make of a configuration, in the words of the command line. -/
theorem exists_settled {base : Config → Prop} {settings : List Setting} {config : Config}
    (h : Made applySetting base settings config) :
    ∃ before landed, base before ∧ landed.Sublist settings ∧
      config = Cli.settled before landed := by
  obtain ⟨before, landed, hbase, hsub, rfl⟩ := h
  exact ⟨before, landed, hbase, hsub, rfl⟩

end Shared

/-- **No setting out of nowhere.**  Whatever programs do to the configuration file at the same time,
what a load finds and what a program holds is the configuration there was, or the default, with some
of the settings made since, in their order: a field nobody set is as it was or as in the default;
and the default stands in only after a save was disturbed, or for a load in the middle of one. -/
theorem config_shared {β : Type*} (format : Format Config β) (text : Option (List β))
    (events : List ConfigEvent) (config : Config)
    (hseen : Seen format (sharedConfig format text events) config) :
    let s := sharedConfig format text events
    let before := loaded format Config.default text
    (∃ landed : List Setting, landed.Sublist s.updates ∧
      (config = Cli.settled before landed ∨ config = Cli.settled Config.default landed)) ∧
    (∀ f, (∀ setting ∈ s.updates, setting.field ≠ f) →
      config.get f = before.get f ∨ config.get f = Config.default.get f) ∧
    (WholeSaves format text events →
      (∀ p, ¬Saving s p) ∨ (∃ p h, s.holder p = some h ∧ h.copy = config) →
      ∃ landed : List Setting, landed.Sublist s.updates ∧ config = Cli.settled before landed) := by
  intro s before
  have hsound : Sound format applySetting (fun c => c = before ∨ c = Config.default) text s :=
    sound_run (.inr rfl) (.inl rfl) _
  have hmade : Made applySetting (fun c => c = before ∨ c = Config.default) s.updates config := by
    rcases hseen with rfl | ⟨p, h, hp, rfl⟩
    · exact hsound.loaded (.inr rfl) (.inl rfl)
    · exact hsound.copies p h hp
  obtain ⟨base, landed, hbase, hsub, hconfig⟩ := exists_settled hmade
  have hkept : ∀ f, (∀ setting ∈ s.updates, setting.field ≠ f) → config.get f = base.get f := by
    intro f hf
    rw [hconfig]
    exact Cli.get_settled _ _ fun setting hmem => hf setting (hsub.subset hmem)
  refine ⟨⟨landed, hsub, ?_⟩, ?_, ?_⟩
  · rcases hbase with rfl | rfl
    · exact .inl hconfig
    · exact .inr hconfig
  · intro f hf
    rw [hkept f hf]
    rcases hbase with rfl | rfl
    · exact .inl rfl
    · exact .inr rfl
  · intro hwhole hquiet
    have hintact : Intact format applySetting (Eq before) text s := intact_run rfl hwhole
    have hmade : Made applySetting (Eq before) s.updates config := by
      rcases hquiet with hidle | ⟨p, h, hp, rfl⟩
      · rcases hseen with rfl | ⟨p, h, hp, rfl⟩
        · exact hintact.loaded hidle rfl
        · exact hintact.copies p h hp
      · exact hintact.copies p h hp
    obtain ⟨base, landed, rfl, hsub, hconfig⟩ := exists_settled hmade
    exact ⟨landed, hsub, hconfig⟩

/-- Two commands save at the same time, and the shorter text is written last. -/
theorem config_shared_overlap :
    let events : List ConfigEvent := [.load 0, .load 1, .call 0 (.command (.setChargeLimit (some 80))),
      .call 1 (.command (.setAutoBrightness true)), .truncate 0, .truncate 1, .write 1, .write 0]
    let s := sharedConfig Config.format none events
    loaded Config.format Config.default s.text = Config.default ∧
      ∃ landed : List Setting, landed.Sublist s.updates ∧
        loaded Config.format Config.default s.text = Cli.settled Config.default landed := by
  intro events s
  refine ⟨by decide +kernel, ?_⟩
  obtain ⟨⟨landed, hsub, hconfig⟩, -, -⟩ := config_shared Config.format none events _ (.inl rfl)
  exact ⟨landed, hsub, hconfig.elim id id⟩

end WattWarden
