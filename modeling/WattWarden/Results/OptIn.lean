import WattWarden.Daemon.Runner
import WattWarden.Library.Runs

/-!
# Opt-in: what the daemon may touch under a configuration

A run of the daemon is any sequence of boot settings, logic ticks, brightness ticks and changes of
the outside world, under one configuration.  Every write in its journal is one the configuration
asked for.

* `ConfiguredWrite` — the writes a configuration permits;
* `daemonRun_extends` — **PROVED**: a run makes no other write;
* `daemonRun_footprint` — **PROVED**: with no profile and the ladder off, only backlight brightness
  and threshold nodes can differ from what the outside world left; with no profile and
  auto-brightness off, no backlight brightness; with no charge limit, no threshold node; with
  everything off, nothing.
-/

namespace WattWarden

open Library.FileTree Library.Journaling Library.Floats Library.Runs Threshold

/-- The writes a configuration permits, on a machine that `t` describes. -/
inductive ConfiguredWrite (b : LinuxBackend) (t : Tree) (config : Config) (w : Write Actor) : Prop
  | outside : AmbientWrite t w → ConfiguredWrite b t config w
  | profile : config.profile ≠ none → ProfileWrite b t w → ConfiguredWrite b t config w
  | ladder : config.autoExtremeEnabled = true → LadderWrite b t w → ConfiguredWrite b t config w
  | brightness : config.autoBrightness = true → BacklightWrite w → ConfiguredWrite b t config w
  | threshold : config.batteryChargeLimit ≠ none → ThresholdWrite t w →
      ConfiguredWrite b t config w

theorem LadderWrite.not_backlight {b : LinuxBackend} {t : Tree} {w : Write Actor}
    (h : LadderWrite b t w) : subsystem w.path ≠ .backlight := by
  have hsub : subsystem w.path ∈ [Subsystem.cpu, .powercap, .drm, .module, .leds, .bus, .proc] := by
    rcases h with h | h
    · exact List.mem_append_left [Subsystem.module, .leds, .bus, .proc] h.isHardware
    · exact List.mem_append_right [Subsystem.cpu, .powercap, .drm] h.subsystem_mem
  revert hsub
  generalize subsystem w.path = sub
  revert sub
  decide

section Run

variable {b : LinuxBackend} {t : Tree} {config : Config}

theorem ConfiguredWrite.not_isRange {w : Write Actor} (h : ConfiguredWrite b t config w) :
    ¬IsRange w.path := by
  cases h with
  | outside h => exact fun hrange => h.not_isHardware hrange.isHardware
  | profile _ h => exact h.not_isRange
  | ladder _ h => exact h.profileWrite.not_isRange
  | brightness _ h => exact (ProfileWrite.backlight (b := b) (t := t) h).not_isRange
  | threshold _ h => exact fun hrange => thresholdWrite_not_isHardware h hrange.isHardware

theorem ConfiguredWrite.keepsSupplies : KeepsSupplies t (ConfiguredWrite b t config) := by
  intro w h hsupply
  cases h with
  | outside h => exact h.exists_of_supply hsupply
  | profile _ h => exact absurd hsupply h.not_supply
  | ladder _ h => exact absurd hsupply h.profileWrite.not_supply
  | brightness _ h => exact absurd hsupply (ProfileWrite.backlight (b := b) (t := t) h).not_supply
  | threshold _ h => exact h.pathExists

/-- **One event.**  A tick writes what the configuration permits. -/
theorem daemonStep_extends (F : Type) [FloatLike F] {d : DaemonState}
    (h : Extends (ConfiguredWrite b t config) (.start t) d.sysfs) (e : DaemonEvent) :
    Extends (ConfiguredWrite b t config) (.start t) (daemonStep F b config d e).sysfs := by
  have hfix : ∀ w, ConfiguredWrite b t config w → ¬IsRange w.path := fun w hw => hw.not_isRange
  have hkeep : KeepsSupplies (Journal.start t : SysfsRoot).tree (ConfiguredWrite b t config) :=
    ConfiguredWrite.keepsSupplies
  have henforce : ∀ s, Extends (ConfiguredWrite b t config) (.start t) s →
      Extends (ConfiguredWrite b t config) (.start t) (enforceSysfs config s) := by
    intro s hs
    refine enforceSysfs_extends (fun limit hlimit w hw => ?_) hkeep hs
    exact .threshold (by rw [hlimit]; exact Option.some_ne_none _) hw
  cases e with
  | bootSettings =>
    apply henforce
    cases hprofile : config.profile with
    | none => exact h
    | some profile =>
      have hpermit : ∀ w, ProfileWrite b t w → ConfiguredWrite b t config w := fun w hw =>
        .profile (by rw [hprofile]; exact Option.some_ne_none _) hw
      exact applyProfile_extends hfix hpermit h profile
  | logic =>
    apply henforce
    cases henabled : config.autoExtremeEnabled with
    | false => rw [applyLogicStep_off b d.sysfs henabled]; exact h
    | true =>
      exact applyLogicStep_extends (fun w hw => .ladder henabled (.hardware hw)) hfix
        (fun w hw => .ladder henabled (.peripheral hw)) h config
  | brightness activeClass =>
    cases hauto : config.autoBrightness with
    | false =>
      show Extends _ _ (applyBrightnessStep b config activeClass d).1.sysfs
      rw [applyBrightnessStep_off b activeClass d hauto]
      exact h
    | true => exact applyBrightnessStep_extends (fun w hw => .brightness hauto hw) h b config _
  | outside changes =>
    show Extends _ _ (ambient d.sysfs changes)
    refine ambient_extends (fun w hw => ?_) hkeep h changes
    exact .outside hw

/-- **A run** writes what the configuration permits. -/
theorem daemonRun_extends (F : Type) [FloatLike F] (b : LinuxBackend) (t : Tree) (config : Config)
    (last : ℤ) (events : List DaemonEvent) :
    Extends (ConfiguredWrite b t config) (.start t)
      (run (daemonStep F b config) ⟨.start t, last⟩ events).sysfs :=
  run_inv (fun d : DaemonState => Extends (ConfiguredWrite b t config) (.start t) d.sysfs)
    (Extends.refl _ _) (fun _ e h => daemonStep_extends F h e) events

end Run

/-! ### The footprint of a configuration -/

/-- A backlight brightness node. -/
def IsBrightnessNode (p : Path) : Prop := ∃ device, p = backlightNode device "brightness"

/-- An end, start or `charge_types` node of a discovered charge threshold. -/
def IsThresholdNode (t : Tree) (p : Path) : Prop := ∃ node ∈ discover t, p ∈ node.paths

/-- What the outside world alone made of the tree. -/
def outsideOnly (s : SysfsRoot) : Tree := replayOf (fun a => decide (a = .environment)) s

theorem BacklightWrite.isBrightnessNode {w : Write Actor} (h : BacklightWrite w) :
    IsBrightnessNode w.path := by
  cases h with
  | brightness => exact ⟨_, rfl⟩
  | tool => exact ⟨_, rfl⟩

theorem isThresholdNode_of_write {t : Tree} {w : Write Actor} (h : ThresholdWrite t w) :
    IsThresholdNode t w.path := by
  cases h with
  | node hnode hp => exact ⟨_, hnode, hp⟩

theorem IsThresholdNode.supply {t : Tree} {p : Path} (h : IsThresholdNode t p) :
    subsystem p = .powerSupply ∨ subsystem p = .platformDevice := by
  obtain ⟨node, hnode, hp⟩ := h
  exact subsystem_of_mem_discover hnode hp

theorem IsBrightnessNode.subsystem_eq {p : Path} (h : IsBrightnessNode p) :
    subsystem p = .backlight := by
  obtain ⟨device, rfl⟩ := h
  rfl

/-- A node no permitted write of the program names is what the outside world made of it. -/
theorem content_eq_outsideOnly {b : LinuxBackend} {t : Tree} {config : Config} {s : SysfsRoot}
    (h : Extends (ConfiguredWrite b t config) (.start t) s) {p : Path}
    (hp : ∀ w, ConfiguredWrite b t config w → w.path = p → AmbientWrite t w) :
    s.tree.content p = (outsideOnly s).content p := by
  apply content_replayOf
  intro w hw hactor hpath
  have hambient := hp w (h.forall_log w hw) hpath
  rw [hambient.actor_eq] at hactor
  cases hactor

/-- **Opt-in footprints.**  At the end of any run of boot settings, logic ticks and brightness
ticks, with any loads and power-supply contents in between, under one configuration:
without a profile and with the ladder off, a node that is neither a backlight brightness nor a
threshold node holds what the outside world left; without a profile and auto-brightness, so does
every backlight brightness; without a charge limit, so does every threshold node; with all four
settings off, so does every node. -/
theorem daemonRun_footprint (F : Type) [FloatLike F] (host : Host) (t : Tree) (config : Config)
    (last : ℤ) (events : List DaemonEvent) :
    let s := (run (daemonStep F (LinuxBackend.withRoot host t) config)
      ⟨.start t, last⟩ events).sysfs
    (config.profile = none → config.autoExtremeEnabled = false →
      ∀ p, ¬IsBrightnessNode p → ¬IsThresholdNode t p →
        s.tree.content p = (outsideOnly s).content p) ∧
    (config.profile = none → config.autoBrightness = false →
      ∀ p, IsBrightnessNode p → s.tree.content p = (outsideOnly s).content p) ∧
    (config.batteryChargeLimit = none →
      ∀ p, IsThresholdNode t p → s.tree.content p = (outsideOnly s).content p) ∧
    (config.profile = none → config.autoExtremeEnabled = false → config.autoBrightness = false →
      config.batteryChargeLimit = none →
        ∀ p, s.tree.content p = (outsideOnly s).content p) := by
  intro s
  have h : Extends (ConfiguredWrite (LinuxBackend.withRoot host t) t config) (.start t) s :=
    daemonRun_extends F _ t config last events
  refine ⟨?_, ?_, ?_, ?_⟩
  · intro hprofile henabled p hlight hthreshold
    apply content_eq_outsideOnly h
    intro w hw hpath
    subst hpath
    cases hw with
    | outside hw => exact hw
    | profile hsome _ => exact absurd hprofile hsome
    | ladder htrue _ => rw [henabled] at htrue; cases htrue
    | brightness _ hw => exact absurd hw.isBrightnessNode hlight
    | threshold _ hw => exact absurd (isThresholdNode_of_write hw) hthreshold
  · intro hprofile hauto p hlight
    apply content_eq_outsideOnly h
    intro w hw hpath
    subst hpath
    cases hw with
    | outside hw => exact hw
    | profile hsome _ => exact absurd hprofile hsome
    | ladder _ hw => exact absurd hlight.subsystem_eq hw.not_backlight
    | brightness htrue _ => rw [hauto] at htrue; cases htrue
    | threshold _ hw =>
      rcases hw.subsystem_mem with hsub | hsub <;>
        · rw [hlight.subsystem_eq] at hsub
          cases hsub
  · intro hlimit p hthreshold
    apply content_eq_outsideOnly h
    intro w hw hpath
    subst hpath
    cases hw with
    | outside hw => exact hw
    | profile _ hw => exact absurd hthreshold.supply hw.not_supply
    | ladder _ hw => exact absurd hthreshold.supply hw.profileWrite.not_supply
    | brightness _ hw =>
      exact absurd hthreshold.supply
        (ProfileWrite.backlight (b := LinuxBackend.withRoot host t) (t := t) hw).not_supply
    | threshold hsome _ => exact absurd hlimit hsome
  · intro hprofile henabled hauto hlimit p
    apply content_eq_outsideOnly h
    intro w hw hpath
    subst hpath
    cases hw with
    | outside hw => exact hw
    | profile hsome _ => exact absurd hprofile hsome
    | ladder htrue _ => rw [henabled] at htrue; cases htrue
    | brightness htrue _ => rw [hauto] at htrue; cases htrue
    | threshold hsome _ => exact absurd hlimit hsome

end WattWarden
