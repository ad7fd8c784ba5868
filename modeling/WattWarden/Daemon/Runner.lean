import WattWarden.Daemon.Ladder

/-!
# The daemon's ticks

`DaemonRunner`: boot settings, the logic tick and the brightness tick, over one tree and under the
configuration read at the tick.

* `enforceChargeLimit` / `applyBrightnessStep` / `applyLogic` / `applyBootSettings` — translated
  from the source;
* `limitCall` — the set call of an enforcement tick;
* `DaemonEvent` / `daemonStep` — one tick, or a change of the outside world between two ticks;
* `enforceSysfs_extends`, `ambient_extends`, `applyBrightnessStep_extends` — **PROVED**: the
  footprint of each.
-/

namespace WattWarden

open Library.FileTree Library.Journaling Library.Floats Library.Numerals

/-- `enforce_charge_limit`: opt-in; nothing is written when the threshold reads as configured. -/
def enforceChargeLimit {σ : Type*} (threshold : ChargeThreshold σ) (config : Config)
    (device : σ) : σ :=
  match config.batteryChargeLimit with
  | none => device
  | some limit =>
      if !threshold.supportsThreshold device then device
      else
        match threshold.chargeThreshold device with
        | .ok cur =>
            if cur = limit then device else (threshold.setChargeThreshold device limit).1
        | .error _ => (threshold.setChargeThreshold device limit).1

/-- The set call of a tick: for the configured limit, unless the threshold reads as configured. -/
def limitCall {σ : Type*} (threshold : ChargeThreshold σ) (config : Config) (device : σ) :
    Option ℕ :=
  config.batteryChargeLimit.filter fun limit => threshold.supportsThreshold device &&
    decide ((threshold.chargeThreshold device).toOption ≠ some limit)

section Call

variable {σ : Type*} {threshold : ChargeThreshold σ} {config : Config} {device : σ} {limit : ℕ}

theorem limitCall_eq_some : limitCall threshold config device = some limit ↔
    config.batteryChargeLimit = some limit ∧ threshold.supportsThreshold device = true ∧
      (threshold.chargeThreshold device).toOption ≠ some limit := by
  rw [limitCall, Option.filter_eq_some_iff, Bool.and_eq_true, decide_eq_true_eq]

theorem limitCall_eq_none (hlimit : config.batteryChargeLimit = some limit) :
    limitCall threshold config device = none ↔ threshold.supportsThreshold device = false ∨
      (threshold.chargeThreshold device).toOption = some limit := by
  have hbranch : limitCall threshold config device = none ↔ ¬(
      (threshold.supportsThreshold device && decide
        ((threshold.chargeThreshold device).toOption ≠ some limit)) = true) := by
    rw [limitCall, hlimit, Option.filter_eq_none_iff]
    exact ⟨fun h => h limit rfl, fun h n hn => Option.some.inj hn ▸ h⟩
  rw [hbranch]
  simp [imp_iff_not_or]

end Call

theorem enforceChargeLimit_eq {σ : Type*} (threshold : ChargeThreshold σ) (config : Config)
    (device : σ) : enforceChargeLimit threshold config device
      = (limitCall threshold config device).elim device
          fun limit => (threshold.setChargeThreshold device limit).1 := by
  rw [enforceChargeLimit, limitCall]
  cases config.batteryChargeLimit with
  | none => rfl
  | some limit =>
    cases hsupports : threshold.supportsThreshold device with
    | false => simp [Option.filter]
    | true =>
      cases hread : threshold.chargeThreshold device with
      | error e => simp [Option.filter, Except.toOption]
      | ok cur =>
        by_cases heq : cur = limit
        · simp [Option.filter, Except.toOption, heq]
        · simp [Option.filter, Except.toOption, heq]

/-- A tick makes at most one request to the device, for the configured limit. -/
theorem enforceChargeLimit_cases {σ : Type*} (threshold : ChargeThreshold σ) (config : Config)
    (device : σ) : enforceChargeLimit threshold config device = device ∨
    ∃ limit, config.batteryChargeLimit = some limit ∧
      enforceChargeLimit threshold config device
        = (threshold.setChargeThreshold device limit).1 := by
  rw [enforceChargeLimit_eq]
  cases hcall : limitCall threshold config device with
  | none => exact .inl rfl
  | some limit => exact .inr ⟨limit, (limitCall_eq_some.mp hcall).1, rfl⟩

/-- The tree, and the brightness the daemon last applied (`-1` for never). -/
structure DaemonState where
  sysfs : SysfsRoot
  lastAppliedBrightness : ℤ

/-- Names in a lower-cased window class that mean a terminal. -/
def terminalNames : List String :=
  ["kitty", "foot", "alacritty", "wezterm", "ghostty", "xterm"]

/-- Names in a lower-cased window class that mean a heavy user interface. -/
def heavyUiNames : List String :=
  ["firefox", "chrome", "chromium", "brave", "zen", "code", "cursor", "idea", "studio"]

/-- The brightness of a window class before the level is taken into account. -/
def baseBrightness (activeClass : String) : ℕ :=
  if activeClass = "" ∨ terminalNames.any (Threshold.contains activeClass) then 12
  else if heavyUiNames.any (Threshold.contains activeClass) then 30
  else 20

def brightnessDelta : AutoExtremeLevel → ℕ
  | .high => 0
  | .medium => 10
  | .low => 20

/-- `apply_brightness_step`, for a lower-cased window class. -/
def applyBrightnessStep (b : LinuxBackend) (config : Config) (activeClass : String)
    (d : DaemonState) : DaemonState × Option ℕ :=
  if !config.autoBrightness then (d, none)
  else
    let target := clamp 1 100 (baseBrightness activeClass + brightnessDelta config.autoExtremeLevel)
    if b.backlight.isSome then
      let current := LinuxBacklight.brightnessPercent b.brightnessctl d.sysfs.tree
      if d.lastAppliedBrightness ≠ (target : ℤ) ∨ current ≠ target then
        (⟨LinuxBacklight.setBrightnessPercent b.brightnessctl d.sysfs target, target⟩, some target)
      else (d, some target)
    else (d, some target)

/-- A brightness step writes: auto-brightness is on, there is a panel, and the target is not both
the last one applied and the brightness read. -/
def BrightnessDue (b : LinuxBackend) (config : Config) (activeClass : String) (d : DaemonState) :
    Prop :=
  let target := clamp 1 100 (baseBrightness activeClass + brightnessDelta config.autoExtremeLevel)
  config.autoBrightness = true ∧ b.backlight.isSome = true ∧
    (d.lastAppliedBrightness ≠ (target : ℤ) ∨
      LinuxBacklight.brightnessPercent b.brightnessctl d.sysfs.tree ≠ target)

/-- `enforce_charge_limit` on the tree. -/
def enforceSysfs (config : Config) (s : SysfsRoot) : SysfsRoot :=
  enforceChargeLimit Threshold.linuxChargeThreshold config s

/-- `apply_logic`: one ladder step, then the charge limit. -/
def applyLogic (F : Type) [FloatLike F] (b : LinuxBackend) (config : Config) (s : SysfsRoot) :
    SysfsRoot :=
  enforceSysfs config (applyLogicStep F b s config).1

/-- `apply_boot_settings`: the configured profile, then the charge limit. -/
def applyBootSettings (b : LinuxBackend) (config : Config) (s : SysfsRoot) : SysfsRoot :=
  let s := match config.profile with
    | some profile => b.applyProfile s profile
    | none => s
  enforceSysfs config s

/-- New contents for ambient nodes; entries that name another node or a missing one are ignored. -/
def ambient (s : SysfsRoot) (changes : List (Path × String)) : SysfsRoot :=
  changes.foldl (fun s e =>
    if IsAmbient e.1 ∧ s.tree.isFile e.1 then s.write .environment e.1 e.2 else s) s

/-- What happens to the tree while the daemon runs. -/
inductive DaemonEvent where
  | bootSettings
  | logic
  | brightness (activeClass : String)
  | outside (changes : List (Path × String))

/-- One event under the configuration on disk. -/
def daemonStep (F : Type) [FloatLike F] (b : LinuxBackend) (config : Config) (d : DaemonState) :
    DaemonEvent → DaemonState
  | .bootSettings => { d with sysfs := applyBootSettings b config d.sysfs }
  | .logic => { d with sysfs := applyLogic F b config d.sysfs }
  | .brightness activeClass => (applyBrightnessStep b config activeClass d).1
  | .outside changes => { d with sysfs := ambient d.sysfs changes }

/-! ### The charge limit and the outside world on the tree -/

open Threshold

/-- Writes that do not create anything where threshold nodes live. -/
def KeepsSupplies (t : Tree) (P : Write Actor → Prop) : Prop :=
  ∀ w, P w → (subsystem w.path = .powerSupply ∨ subsystem w.path = .platformDevice) →
    t.pathExists w.path = true

/-- A write of the outside world, on a machine with the paths of `t`. -/
structure AmbientWrite (t : Tree) (w : Write Actor) : Prop where
  actor_eq : w.actor = .environment
  isAmbient : IsAmbient w.path
  pathExists : subsystem w.path = .powerSupply → t.pathExists w.path = true

section Extends

variable {P : Write Actor → Prop} {s₀ s : SysfsRoot}

theorem sameSupplies_of_extends (hkeep : KeepsSupplies s₀.tree P) (h : Extends P s₀ s) :
    SameSupplies s₀.tree s.tree := by
  intro p hp
  apply h.pathExists_eq_of_exists
  intro w hw hpath
  rw [← hpath]
  exact hkeep w hw (hpath ▸ hp)

theorem enforceSysfs_extends {config : Config}
    (hP : ∀ limit, config.batteryChargeLimit = some limit → ∀ w, ThresholdWrite s₀.tree w → P w)
    (hkeep : KeepsSupplies s₀.tree P) (h : Extends P s₀ s) :
    Extends P s₀ (enforceSysfs config s) := by
  rcases enforceChargeLimit_cases linuxChargeThreshold config s with heq | ⟨limit, hlimit, heq⟩
  · rw [enforceSysfs, heq]
    exact h
  · rw [enforceSysfs, heq]
    exact setChargeThreshold_extends (hP limit hlimit) (sameSupplies_of_extends hkeep h) h limit

theorem ambient_extends (hP : ∀ w, AmbientWrite s₀.tree w → P w) (hkeep : KeepsSupplies s₀.tree P)
    (h : Extends P s₀ s) (changes : List (Path × String)) : Extends P s₀ (ambient s changes) := by
  apply h.foldl
  intro e _ s hs
  split
  · rename_i he
    apply hs.write
    refine hP _ ⟨rfl, he.1, ?_⟩
    intro hsupply
    rw [← sameSupplies_of_extends hkeep hs e.1 (.inl hsupply), Tree.pathExists, he.2, Bool.true_or]
  · exact hs

theorem applyBrightnessStep_extends (hP : ∀ w, BacklightWrite w → P w) {d : DaemonState}
    (h : Extends P s₀ d.sysfs) (b : LinuxBackend) (config : Config) (activeClass : String) :
    Extends P s₀ (applyBrightnessStep b config activeClass d).1.sysfs := by
  rw [applyBrightnessStep]
  split
  · exact h
  · simp only
    split
    · split
      · exact setBrightnessPercent_extends hP h _ _
      · exact h
    · exact h

end Extends

/-- A brightness tick with auto-brightness off does nothing. -/
theorem applyBrightnessStep_off (b : LinuxBackend) {config : Config} (activeClass : String)
    (d : DaemonState) (h : config.autoBrightness = false) :
    applyBrightnessStep b config activeClass d = (d, none) := by
  rw [applyBrightnessStep, h]
  rfl

theorem AmbientWrite.exists_of_supply {t : Tree} {w : Write Actor} (h : AmbientWrite t w)
    (hsupply : subsystem w.path = .powerSupply ∨ subsystem w.path = .platformDevice) :
    t.pathExists w.path = true := by
  rcases hsupply with hsupply | hplatform
  · exact h.pathExists hsupply
  · rcases h.isAmbient with hload | hambient
    · rw [hload] at hplatform
      cases hplatform
    · rw [hambient] at hplatform
      cases hplatform

theorem IsAmbient.not_isHardware {p : Path} (h : IsAmbient p) : ¬IsHardware p := by
  rcases h with hload | hsupply
  · rw [IsHardware, hload]
    decide
  · rw [IsHardware, hsupply]
    decide

theorem AmbientWrite.not_isHardware {t : Tree} {w : Write Actor} (h : AmbientWrite t w) :
    ¬IsHardware w.path := h.isAmbient.not_isHardware

/-- The outside world keeps to its own nodes. -/
theorem content_ambient (s : SysfsRoot) (changes : List (Path × String)) {p : Path}
    (hp : ¬IsAmbient p) : (ambient s changes).tree.content p = s.tree.content p := by
  have h : Extends (AmbientWrite s.tree) s (ambient s changes) :=
    ambient_extends (fun _ hw => hw) (fun _ hw hsupply => hw.exists_of_supply hsupply)
      (Extends.refl _ _) changes
  exact h.content_eq fun w hw heq => hp (heq ▸ hw.isAmbient)

theorem thresholdWrite_not_isHardware {t : Tree} {w : Write Actor} (h : ThresholdWrite t w) :
    ¬IsHardware w.path := by
  rcases h.subsystem_mem with hsub | hsub
  · rw [IsHardware, hsub]
    decide
  · rw [IsHardware, hsub]
    decide

end WattWarden
