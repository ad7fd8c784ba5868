import WattWarden.Daemon.Runner

/-!
# What one enforcement tick puts in force

`enforce_charge_limit` decides whether to write by looking at the first readable end threshold, and
writes every node with its charging mode.  On regular files the two meet exactly as follows.

* `enforceSysfs_allInForce_iff` — **PROVED**: after a tick the configured ceiling is in force on
  every battery if and only if the first readable end threshold was elsewhere, or the ceiling was
  in force everywhere already;
* `enforceSysfs_misses_second_battery` — a second battery left at 60 under a limit of 80;
* `enforceSysfs_misses_mode` — a battery at the configured value whose mode stays `Adaptive`.
-/

namespace WattWarden

open Library.FileTree Library.Journaling Library.Numerals Threshold

/-- The ceiling `n` is in force on every battery of the tree. -/
def AllInForce (n : ℕ) (t : Tree) : Prop := ∀ node ∈ discover t, InForce n t node

instance (n : ℕ) (t : Tree) (node : ThresholdNode) : Decidable (InForce n t node) :=
  decidable_of_iff (SysfsRoot.readU64 t node.endPath = some n ∧
      ∀ types ∈ node.types.toList, CustomSelected t types)
    ⟨fun h => ⟨h.1, fun types ht => h.2 types (Option.mem_toList.mpr ht)⟩,
      fun h => ⟨h.end_eq, fun types ht => h.custom types (Option.mem_toList.mp ht)⟩⟩

instance (n : ℕ) (t : Tree) : Decidable (AllInForce n t) :=
  inferInstanceAs (Decidable (∀ _ ∈ _, _))

/-- The first end threshold that reads. -/
def firstEnd (t : Tree) : Option ℕ :=
  (discover t).findSome? fun node => SysfsRoot.readU64 t node.endPath

/-- `charge_threshold` is the first readable end threshold inside `1..=100`. -/
theorem chargeThreshold_toOption (s : SysfsRoot) :
    (chargeThreshold s).toOption = (firstEnd s.tree).map (clamp 1 100) := by
  have hread : (fun node : ThresholdNode => (readSysfsU64 s node.endPath).toOption)
      = fun node => SysfsRoot.readU64 s.tree node.endPath := by
    funext node
    exact readSysfsU64_toOption s node.endPath
  have hnodes : ThresholdHost.nodes s = discover s.tree := rfl
  rw [toOption_chargeThreshold, hread, hnodes, firstEnd]

/-- A tick either finds the configured value in place and returns, or makes a set call. -/
theorem enforceSysfs_cases (s : SysfsRoot) {config : Config} {n : ℕ}
    (hlimit : config.batteryChargeLimit = some n) :
    (discover s.tree = [] ∧ enforceSysfs config s = s) ∨
    ((chargeThreshold s).toOption = some n ∧ enforceSysfs config s = s) ∨
    ((chargeThreshold s).toOption ≠ some n ∧
      enforceSysfs config s = (setChargeThreshold s n).1) := by
  rw [enforceSysfs, enforceChargeLimit_eq]
  cases hcall : limitCall linuxChargeThreshold config s with
  | none =>
    rcases (limitCall_eq_none hlimit).mp hcall with hnone | hcur
    · exact .inl ⟨(supportsThreshold_eq_false s).mp hnone, rfl⟩
    · exact .inr (.inl ⟨hcur, rfl⟩)
  | some m =>
    obtain ⟨hm, -, hcur⟩ := limitCall_eq_some.mp hcall
    obtain rfl : n = m := Option.some.inj (hlimit.symm.trans hm)
    exact .inr (.inr ⟨hcur, rfl⟩)

/-- **Enforcement, exactly.**  On regular files, a tick leaves the configured ceiling in force on
every battery if and only if the first readable end threshold was not already there, or the
ceiling was in force on every battery before. -/
theorem enforceSysfs_allInForce_iff (s : SysfsRoot) (hreg : AllRegular s.tree) (config : Config)
    (n : ℕ) (hlimit : config.batteryChargeLimit = some n) (hlow : 55 ≤ n) (hhigh : n ≤ 100) :
    AllInForce n (enforceSysfs config s).tree ↔
      ((firstEnd s.tree).map (clamp 1 100) ≠ some n ∨ AllInForce n s.tree) := by
  have hclamp : clamp 20 100 n = n := clamp_eq_self (by omega) hhigh
  rcases enforceSysfs_cases s hlimit with ⟨hnone, heq⟩ | ⟨hcur, heq⟩ | ⟨hcur, heq⟩
  · have hall : AllInForce n s.tree := by
      intro node hnode
      rw [hnone] at hnode
      cases hnode
    rw [heq]
    exact iff_of_true hall (.inr hall)
  · rw [chargeThreshold_toOption] at hcur
    rw [heq]
    constructor
    · exact .inr
    · intro h
      rcases h with hne | hall
      · exact absurd hcur hne
      · exact hall
  · rw [chargeThreshold_toOption] at hcur
    have hforce := (setChargeThreshold_inForce hreg n).1
    rw [hclamp] at hforce
    rw [heq]
    apply iff_of_true
    · intro node hnode
      rw [discover_congr (sameSupplies_setChargeThreshold s hreg n)] at hnode
      exact hforce node hnode
    · exact .inl hcur

/-- A laptop with two batteries, one of them with a charging-mode selector. -/
def twoBatteries (end₀ end₁ mode₁ : String) : Tree := .ofFiles
  [(supplyNode "BAT0" "charge_control_end_threshold", end₀),
    (supplyNode "BAT1" "charge_control_end_threshold", end₁),
    (supplyNode "BAT1" "charge_control_start_threshold", "50\n"),
    (supplyNode "BAT1" "charge_types", mode₁)]

def limitedTo (n : ℕ) : Config := { Config.default with batteryChargeLimit := some n }

theorem enforceSysfs_twoBatteries :
    AllInForce 80 (enforceSysfs (limitedTo 80)
      (.start (twoBatteries "100\n" "60\n" "[Standard] Custom\n"))).tree :=
  (enforceSysfs_allInForce_iff (.start (twoBatteries "100\n" "60\n" "[Standard] Custom\n"))
    (by decide +kernel) (limitedTo 80) 80 rfl (by decide) (by decide)).mpr
    (.inl (by decide +kernel))

/-- The first battery already reads 80, so the second stays at 60. -/
theorem enforceSysfs_misses_second_battery :
    AllRegular (twoBatteries "80\n" "60\n" "[Custom] Standard\n") ∧
    ¬AllInForce 80 (enforceSysfs (limitedTo 80)
      (.start (twoBatteries "80\n" "60\n" "[Custom] Standard\n"))).tree := by
  decide +kernel

/-- Both batteries read 80, so the mode of the second stays `Adaptive`. -/
theorem enforceSysfs_misses_mode :
    AllRegular (twoBatteries "80\n" "80\n" "[Adaptive] Custom\n") ∧
    ¬AllInForce 80 (enforceSysfs (limitedTo 80)
      (.start (twoBatteries "80\n" "80\n" "[Adaptive] Custom\n"))).tree := by
  decide +kernel

end WattWarden
