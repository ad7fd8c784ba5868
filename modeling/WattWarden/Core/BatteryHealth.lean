import WattWarden.Library.FloatLike

/-!
# Battery ageing telemetry

`BatteryHealth`, the snapshot both platforms fill in, and the percentage computed from it.  A metric
the hardware does not expose is `none`.
-/

namespace WattWarden

open Library.Floats

/-- Unit of the full and design capacity. -/
inductive HealthUnit where
  | chargeUah
  | energyUwh
  deriving DecidableEq, Repr

/-- Snapshot of the battery's ageing state, its temperature a number of type `F`. -/
structure BatteryHealth (F : Type) where
  present : Bool
  full : Option ℕ
  design : Option ℕ
  unit : Option HealthUnit
  cycleCount : Option ℕ
  tempC : Option F
  model : Option String
  manufacturer : Option String
  serial : Option String
  deriving DecidableEq, Repr

/-- `BatteryHealth::default`, with the presence flag. -/
def BatteryHealth.empty {F : Type} (present : Bool) : BatteryHealth F where
  present := present
  full := none
  design := none
  unit := none
  cycleCount := none
  tempC := none
  model := none
  manufacturer := none
  serial := none

/-- `health_pct`: one decimal, `none` when a side is missing or the design value is 0. -/
def BatteryHealth.healthPct {G : Type} (F : Type) [FloatLike F] (health : BatteryHealth G) :
    Option F :=
  match health.full, health.design with
  | some f, some d =>
      if 0 < d then some (FloatLike.round ((f : F) * 1000.0 / (d : F)) / 10.0) else none
  | _, _ => none

/-- The percentage needs both sides and a design capacity other than 0. -/
theorem BatteryHealth.isSome_healthPct_iff {G : Type} (F : Type) [FloatLike F]
    (health : BatteryHealth G) :
    (health.healthPct F).isSome ↔
      health.full.isSome ∧ ∃ d, health.design = some d ∧ d ≠ 0 := by
  rw [healthPct]
  cases health.full with
  | none => simp
  | some f =>
    cases health.design with
    | none => simp
    | some d =>
      by_cases hd : 0 < d
      · simp [hd, Nat.ne_of_gt hd]
      · simp [Nat.eq_zero_of_not_pos hd]

end WattWarden
