import WattWarden.Core.Error

/-!
# The two traits calibration is written against

`ChargeThreshold` and `PowerSource` as records of operations over a device state, and the law a
well-behaved charge threshold satisfies.
-/

namespace WattWarden

/-- `trait ChargeThreshold`. -/
structure ChargeThreshold (σ : Type*) where
  supportsThreshold : σ → Bool
  chargeThreshold : σ → Except WattWardenError ℕ
  setChargeThreshold : σ → ℕ → σ × Except WattWardenError Unit

/-- `trait PowerSource`, the two readings calibration takes. -/
structure PowerSource (σ : Type*) where
  batteryPercentage : σ → Except WattWardenError ℕ
  isCharging : σ → Except WattWardenError Bool

/-- A threshold that, in the states `I`, stores every write it accepts and reads it back, and that
a rejected write leaves alone.  A request above 100 counts as 100, and there may be a floor: the
Linux backend clamps to `20..=100` before the hardware is reached. -/
structure StoresAccepted {σ : Type*} (threshold : ChargeThreshold σ) (I : σ → Prop) : Prop where
  kept : ∀ s n, I s → I (threshold.setChargeThreshold s n).1
  accepted : ∀ s n, I s → (threshold.setChargeThreshold s n).2 = .ok () →
    ∃ floor ≤ 20, threshold.chargeThreshold (threshold.setChargeThreshold s n).1
      = .ok (Library.Numerals.clamp floor 100 n)
  rejected : ∀ s n e, I s → (threshold.setChargeThreshold s n).2 = .error e →
    threshold.chargeThreshold (threshold.setChargeThreshold s n).1 = threshold.chargeThreshold s

end WattWarden
