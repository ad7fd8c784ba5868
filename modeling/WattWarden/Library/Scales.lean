import WattWarden.Library.Numerals
import Mathlib.Algebra.Order.Ring.Int

/-!
# Truncating conversions between scales

A value goes to another scale by a division that truncates, and back by a multiplication, or the
other way round.  What comes back is never more than what went in; this file says when it is the
same.

* `percentOf` / `stepOf` — a step of `max` as a percentage in eight bits, and a percentage as a
  step; both products are 64-bit ones;
* `percentOf_eq_iff`, `percentOf_le_iff` — the steps that read as a percentage;
* `percentOf_stepOf_iff` — **PROVED**: a percentage reads back from its step exactly when nothing is
  cut off;
* `coarse` — a value in a unit `k` times as big, in a type with `width` values;
  `le_coarse_mul_iff` — **PROVED**: it reaches back to the value exactly when nothing is cut off.
-/

namespace Library.Scales

open Library.Numerals

/-! ### Truncating division -/

section Tdiv

variable {x m q : ℤ}

theorem tdiv_lt_iff (hm : 0 < m) (hq : 0 < q) : x.tdiv m < q ↔ x < q * m := by
  rcases lt_or_ge x 0 with hx | hx
  · -- a negative value has no positive quotient
    have hquot : x.tdiv m ≤ 0 := by
      have hmono := Int.tdiv_le_tdiv hm (le_of_lt hx)
      rwa [Int.zero_tdiv] at hmono
    have hprod : 0 < q * m := Int.mul_pos hq hm
    exact iff_of_true (by omega) (by omega)
  · rw [Int.tdiv_eq_ediv_of_nonneg hx, Int.ediv_lt_iff_lt_mul hm]

theorem tdiv_eq_iff (hm : 0 < m) (hq : 0 < q) :
    x.tdiv m = q ↔ q * m ≤ x ∧ x < (q + 1) * m := by
  have hlo := tdiv_lt_iff (x := x) hm hq
  have hhi := tdiv_lt_iff (x := x) hm (q := q + 1) (by omega)
  omega

end Tdiv

/-! ### Percentages -/

/-- The percentage that `cur` steps of `max` amount to. -/
def percentOf (max cur : ℤ) : ℕ := (clamp 0 255 ((wrapI64 (cur * 100)).tdiv max)).toNat

/-- The step that a percentage of `max` amounts to. -/
def stepOf (max : ℤ) (percent : ℕ) : ℤ := (wrapI64 (percent * max)).tdiv 100

section Percent

variable {max cur : ℤ} {p : ℕ}

theorem percentOf_le_iff (hmax : 0 < max) (hp : p < 255) :
    percentOf max cur ≤ p ↔ wrapI64 (cur * 100) < (p + 1) * max := by
  rw [← tdiv_lt_iff hmax (by omega), percentOf, clamp]
  split
  · omega
  · split <;> omega

theorem percentOf_eq_iff (hmax : 0 < max) (hp : 0 < p) (hp' : p < 255) :
    percentOf max cur = p ↔
      p * max ≤ wrapI64 (cur * 100) ∧ wrapI64 (cur * 100) < (p + 1) * max := by
  rw [← tdiv_eq_iff hmax (by omega), percentOf, clamp]
  split
  · omega
  · split <;> omega

/-- Hundredths of a 64-bit number, made whole again. -/
theorem tdiv_mul_bounds (x : ℤ) : (0 ≤ x → 0 ≤ x.tdiv 100 * 100 ∧ x.tdiv 100 * 100 ≤ x) ∧
    (x < 0 → x ≤ x.tdiv 100 * 100 ∧ x.tdiv 100 * 100 ≤ 0) := by
  constructor
  · intro hx
    rw [Int.tdiv_eq_ediv_of_nonneg hx]
    omega
  · intro hx
    have hneg : x.tdiv 100 = -((-x) / 100) := by
      rw [← Int.tdiv_eq_ediv_of_nonneg (by omega), Int.neg_tdiv, Int.neg_neg]
    rw [hneg]
    omega

theorem stepOf_bounds (max : ℤ) (p : ℕ) :
    -2 ^ 63 ≤ stepOf max p * 100 ∧ stepOf max p * 100 < 2 ^ 63 := by
  have hwrap := wrapI64_bounds (p * max)
  have hwhole := tdiv_mul_bounds (wrapI64 (p * max))
  rw [stepOf]
  rcases lt_or_ge (wrapI64 (p * max)) 0 with hneg | hpos
  · have := hwhole.2 hneg
    omega
  · have := hwhole.1 hpos
    omega

/-- Inside 64 bits the step is the truncated quotient. -/
theorem stepOf_eq (hmax : 0 ≤ max) (hfits : p * max < 2 ^ 63) : stepOf max p = p * max / 100 := by
  have hpos : 0 ≤ (p : ℤ) * max := Int.mul_nonneg (by omega) hmax
  rw [stepOf, wrapI64_eq_self (by omega) hfits, Int.tdiv_eq_ediv_of_nonneg hpos]

/-- **Between none and all.**  A percentage is a step of the range, and the first one at least when
the product comes to a hundred. -/
theorem stepOf_range (hmax : 0 < max) (hmax' : max ≤ (2 ^ 63 - 1) / 100) (hp : p ≤ 100) :
    0 ≤ stepOf max p ∧ stepOf max p ≤ max ∧ (1 ≤ stepOf max p ↔ 100 ≤ p * max) := by
  have hpos : 0 ≤ (p : ℤ) * max := Int.mul_nonneg (by omega) (le_of_lt hmax)
  have hprod : (p : ℤ) * max ≤ 100 * max :=
    Int.mul_le_mul_of_nonneg_right (by omega) (le_of_lt hmax)
  rw [stepOf_eq (le_of_lt hmax) (by omega)]
  omega

/-- **When a percentage reads back.**  The product fits, and a hundredth of it is whole. -/
theorem percentOf_stepOf_iff (hmax : 0 < max) (hp : 0 < p) (hp' : p < 255) :
    percentOf max (stepOf max p) = p ↔ p * max < 2 ^ 63 ∧ 100 ∣ p * max := by
  have hprod : 0 < (p : ℤ) * max := Int.mul_pos (by omega) hmax
  have hnext : ((p : ℤ) + 1) * max = p * max + max := by rw [Int.add_mul, Int.one_mul]
  have hbounds := stepOf_bounds max p
  have hwrap := wrapI64_bounds (p * max)
  have hwhole := tdiv_mul_bounds (wrapI64 (p * max))
  rw [percentOf_eq_iff hmax hp hp', wrapI64_eq_self hbounds.1 hbounds.2, hnext]
  constructor
  · intro h
    have hfits : (p : ℤ) * max < 2 ^ 63 := by
      rw [stepOf] at h
      omega
    rw [stepOf_eq (le_of_lt hmax) hfits] at h
    exact ⟨hfits, by omega⟩
  · intro hgiven
    obtain ⟨hfits, hdvd⟩ := hgiven
    rw [stepOf_eq (le_of_lt hmax) hfits, Int.ediv_mul_cancel hdvd]
    omega

end Percent

/-! ### Coarser units -/

/-- A value in a unit `k` times as big, cast to a type with `width` values. -/
def coarse (k width x : ℕ) : ℕ := x / k % width

/-- **When a coarse value reaches back.**  It never goes beyond the value, so it has to be exact. -/
theorem le_coarse_mul_iff {k width x : ℕ} (hk : 0 < k) (hw : 0 < width) :
    x ≤ coarse k width x * k ↔ k ∣ x ∧ x / k < width := by
  have hmod : x / k % width ≤ x / k := Nat.mod_le _ _
  have hwhole : x / k * k ≤ x := Nat.div_mul_le_self x k
  rw [coarse]
  constructor
  · intro h
    have hle : x / k % width * k ≤ x / k * k := Nat.mul_le_mul_right k hmod
    have hexact : x / k * k = x := le_antisymm hwhole (le_trans h hle)
    have hsame : x / k % width * k = x / k * k := le_antisymm hle (le_trans hwhole h)
    have hquot : x / k % width = x / k := Nat.eq_of_mul_eq_mul_right hk hsame
    refine ⟨⟨x / k, ?_⟩, ?_⟩
    · rw [Nat.mul_comm, hexact]
    · rw [← hquot]
      exact Nat.mod_lt _ hw
  · intro hgiven
    obtain ⟨hdvd, hlt⟩ := hgiven
    rw [Nat.mod_eq_of_lt hlt, Nat.div_mul_cancel hdvd]

end Library.Scales
