import Mathlib.Algebra.Order.Floor.Ring
import Mathlib.Tactic

/-!
# Rounding towards zero

* `truncated` — a number without the part behind its point;
* `floor_of_near` — **PROVED**: a small error changes the whole part of a fraction only where the
  fraction is a whole number.
-/

namespace Library.Truncation

variable {K : Type*} [Field K] [LinearOrder K] [FloorRing K]

/-- Rounding towards zero. -/
def truncated (x : K) : ℤ := if 0 ≤ x then ⌊x⌋ else ⌈x⌉

theorem truncated_of_nonneg {x : K} (h : 0 ≤ x) : truncated x = ⌊x⌋ := if_pos h

variable [IsStrictOrderedRing K]

theorem truncated_of_nonpos {x : K} (h : x ≤ 0) : truncated x = ⌈x⌉ := by
  rw [truncated]
  split
  · have hzero : x = 0 := le_antisymm h ‹_›
    rw [hzero, Int.floor_zero, Int.ceil_zero]
  · rfl

/-- **Nearer to a fraction than its unit**, a number has the same whole part, unless the fraction is a
whole number and the number below it. -/
theorem floor_of_near {a p : ℤ} {x : K} (hp : 0 < p) (h : |x - a / p| < 1 / p) :
    ⌊x⌋ = a / p ∨ p ∣ a ∧ ⌊x⌋ = a / p - 1 := by
  have hp' : (0 : K) < p := by exact_mod_cast hp
  obtain ⟨hlow, hhigh⟩ := abs_lt.mp h
  have hscaled : (a : K) / p * p = a := div_mul_cancel₀ _ hp'.ne'
  have hunit : (1 : K) / p * p = 1 := div_mul_cancel₀ _ hp'.ne'
  have habove : (a : K) - 1 < x * p := by nlinarith
  have hbelow : x * p < a + 1 := by nlinarith
  have hdiv : (a : K) = p * (a / p : ℤ) + (a % p : ℤ) := by
    exact_mod_cast (Int.mul_ediv_add_emod a p).symm
  have hrest := Int.emod_lt_of_pos a hp
  have hrest' : ((a % p : ℤ) : K) + 1 ≤ p := by exact_mod_cast hrest
  have hupper : x < (a / p : ℤ) + 1 := by
    by_contra hge
    have hmul := mul_le_mul_of_nonneg_right (not_lt.mp hge) hp'.le
    linarith
  by_cases hdvd : p ∣ a
  · have hlower : ((a / p - 1 : ℤ) : K) ≤ x := by
      by_contra hlt
      have hmul := mul_lt_mul_of_pos_right (not_le.mp hlt) hp'
      have hone : (1 : K) ≤ p := by exact_mod_cast hp
      rw [Int.emod_eq_zero_of_dvd hdvd, Int.cast_zero] at hdiv
      push_cast at hmul
      linarith
    have hfloor : a / p - 1 ≤ ⌊x⌋ := Int.le_floor.mpr hlower
    have hfloor' : ⌊x⌋ < a / p + 1 := Int.floor_lt.mpr (by exact_mod_cast hupper)
    rcases (show ⌊x⌋ = a / p ∨ ⌊x⌋ = a / p - 1 by omega) with heq | heq
    · exact .inl heq
    · exact .inr ⟨hdvd, heq⟩
  · left
    have hpos : (1 : K) ≤ (a % p : ℤ) := by
      have hne : a % p ≠ 0 := fun h => hdvd (Int.dvd_of_emod_eq_zero h)
      have hnonneg := Int.emod_nonneg a hp.ne'
      exact_mod_cast (show 1 ≤ a % p by omega)
    rw [Int.floor_eq_iff]
    refine ⟨?_, hupper⟩
    by_contra hlt
    have hmul := mul_lt_mul_of_pos_right (not_le.mp hlt) hp'
    linarith

end Library.Truncation
