import Mathlib.Data.Int.Log
import Mathlib.Tactic
import WattWarden.Library.Rounding

/-!
# Rounding to double precision

The binary floating-point format with 53 significant bits: a number is rounded to the nearest
multiple of a power of two, the unit of its size, halfway cases to the even multiple.  There is no
largest number here.

* `exponent` / `unit` — the spacing of the doubles around a number;
* `nearest` — the double nearest to a number;
* `nearest_mono`, `nearest_nearest`, `binary64` — **PROVED**: this is a rounding;
* `nearest_eq_self` — **PROVED**: what it keeps; integers up to 2⁵³ among it;
* `abs_sub_nearest_le`, `abs_sub_nearest_le_mul` — **PROVED**: how far it goes;
* `floor_nearest_iff` — **PROVED**: when it does not change the whole part;
* `Near` / `near_nearest`, `Near.div`, `Near.abs_sub_le` — **PROVED**: several roundings in a row.
-/

namespace Library.Binary64

open Library.Floats

/-- The unit is at least 2⁻¹⁰⁷⁴. -/
def exponent (q : ℚ) : ℤ := max (Int.log 2 q - 52) (-1074)

/-- The spacing of the doubles around a positive number. -/
def unit (q : ℚ) : ℚ := 2 ^ exponent q

/-- The nearest double to a number that is not negative. -/
def nearestAbove (q : ℚ) : ℚ := roundHalfEven (q / unit q) * unit q

/-- The double nearest to a number. -/
def nearest (q : ℚ) : ℚ := if 0 ≤ q then nearestAbove q else -nearestAbove (-q)

/-! ### The unit -/

section Unit

variable {p q : ℚ}

theorem unit_pos (q : ℚ) : 0 < unit q := zpow_pos two_pos _

theorem exponent_ge (q : ℚ) : -1074 ≤ exponent q := le_max_right _ _

theorem exponent_mono (hp : 0 < p) (h : p ≤ q) : exponent p ≤ exponent q :=
  max_le_max_right _ (sub_le_sub_right (Int.log_mono_right hp h) 52)

/-- At most 2⁵³ units make a number. -/
theorem lt_unit (q : ℚ) : q < 2 ^ (exponent q + 53) := by
  have hlog : q < ((2 : ℕ) : ℚ) ^ (Int.log 2 q + 1) := Int.lt_zpow_succ_log_self one_lt_two q
  have hle : Int.log 2 q + 1 ≤ exponent q + 53 := by
    have hmax := le_max_left (Int.log 2 q - 52) (-1074)
    rw [exponent]
    omega
  rw [Nat.cast_ofNat] at hlog
  exact hlog.trans_le (zpow_le_zpow_right₀ one_le_two hle)

/-- Above the least unit a number has at least 2⁵² units. -/
theorem le_of_exponent (hq : 0 < q) (h : -1074 < exponent q) : 2 ^ (exponent q + 52) ≤ q := by
  have hlog : ((2 : ℕ) : ℚ) ^ Int.log 2 q ≤ q := Int.zpow_log_le_self one_lt_two hq
  have heq : exponent q + 52 = Int.log 2 q := by
    rw [exponent] at h ⊢
    omega
  rw [heq]
  exact_mod_cast hlog

/-- Numbers below a power of two have small units. -/
theorem exponent_le {k : ℤ} (hk : -1022 ≤ k) (hq : 0 < q) (h : q < 2 ^ (k + 1)) :
    exponent q ≤ k - 52 := by
  have hlog : Int.log 2 q < k + 1 := by
    rw [← Int.lt_zpow_iff_log_lt one_lt_two hq]
    exact_mod_cast h
  rw [exponent]
  omega

/-- A power of two is a multiple of a smaller one. -/
theorem two_zpow_eq {e f : ℤ} (h : e ≤ f) :
    (2 : ℚ) ^ f = ((2 ^ (f - e).toNat : ℤ) : ℚ) * 2 ^ e := by
  have hsub : (f - e).toNat + e = f := by omega
  push_cast
  rw [← zpow_natCast, ← zpow_add₀ two_ne_zero, hsub]

end Unit

/-! ### Rounding is monotone -/

section Monotone

variable {p q : ℚ}

@[simp] theorem nearestAbove_zero : nearestAbove 0 = 0 := by
  have hround : roundHalfEven 0 = 0 := by exact_mod_cast roundHalfEven_intCast 0
  rw [nearestAbove, zero_div, hround, Int.cast_zero, zero_mul]

/-- A multiple of the unit is not passed. -/
theorem le_nearestAbove {n : ℤ} (h : n * unit q ≤ q) : n * unit q ≤ nearestAbove q := by
  have hle : n ≤ roundHalfEven (q / unit q) := by
    rw [← roundHalfEven_intCast n]
    exact roundHalfEven_mono ((le_div_iff₀ (unit_pos q)).mpr h)
  rw [nearestAbove]
  exact mul_le_mul_of_nonneg_right (by exact_mod_cast hle) (unit_pos q).le

theorem nearestAbove_le {n : ℤ} (h : q ≤ n * unit q) : nearestAbove q ≤ n * unit q := by
  have hle : roundHalfEven (q / unit q) ≤ n := by
    rw [← roundHalfEven_intCast n]
    exact roundHalfEven_mono ((div_le_iff₀ (unit_pos q)).mpr h)
  rw [nearestAbove]
  exact mul_le_mul_of_nonneg_right (by exact_mod_cast hle) (unit_pos q).le

theorem nearestAbove_nonneg (h : 0 ≤ q) : 0 ≤ nearestAbove q := by
  have hle := le_nearestAbove (q := q) (n := 0) (by simpa using h)
  simpa using hle

/-- Between numbers of different sizes there is a power of two, which is kept. -/
theorem nearestAbove_mono (hp : 0 ≤ p) (h : p ≤ q) : nearestAbove p ≤ nearestAbove q := by
  rcases hp.eq_or_lt with rfl | hpos
  · rw [nearestAbove_zero]
    exact nearestAbove_nonneg h
  rcases (exponent_mono hpos h).eq_or_lt with hsame | hlt
  · have hunit : unit p = unit q := by rw [unit, hsame, unit]
    have hround : roundHalfEven (p / unit q) ≤ roundHalfEven (q / unit q) :=
      roundHalfEven_mono (div_le_div_of_nonneg_right h (unit_pos q).le)
    rw [nearestAbove, nearestAbove, hunit]
    exact mul_le_mul_of_nonneg_right (by exact_mod_cast hround) (unit_pos q).le
  · have hbig := le_of_exponent (hpos.trans_le h) ((exponent_ge p).trans_lt hlt)
    have hsmall : p ≤ 2 ^ (exponent q + 52) :=
      (lt_unit p).le.trans (zpow_le_zpow_right₀ one_le_two (by omega))
    calc nearestAbove p
      _ ≤ 2 ^ (exponent q + 52) := by
        rw [two_zpow_eq (show exponent p ≤ exponent q + 52 by omega)] at hsmall ⊢
        exact nearestAbove_le hsmall
      _ ≤ nearestAbove q := by
        rw [two_zpow_eq (show exponent q ≤ exponent q + 52 by omega)] at hbig ⊢
        exact le_nearestAbove hbig

theorem nearest_of_nonneg (h : 0 ≤ q) : nearest q = nearestAbove q := if_pos h

theorem nearest_neg (q : ℚ) : nearest (-q) = -nearest q := by
  rcases lt_trichotomy q 0 with hq | rfl | hq
  · rw [nearest, if_pos (by linarith), nearest, if_neg (by linarith), neg_neg]
  · simp [nearest]
  · rw [nearest, if_neg (by linarith), neg_neg, nearest, if_pos hq.le]

theorem nearest_nonneg (h : 0 ≤ q) : 0 ≤ nearest q := by
  rw [nearest_of_nonneg h]
  exact nearestAbove_nonneg h

theorem nearest_mono : Monotone nearest := by
  intro p q h
  by_cases hp : 0 ≤ p
  · rw [nearest_of_nonneg hp, nearest_of_nonneg (hp.trans h)]
    exact nearestAbove_mono hp h
  · by_cases hq : 0 ≤ q
    · have hneg : nearest p = -nearestAbove (-p) := if_neg hp
      have hp' := nearestAbove_nonneg (q := -p) (by linarith)
      have hq' := nearest_nonneg hq
      linarith
    · rw [nearest, if_neg hp, nearest, if_neg hq]
      exact neg_le_neg (nearestAbove_mono (by linarith) (by linarith))

end Monotone

/-! ### What is kept -/

section Kept

variable {q : ℚ}

/-- A multiple of the unit is kept. -/
theorem nearestAbove_eq_self {m e : ℤ} (h : q = m * 2 ^ e) (he : exponent q ≤ e) :
    nearestAbove q = q := by
  have hmultiple : q / unit q = ((m * 2 ^ (e - exponent q).toNat : ℤ) : ℚ) := by
    rw [div_eq_iff (unit_pos q).ne', Int.cast_mul, mul_assoc, unit, ← two_zpow_eq he, ← h]
  rw [nearestAbove, hmultiple, roundHalfEven_intCast, ← hmultiple, div_mul_cancel₀ _ (unit_pos q).ne']

/-- **A number of 53 bits is kept.** -/
theorem nearest_eq_self {m e : ℤ} (hm : |m| ≤ 2 ^ 53) (he : -1074 ≤ e) (h : q = m * 2 ^ e) :
    nearest q = q := by
  wlog hq : 0 ≤ q generalizing q m with H
  · have hneg := H (q := -q) (m := -m) (by rwa [abs_neg]) (by rw [h]; push_cast; ring) (by linarith)
    rw [nearest_neg] at hneg
    exact neg_inj.mp hneg
  rw [nearest_of_nonneg hq]
  rcases hq.eq_or_lt with rfl | hpos
  · exact nearestAbove_zero
  rw [abs_le] at hm
  rcases hm.2.lt_or_eq with hlt | htop
  · apply nearestAbove_eq_self h
    have hbound : q < 2 ^ (e + 53) := by
      rw [h, zpow_add₀ two_ne_zero, mul_comm]
      exact mul_lt_mul_of_pos_left (by exact_mod_cast hlt) (zpow_pos two_pos _)
    have hle := exponent_le (k := e + 52) (by omega) hpos (by rw [add_assoc]; exact hbound)
    omega
  · have htop' : q = ((2 ^ 52 : ℤ) : ℚ) * 2 ^ (e + 1) := by
      rw [h, htop, zpow_add₀ two_ne_zero]
      push_cast
      ring
    apply nearestAbove_eq_self htop'
    have hbound : q < 2 ^ (e + 54) := by
      rw [h, htop, zpow_add₀ two_ne_zero, mul_comm]
      exact mul_lt_mul_of_pos_left (by norm_num) (zpow_pos two_pos _)
    have hle := exponent_le (k := e + 53) (by omega) hpos (by rw [add_assoc]; exact hbound)
    omega

theorem nearest_intCast {n : ℤ} (h : |n| ≤ 2 ^ 53) : nearest n = n :=
  nearest_eq_self (e := 0) h (by decide) (by simp)

theorem nearest_natCast {n : ℕ} (h : n ≤ 2 ^ 53) : nearest n = n := by
  have hkept := nearest_intCast (n := n) (by rw [Nat.abs_cast]; exact_mod_cast h)
  exact_mod_cast hkept

theorem nearest_two_pow (k : ℕ) : nearest (2 ^ k) = 2 ^ k :=
  nearest_eq_self (m := 1) (e := k) (by decide) (by omega) (by simp)

/-- **What was rounded is kept.** -/
theorem nearest_nearest (q : ℚ) : nearest (nearest q) = nearest q := by
  wlog hq : 0 ≤ q generalizing q with H
  · have hneg := H (-q) (by linarith)
    rw [nearest_neg, nearest_neg] at hneg
    exact neg_inj.mp hneg
  rw [nearest_of_nonneg hq]
  have hnonneg := nearestAbove_nonneg hq
  have htop : nearestAbove q ≤ ((2 ^ 53 : ℤ) : ℚ) * unit q := by
    have hle := (lt_unit q).le
    rw [zpow_add₀ two_ne_zero, mul_comm] at hle
    exact nearestAbove_le (by exact_mod_cast hle)
  have hround : 0 ≤ roundHalfEven (q / unit q) ∧ roundHalfEven (q / unit q) ≤ 2 ^ 53 := by
    rw [nearestAbove] at hnonneg htop
    constructor
    · exact_mod_cast nonneg_of_mul_nonneg_left hnonneg (unit_pos q)
    · exact_mod_cast le_of_mul_le_mul_right htop (unit_pos q)
  exact nearest_eq_self (abs_le.mpr ⟨by omega, hround.2⟩) (exponent_ge q) rfl

/-- **Double precision is a rounding.** -/
def binary64 : Rounding where
  rnd := nearest
  mono := nearest_mono
  idem := nearest_nearest
  zero := by simp [nearest]
  one := by simpa using nearest_natCast (n := 1) (by norm_num)

end Kept

/-! ### How far it goes -/

section Errors

variable {q : ℚ}

theorem abs_sub_nearest_le_unit (h : 0 ≤ q) : |q - nearest q| ≤ unit q / 2 := by
  have hround := abs_sub_roundHalfEven_le (q / unit q)
  have hscaled : q - nearest q = (q / unit q - roundHalfEven (q / unit q)) * unit q := by
    rw [nearest_of_nonneg h, nearestAbove, sub_mul, div_mul_cancel₀ _ (unit_pos q).ne']
  rw [hscaled, abs_mul, abs_of_pos (unit_pos q)]
  have hmul := mul_le_mul_of_nonneg_right hround (unit_pos q).le
  linarith

/-- **Below a power of two.** -/
theorem abs_sub_nearest_le {k : ℤ} (hk : -1022 ≤ k) (h : 0 ≤ q) (hlt : q < 2 ^ (k + 1)) :
    |q - nearest q| ≤ 2 ^ (k - 53) := by
  rcases h.eq_or_lt with rfl | hpos
  · rw [nearest_of_nonneg le_rfl, nearestAbove_zero, sub_self, abs_zero]
    exact (zpow_pos two_pos _).le
  have hunit : unit q ≤ 2 ^ (k - 52) :=
    zpow_le_zpow_right₀ one_le_two (exponent_le hk hpos hlt)
  have hhalf : (2 : ℚ) ^ (k - 52) = 2 ^ (k - 53) * 2 := by
    rw [← zpow_add_one₀ two_ne_zero]
    congr 1
    ring
  have herror := abs_sub_nearest_le_unit h
  linarith

/-- **In proportion**, where the least unit is not in the way. -/
theorem abs_sub_nearest_le_mul (h : 2 ^ (-1022 : ℤ) ≤ q) : |q - nearest q| ≤ q / 2 ^ 53 := by
  have hpos : 0 < q := (zpow_pos two_pos _).trans_le h
  have hsize : 2 ^ (exponent q + 52) ≤ q := by
    rcases (exponent_ge q).eq_or_lt with hleast | habove
    · rwa [← hleast]
    · exact le_of_exponent hpos habove
  rw [zpow_add₀ two_ne_zero] at hsize
  have hunit : unit q * 2 ^ 52 ≤ q := by exact_mod_cast hsize
  have herror := abs_sub_nearest_le_unit hpos.le
  rw [le_div_iff₀ (by positivity)]
  linarith

/-- **A positive number is lost** up to half the least unit. -/
theorem nearest_pos_iff : 0 < nearest q ↔ 2 ^ (-1075 : ℤ) < q := by
  have hleast : (2 : ℚ) ^ (-1074 : ℤ) = 2 ^ (-1075 : ℤ) * 2 := by
    rw [← zpow_add_one₀ two_ne_zero]
    rfl
  have htiny : (0 : ℚ) < 2 ^ (-1075 : ℤ) := zpow_pos two_pos _
  rcases le_or_gt q 0 with hneg | hpos
  · have hle := nearest_mono hneg
    rw [nearest_of_nonneg le_rfl, nearestAbove_zero] at hle
    exact iff_of_false (by linarith) (by linarith)
  have hround : 0 < nearest q ↔ unit q / 2 < q := by
    rw [nearest_of_nonneg hpos.le, nearestAbove, mul_pos_iff_of_pos_right (unit_pos q), Int.cast_pos,
      ← Int.not_le, ← Int.lt_add_one_iff, zero_add, roundHalfEven_lt_iff, Int.cast_one]
    rw [show (1 : ℚ) - 1 / 2 = 1 / 2 by norm_num, div_lt_iff₀ (unit_pos q), div_eq_iff (unit_pos q).ne']
    constructor
    · intro h
      by_contra hle
      rcases (not_lt.mp hle).lt_or_eq with hlt | heq
      · exact h (.inl (by linarith))
      · exact h (.inr ⟨by linarith, rfl⟩)
    · rintro h (hlt | ⟨heq, -⟩) <;> linarith
  rw [hround]
  rcases (exponent_ge q).eq_or_lt with hmin | habove
  · rw [unit, ← hmin, hleast, mul_div_cancel_right₀ _ two_ne_zero]
  · have hsize := le_of_exponent hpos habove
    rw [zpow_add₀ two_ne_zero] at hsize
    have hunit : unit q * 2 ^ 52 ≤ q := by exact_mod_cast hsize
    have hbig : (2 : ℚ) ^ (-1074 : ℤ) ≤ unit q := zpow_le_zpow_right₀ one_le_two habove.le
    have hupos := unit_pos q
    exact iff_of_true (by linarith) (by linarith)

/-- The whole part is that of the nearest double: no whole number is passed, and from 2⁵³ on the
whole part is a double itself. -/
def KeepsWhole (q : ℚ) : Prop :=
  if unit q ≤ 1 then q < ⌊q⌋ + 1 - unit q / 2 ∨ unit q = 1 ∧ q = ⌊q⌋ + 1 / 2 ∧ Even ⌊q⌋
  else ∃ n : ℤ, (⌊q⌋ : ℚ) = n * unit q

/-- From one on the unit is a whole number. -/
theorem unit_eq_intCast (h : 1 < unit q) : ∃ n : ℤ, 2 ≤ n ∧ unit q = n := by
  have hexp : 0 < exponent q := by
    by_contra hle
    have hone : unit q ≤ 2 ^ (0 : ℤ) := zpow_le_zpow_right₀ one_le_two (by omega)
    rw [zpow_zero] at hone
    linarith
  refine ⟨2 ^ (exponent q - 0).toNat, ?_, ?_⟩
  · exact le_self_pow₀ one_le_two (by omega)
  · rw [unit, two_zpow_eq hexp.le, zpow_zero, mul_one]

/-- Up to one a whole number has a whole number of units. -/
theorem intCast_eq_units (h : unit q ≤ 1) :
    ∃ k : ℕ, (k = 0 ↔ unit q = 1) ∧ ∀ n : ℤ, (n : ℚ) = ((n * 2 ^ k : ℤ) : ℚ) * unit q := by
  have hexp : exponent q ≤ 0 := by
    by_contra hpos
    have hone : (2 : ℚ) ^ (1 : ℤ) ≤ unit q := zpow_le_zpow_right₀ one_le_two (by omega)
    norm_num at hone
    linarith
  have hinv := two_zpow_eq hexp
  rw [zpow_zero] at hinv
  refine ⟨(0 - exponent q).toNat, ?_, fun n => ?_⟩
  · rw [unit, zpow_eq_one_iff_right₀ two_pos.le (by norm_num)]
    omega
  · rw [Int.cast_mul, mul_assoc, unit, ← hinv, mul_one]

theorem floor_nearestAbove_iff_of_fine (h : unit q ≤ 1) : ⌊nearestAbove q⌋ = ⌊q⌋ ↔
    q < ⌊q⌋ + 1 - unit q / 2 ∨ unit q = 1 ∧ q = ⌊q⌋ + 1 / 2 ∧ Even ⌊q⌋ := by
  obtain ⟨k, hk, hunits⟩ := intCast_eq_units h
  have hu := unit_pos q
  have hlow : ((⌊q⌋ : ℤ) : ℚ) ≤ nearestAbove q := by
    have hle := Int.floor_le q
    rw [hunits] at hle ⊢
    exact le_nearestAbove hle
  -- the whole part is kept below the next whole number
  have hnext : ⌊nearestAbove q⌋ = ⌊q⌋ ↔ nearestAbove q < ((⌊q⌋ + 1 : ℤ) : ℚ) := by
    rw [Int.floor_eq_iff]
    push_cast
    exact and_iff_right hlow
  have hodd : ((⌊q⌋ + 1) * 2 ^ k) % 2 = 1 ↔ unit q = 1 ∧ Even ⌊q⌋ := by
    rw [← hk, Int.even_iff]
    cases k with
    | zero =>
      rw [pow_zero, mul_one]
      omega
    | succ k =>
      rw [pow_succ, ← mul_assoc, Int.mul_emod_left]
      simp
  have hhalf : q / unit q = ((((⌊q⌋ + 1) * 2 ^ k : ℤ) : ℚ)) - 1 / 2 ↔ q = ⌊q⌋ + 1 - unit q / 2 := by
    rw [div_eq_iff hu.ne', sub_mul, ← hunits]
    push_cast
    constructor <;> intro heq <;> linarith
  have hbelow : q / unit q < ((((⌊q⌋ + 1) * 2 ^ k : ℤ) : ℚ)) - 1 / 2 ↔ q < ⌊q⌋ + 1 - unit q / 2 := by
    rw [div_lt_iff₀ hu, sub_mul, ← hunits]
    push_cast
    constructor <;> intro hlt <;> linarith
  rw [hnext, hunits, nearestAbove, mul_lt_mul_iff_of_pos_right hu, Int.cast_lt, roundHalfEven_lt_iff,
    hodd, hbelow, hhalf]
  apply or_congr_right
  constructor
  · rintro ⟨heq, hone, heven⟩
    exact ⟨hone, by linarith, heven⟩
  · rintro ⟨hone, heq, heven⟩
    exact ⟨by linarith, hone, heven⟩

theorem floor_nearestAbove_iff_of_coarse (h : 1 < unit q) :
    ⌊nearestAbove q⌋ = ⌊q⌋ ↔ ∃ n : ℤ, (⌊q⌋ : ℚ) = n * unit q := by
  obtain ⟨u, htwo, hunit⟩ := unit_eq_intCast h
  have hu := unit_pos q
  have hfloor : ⌊nearestAbove q⌋ = roundHalfEven (q / unit q) * u := by
    rw [nearestAbove, hunit, ← Int.cast_mul, Int.floor_intCast]
  constructor
  · intro hkept
    refine ⟨roundHalfEven (q / unit q), ?_⟩
    rw [← hkept, hfloor, Int.cast_mul, hunit]
  · rintro ⟨n, hn⟩
    have hle := Int.floor_le q
    have hlt := Int.lt_floor_add_one q
    have hbig : (2 : ℚ) ≤ unit q := by rw [hunit]; exact_mod_cast htwo
    have hlow : n ≤ roundHalfEven (q / unit q) := by
      rw [← roundHalfEven_intCast n]
      exact roundHalfEven_mono ((le_div_iff₀ hu).mpr (hn ▸ hle))
    have hhigh : roundHalfEven (q / unit q) < n + 1 := by
      rw [roundHalfEven_lt_iff, div_lt_iff₀ hu]
      left
      push_cast
      linarith
    have hround : roundHalfEven (q / unit q) = n := by omega
    rw [hfloor, hround, ← @Int.cast_inj ℚ, Int.cast_mul, hn, hunit]

/-- **The whole part after rounding.** -/
theorem floor_nearest_iff (h : 0 ≤ q) : ⌊nearest q⌋ = ⌊q⌋ ↔ KeepsWhole q := by
  rw [nearest_of_nonneg h, KeepsWhole]
  split_ifs with hfine
  · exact floor_nearestAbove_iff_of_fine hfine
  · exact floor_nearestAbove_iff_of_coarse (not_le.mp hfine)

end Errors

/-! ### Several roundings -/

/-- What one rounding leaves at least of a number. -/
def kept : ℚ := 1 - 1 / 2 ^ 53

/-- Two numbers are at most `n` roundings apart. -/
def Near (n : ℕ) (x y : ℚ) : Prop := y * kept ^ n ≤ x ∧ x * kept ^ n ≤ y

section Near

variable {m n : ℕ} {x y z x' y' : ℚ}

theorem kept_pos : 0 < kept := by norm_num [kept]

theorem Near.refl (x : ℚ) : Near 0 x x := by simp [Near]

theorem Near.symm (h : Near n x y) : Near n y x := And.symm h

theorem Near.trans (h : Near m x y) (h' : Near n y z) : Near (m + n) x z := by
  have hm := (pow_pos kept_pos m).le
  have hn := (pow_pos kept_pos n).le
  constructor
  · calc z * kept ^ (m + n) = z * kept ^ n * kept ^ m := by ring
      _ ≤ y * kept ^ m := mul_le_mul_of_nonneg_right h'.1 hm
      _ ≤ x := h.1
  · calc x * kept ^ (m + n) = x * kept ^ m * kept ^ n := by ring
      _ ≤ y * kept ^ n := mul_le_mul_of_nonneg_right h.2 hn
      _ ≤ z := h'.2

theorem Near.mul_right (h : Near n x y) (hz : 0 ≤ z) : Near n (x * z) (y * z) := by
  constructor
  · calc y * z * kept ^ n = y * kept ^ n * z := by ring
      _ ≤ x * z := mul_le_mul_of_nonneg_right h.1 hz
  · calc x * z * kept ^ n = x * kept ^ n * z := by ring
      _ ≤ y * z := mul_le_mul_of_nonneg_right h.2 hz

theorem kept_le_one : kept ≤ 1 := by norm_num [kept]

/-- More roundings may be further away. -/
theorem Near.weaken (h : Near m x y) (hmn : m ≤ n) (hx : 0 ≤ x) (hy : 0 ≤ y) : Near n x y := by
  have hpow : kept ^ n ≤ kept ^ m := pow_le_pow_of_le_one kept_pos.le kept_le_one hmn
  exact ⟨(mul_le_mul_of_nonneg_left hpow hy).trans h.1, (mul_le_mul_of_nonneg_left hpow hx).trans h.2⟩

/-- A product is as far from the other one as its two numbers. -/
theorem Near.mul (h : Near m x y) (h' : Near n x' y') (hx' : 0 ≤ x') (hy : 0 ≤ y) :
    Near (m + n) (x * x') (y * y') := by
  have hright := h'.mul_right hy
  rw [mul_comm x' y, mul_comm y' y] at hright
  exact (h.mul_right hx').trans hright

/-- A quotient is as far from the other one as its two numbers. -/
theorem Near.div (h : Near m x y) (h' : Near n x' y') (hy : 0 ≤ y) (hx' : 0 < x') (hy' : 0 < y') :
    Near (m + n) (x / x') (y / y') := by
  have hinv : Near n x'⁻¹ y'⁻¹ := by
    constructor
    · rw [inv_mul_le_iff₀ hy', ← div_eq_mul_inv, le_div_iff₀ hx', mul_comm]
      exact h'.2
    · rw [inv_mul_le_iff₀ hx', ← div_eq_mul_inv, le_div_iff₀ hy', mul_comm]
      exact h'.1
  have hright := hinv.mul_right hy
  rw [div_eq_mul_inv, div_eq_mul_inv, mul_comm y]
  refine (h.mul_right (inv_pos.mpr hx').le).trans ?_
  rwa [mul_comm y]

/-- **One rounding**, where the least unit is not in the way. -/
theorem near_nearest (h : x = 0 ∨ 2 ^ (-1022 : ℤ) ≤ x) : Near 1 (nearest x) x := by
  rcases h with rfl | h
  · rw [nearest_of_nonneg le_rfl, nearestAbove_zero, Near]
    simp
  · have hpos : 0 < x := (zpow_pos two_pos _).trans_le h
    have herror := abs_le.mp (abs_sub_nearest_le_mul h)
    rw [Near, kept, pow_one]
    constructor
    · linarith [herror.2]
    · have hup : nearest x ≤ x + x / 2 ^ 53 := by linarith [herror.1]
      calc nearest x * (1 - 1 / 2 ^ 53)
        _ ≤ (x + x / 2 ^ 53) * (1 - 1 / 2 ^ 53) := mul_le_mul_of_nonneg_right hup kept_pos.le
        _ ≤ x := by linarith

/-- **A few roundings** are hardly more than their sum. -/
theorem Near.abs_sub_le (h : Near n x y) (hn : n ≤ 2 ^ 52) (hy : 0 ≤ y) :
    |x - y| ≤ y * (n / 2 ^ 52) := by
  have hcast : (n : ℚ) ≤ 2 ^ 52 := by exact_mod_cast hn
  have hbernoulli : 1 - n / 2 ^ 53 ≤ kept ^ n := by
    have hle := one_add_mul_le_pow (show (-2 : ℚ) ≤ -(1 / 2 ^ 53) by norm_num) n
    rw [← sub_eq_add_neg] at hle
    calc 1 - (n : ℚ) / 2 ^ 53 = 1 + n * -(1 / 2 ^ 53) := by ring
      _ ≤ kept ^ n := hle
  have hlow : y * (1 - n / 2 ^ 53) ≤ x := (mul_le_mul_of_nonneg_left hbernoulli hy).trans h.1
  have hx : 0 ≤ x := (mul_nonneg hy (by linarith)).trans hlow
  have hhigh : x * (1 - n / 2 ^ 53) ≤ y := (mul_le_mul_of_nonneg_left hbernoulli hx).trans h.2
  have hshare : 0 ≤ (n : ℚ) / 2 ^ 53 := by positivity
  have hhalf : (n : ℚ) / 2 ^ 52 = 2 * (n / 2 ^ 53) := by ring
  have hless : (n : ℚ) / 2 ^ 53 ≤ 1 / 2 := by linarith
  rw [hhalf, abs_le]
  constructor
  · nlinarith
  · by_contra hmore
    have hmore : y + y * (2 * (n / 2 ^ 53)) < x := by linarith
    nlinarith [mul_nonneg hy hshare, mul_nonneg (mul_nonneg hy hshare) hshare]

end Near

example : nearest (1 / 10) = 3602879701896397 / 36028797018963968 := by decide +kernel

end Library.Binary64
