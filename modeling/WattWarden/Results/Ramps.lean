import WattWarden.Daemon.Ladder

/-!
# The shape of the ladder

The targets of a ladder step, in exact arithmetic, as functions of the load and the level.  Every
target is a truncation of `lo + step * (top - lo)`, where the step grows with the load and the top
with the level; truncating, rounding and clamping keep both orders.

* `LadderMachine` / `stepTargets` — what a step reads of the hardware, and everything it aims at;
* `scaleWithin_mono`, `rampTarget_mono`, `coreRampCores_mono` — **PROVED**: each kind of target grows
  with the level ceiling and with the step;
* `Describes` / `applyLogicStep_of_describes` — **PROVED**: on a machine so described, these are the
  targets the code's step writes and reports;
* `ladder_shape` — **PROVED**: monotone in load and level together, inside every range, the minimums
  at step 0, the level ceilings at step 1, and never flat.
-/

namespace WattWarden

open Library.FileTree Library.Journaling Library.Floats Library.Numerals

/-! ### The constants of the code as rational numbers -/

theorem levelCeiling_high : levelCeiling (F := ℚ) .high = 2 / 5 := by
  norm_num [levelCeiling]

theorem levelCeiling_medium : levelCeiling (F := ℚ) .medium = 7 / 10 := by
  norm_num [levelCeiling]

theorem levelCeiling_low : levelCeiling (F := ℚ) .low = 1 := by
  norm_num [levelCeiling]

theorem discretePowerOf_eq (load : ℚ) (ncpu : ℕ) :
    discretePowerOf load ncpu = roundHalfAway (min (load / ncpu) 1 * 3) / 3 := by
  rw [discretePowerOf]
  norm_num [FloatLike.round]

theorem coreRampCores_eq (ncpu : ℕ) (ceiling step : ℚ) :
    coreRampCores ncpu ceiling step = clamp 1 (coreCeiling ncpu ceiling)
      (asUsize (roundHalfAway (1 + step * ((coreCeiling ncpu ceiling - 1 : ℕ) : ℚ)))) := by
  rw [coreRampCores]
  norm_num [FloatLike.round]

/-! ### Levels and steps -/

/-- The most aggressive level first. -/
def AutoExtremeLevel.mildness : AutoExtremeLevel → ℕ
  | .high => 0
  | .medium => 1
  | .low => 2

theorem levelCeiling_mono {a b : AutoExtremeLevel} (h : a.mildness ≤ b.mildness) :
    levelCeiling (F := ℚ) a ≤ levelCeiling b := by
  cases a <;> cases b <;> simp only [AutoExtremeLevel.mildness] at h <;>
    first
    | omega
    | norm_num [levelCeiling_high, levelCeiling_medium, levelCeiling_low]

theorem levelCeiling_mem (a : AutoExtremeLevel) :
    0 < levelCeiling (F := ℚ) a ∧ levelCeiling (F := ℚ) a ≤ 1 := by
  cases a <;> norm_num [levelCeiling_high, levelCeiling_medium, levelCeiling_low]

/-- The share of a load on `ncpu` CPUs. -/
theorem share_nonneg {load : ℚ} (h : 0 ≤ load) (ncpu : ℕ) : 0 ≤ min (load / ncpu) 1 * 3 := by
  have hdiv : 0 ≤ load / ncpu := div_nonneg h ncpu.cast_nonneg
  have hmin : (0 : ℚ) ≤ min (load / ncpu) 1 := le_min hdiv zero_le_one
  linarith

theorem discretePowerOf_mono {l₁ l₂ : ℚ} (h₀ : 0 ≤ l₁) (h : l₁ ≤ l₂) (ncpu : ℕ) :
    discretePowerOf l₁ ncpu ≤ discretePowerOf l₂ ncpu := by
  rw [discretePowerOf_eq, discretePowerOf_eq]
  have hshare : min (l₁ / ncpu) 1 * 3 ≤ min (l₂ / ncpu) 1 * 3 := by
    have hdiv : l₁ / ncpu ≤ l₂ / ncpu := div_le_div_of_nonneg_right h ncpu.cast_nonneg
    have hmin := min_le_min_right 1 hdiv
    linarith
  have hround := roundHalfAway_mono (share_nonneg h₀ ncpu) hshare
  linarith

theorem discretePowerOf_mem {load : ℚ} (h : 0 ≤ load) (ncpu : ℕ) :
    0 ≤ discretePowerOf load ncpu ∧ discretePowerOf load ncpu ≤ 1 := by
  rw [discretePowerOf_eq]
  have hlo := roundHalfAway_nonneg (share_nonneg h ncpu)
  have hshare : min (load / ncpu) 1 * 3 ≤ ((3 : ℕ) : ℚ) := by
    have hmin : min (load / ncpu) 1 ≤ (1 : ℚ) := min_le_right _ _
    push_cast
    linarith
  have hhi := roundHalfAway_mono (share_nonneg h ncpu) hshare
  rw [roundHalfAway_natCast] at hhi
  push_cast at hhi
  constructor <;> linarith

/-- A load of all CPUs reaches the last step. -/
theorem discretePowerOf_full {load : ℚ} {ncpu : ℕ} (hpos : 1 ≤ ncpu) (h : (ncpu : ℚ) ≤ load) :
    discretePowerOf load ncpu = 1 := by
  have hncpu : (0 : ℚ) < ncpu := by exact_mod_cast hpos
  have hshare : min (load / ncpu) 1 * 3 = ((3 : ℕ) : ℚ) := by
    rw [min_eq_right ((one_le_div₀ hncpu).mpr h)]
    norm_num
  rw [discretePowerOf_eq, hshare, roundHalfAway_natCast]
  norm_num

/-! ### Targets inside a range -/

/-- A discovered range of a `u32` quantity. -/
structure DiscoveredRange where
  lo : ℕ
  hi : ℕ
  lt : lo < hi
  bound : hi < 2 ^ 32

/-- The exact value between the end of a range and a top, at a step. -/
theorem between {lo top step : ℚ} (hstep : 0 ≤ step ∧ step ≤ 1) (htop : lo ≤ top) :
    lo ≤ lo + step * (top - lo) ∧ lo + step * (top - lo) ≤ top := by
  obtain ⟨h₀, h₁⟩ := hstep
  constructor <;> nlinarith

/-- It grows with the step and with the top. -/
theorem between_mono {lo top₁ top₂ step₁ step₂ : ℚ} (h₀ : 0 ≤ step₁) (hstep : step₁ ≤ step₂)
    (hlo : lo ≤ top₁) (htop : top₁ ≤ top₂) :
    lo + step₁ * (top₁ - lo) ≤ lo + step₂ * (top₂ - lo) := by
  have hmul : step₁ * (top₁ - lo) ≤ step₂ * (top₂ - lo) :=
    mul_le_mul hstep (by linarith) (by linarith) (h₀.trans hstep)
  linarith

namespace DiscoveredRange

variable (r : DiscoveredRange)

theorem lo_lt_bound : r.lo < 2 ^ 32 := r.lt.trans r.bound

theorem cast_le : (r.lo : ℚ) ≤ r.hi := by exact_mod_cast r.lt.le

/-- The exact level ceiling of a range. -/
def top (ceiling : ℚ) : ℚ := r.lo + (r.hi - r.lo) * ceiling

variable {r} {c c₁ c₂ step step₁ step₂ : ℚ}

theorem top_mem (hc : 0 ≤ c ∧ c ≤ 1) : (r.lo : ℚ) ≤ r.top c ∧ r.top c ≤ r.hi := by
  rw [top, mul_comm]
  exact between hc r.cast_le

theorem top_mono (h₀ : 0 ≤ c₁) (hc : c₁ ≤ c₂) : r.top c₁ ≤ r.top c₂ := by
  have hmono := between_mono h₀ hc r.cast_le (le_refl (r.hi : ℚ))
  rw [top, top, mul_comm, mul_comm _ c₂]
  exact hmono

/-! ### CPU and GPU limits -/

/-- The truncated level ceiling. -/
theorem asU32_top_mem (hc : 0 ≤ c ∧ c ≤ 1) :
    r.lo ≤ asU32 (r.top c) ∧ asU32 (r.top c) ≤ r.hi :=
  ⟨le_toUnsigned r.lo_lt_bound (top_mem hc).1, toUnsigned_le_of_le r.bound (top_mem hc).2⟩

/-- No saturation: the truncated ceiling is the floor of the exact one. -/
theorem asU32_top (hc : 0 ≤ c ∧ c ≤ 1) :
    (asU32 (r.top c) : ℤ) = ⌊(r.lo : ℚ) + (r.hi - r.lo) * c⌋ := by
  have hnonneg : 0 ≤ ⌊r.top c⌋ :=
    Int.floor_nonneg.mpr (le_trans r.lo.cast_nonneg (top_mem hc).1)
  have hle : ⌊r.top c⌋ ≤ (r.hi : ℤ) := by
    have hfloor := Int.floor_le_floor (top_mem (r := r) hc).2
    rwa [Int.floor_natCast] at hfloor
  have hbound := r.bound
  have htrunc : asU32 (r.top c) = min ⌊r.top c⌋.toNat (2 ^ 32 - 1) := rfl
  rw [htrunc]
  change _ = ⌊r.top c⌋
  omega

theorem rampTarget_eq (r : DiscoveredRange) (c step : ℚ) :
    rampTarget (r.lo, r.hi) c step
      = asU32 ((r.lo : ℚ) + step * ((asU32 (r.top c) : ℚ) - r.lo)) := rfl

theorem rampTarget_mem (hc : 0 ≤ c ∧ c ≤ 1) (hstep : 0 ≤ step ∧ step ≤ 1) :
    r.lo ≤ rampTarget (r.lo, r.hi) c step ∧ rampTarget (r.lo, r.hi) c step ≤ r.hi := by
  have htop := asU32_top_mem (r := r) hc
  have hlo : (r.lo : ℚ) ≤ asU32 (r.top c) := by exact_mod_cast htop.1
  have hhi : (asU32 (r.top c) : ℚ) ≤ r.hi := by exact_mod_cast htop.2
  have hvalue := between hstep hlo
  rw [rampTarget_eq]
  exact ⟨le_toUnsigned r.lo_lt_bound hvalue.1,
    toUnsigned_le_of_le r.bound (hvalue.2.trans hhi)⟩

theorem rampTarget_mono (h₀ : 0 ≤ c₁) (hc : c₁ ≤ c₂) (hc₁ : c₂ ≤ 1) (hstep₀ : 0 ≤ step₁)
    (hstep : step₁ ≤ step₂) :
    rampTarget (r.lo, r.hi) c₁ step₁ ≤ rampTarget (r.lo, r.hi) c₂ step₂ := by
  have hlo : (r.lo : ℚ) ≤ asU32 (r.top c₁) := by
    exact_mod_cast (asU32_top_mem ⟨h₀, hc.trans hc₁⟩).1
  have htop : (asU32 (r.top c₁) : ℚ) ≤ asU32 (r.top c₂) := by
    exact_mod_cast toUnsigned_mono (2 ^ 32) (top_mono h₀ hc)
  rw [rampTarget_eq, rampTarget_eq]
  exact toUnsigned_mono _ (between_mono hstep₀ hstep hlo htop)

theorem rampTarget_zero (c : ℚ) : rampTarget (r.lo, r.hi) c 0 = r.lo := by
  rw [rampTarget_eq, zero_mul, add_zero]
  exact toUnsigned_natCast r.lo_lt_bound

theorem rampTarget_one (hc : 0 ≤ c ∧ c ≤ 1) :
    (rampTarget (r.lo, r.hi) c 1 : ℤ) = ⌊(r.lo : ℚ) + (r.hi - r.lo) * c⌋ := by
  have hbound : asU32 (r.top c) < 2 ^ 32 := lt_of_le_of_lt (asU32_top_mem hc).2 r.bound
  have htop : rampTarget (r.lo, r.hi) c 1 = asU32 (r.top c) := by
    rw [rampTarget_eq, one_mul, add_sub_cancel]
    exact toUnsigned_natCast hbound
  rw [htop, asU32_top hc]

/-! ### Power limits -/

theorem scaleWithin_eq (r : DiscoveredRange) (c step : ℚ) :
    scaleWithin r.lo r.hi c step = min (asU32 ((r.lo : ℚ) + step * (r.top c - r.lo))) r.hi := by
  rw [scaleWithin, Nat.cast_sub r.lt.le]
  rfl

theorem scaleWithin_mem (hc : 0 ≤ c ∧ c ≤ 1) (hstep : 0 ≤ step ∧ step ≤ 1) :
    r.lo ≤ scaleWithin r.lo r.hi c step ∧ scaleWithin r.lo r.hi c step ≤ r.hi := by
  rw [scaleWithin_eq]
  have hvalue := between hstep (top_mem (r := r) hc).1
  exact ⟨le_min (le_toUnsigned r.lo_lt_bound hvalue.1) r.lt.le, min_le_right _ _⟩

theorem scaleWithin_mono (h₀ : 0 ≤ c₁) (hc : c₁ ≤ c₂) (hc₁ : c₂ ≤ 1) (hstep₀ : 0 ≤ step₁)
    (hstep : step₁ ≤ step₂) :
    scaleWithin r.lo r.hi c₁ step₁ ≤ scaleWithin r.lo r.hi c₂ step₂ := by
  rw [scaleWithin_eq, scaleWithin_eq]
  have hlo := (top_mem (r := r) ⟨h₀, hc.trans hc₁⟩).1
  exact min_le_min_right _ (toUnsigned_mono _ (between_mono hstep₀ hstep hlo (top_mono h₀ hc)))

theorem scaleWithin_zero (c : ℚ) : scaleWithin r.lo r.hi c 0 = r.lo := by
  have htrunc : asU32 (r.lo : ℚ) = r.lo := toUnsigned_natCast r.lo_lt_bound
  rw [scaleWithin_eq, zero_mul, add_zero, htrunc]
  exact min_eq_left r.lt.le

theorem scaleWithin_one (hc : 0 ≤ c ∧ c ≤ 1) :
    (scaleWithin r.lo r.hi c 1 : ℤ) = ⌊(r.lo : ℚ) + (r.hi - r.lo) * c⌋ := by
  have htop : scaleWithin r.lo r.hi c 1 = asU32 (r.top c) := by
    rw [scaleWithin_eq, one_mul, add_sub_cancel]
    exact min_eq_left (asU32_top_mem hc).2
  rw [htop, asU32_top hc]

end DiscoveredRange

/-! ### Cores -/

section Cores

variable {ncpu : ℕ} {c c₁ c₂ step step₁ step₂ : ℚ}

theorem coreCeiling_mem (h : 1 ≤ ncpu) (c : ℚ) :
    1 ≤ coreCeiling ncpu c ∧ coreCeiling ncpu c ≤ ncpu := by
  rw [coreCeiling]
  split
  · exact ⟨le_rfl, h⟩
  · rename_i hmany
    exact ⟨le_trans (by decide) (le_clamp (by omega)), clamp_le (by omega)⟩

theorem two_le_coreCeiling (h : 2 ≤ ncpu) (c : ℚ) : 2 ≤ coreCeiling ncpu c := by
  rw [coreCeiling, if_neg (by omega)]
  exact le_clamp h

/-- A ceiling is a `usize`. -/
theorem coreCeiling_lt (ncpu : ℕ) (c : ℚ) : coreCeiling ncpu c < 2 ^ 64 := by
  rw [coreCeiling]
  split
  · decide
  · exact clamp_lt (by decide) (lt_of_le_of_lt (min_le_right _ _) (by decide))

theorem coreCeiling_mono (hc : c₁ ≤ c₂) : coreCeiling ncpu c₁ ≤ coreCeiling ncpu c₂ := by
  rw [coreCeiling, coreCeiling]
  split
  · exact le_rfl
  · rename_i hmany
    have hmul : (ncpu : ℚ) * c₁ ≤ ncpu * c₂ := mul_le_mul_of_nonneg_left hc ncpu.cast_nonneg
    exact clamp_le_clamp (by omega) le_rfl (toUnsigned_mono _ (ceil_mono hmul))

theorem coreRampCores_mem (h : 1 ≤ ncpu) (c step : ℚ) :
    1 ≤ coreRampCores ncpu c step ∧ coreRampCores ncpu c step ≤ ncpu := by
  have hceiling := coreCeiling_mem h c
  rw [coreRampCores_eq]
  exact ⟨le_clamp hceiling.1, (clamp_le hceiling.1).trans hceiling.2⟩

theorem coreRampCores_mono (h : 1 ≤ ncpu) (hc : c₁ ≤ c₂) (hstep₀ : 0 ≤ step₁)
    (hstep : step₁ ≤ step₂) : coreRampCores ncpu c₁ step₁ ≤ coreRampCores ncpu c₂ step₂ := by
  have hceiling : coreCeiling ncpu c₁ ≤ coreCeiling ncpu c₂ := coreCeiling_mono hc
  rw [coreRampCores_eq, coreRampCores_eq]
  apply clamp_le_clamp (coreCeiling_mem h c₁).1 hceiling
  apply toUnsigned_mono
  have hcast : ((coreCeiling ncpu c₁ - 1 : ℕ) : ℚ) ≤ ((coreCeiling ncpu c₂ - 1 : ℕ) : ℚ) := by
    exact_mod_cast Nat.sub_le_sub_right hceiling 1
  have hnonneg : (0 : ℚ) ≤ ((coreCeiling ncpu c₁ - 1 : ℕ) : ℚ) := Nat.cast_nonneg _
  have hmul := mul_le_mul hstep hcast hnonneg (hstep₀.trans hstep)
  have hlow := mul_nonneg hstep₀ hnonneg
  apply roundHalfAway_mono (by linarith)
  linarith

theorem coreRampCores_zero (h : 1 ≤ ncpu) (c : ℚ) : coreRampCores ncpu c 0 = 1 := by
  have hround := roundHalfAway_natCast 1
  have hone : asUsize ((1 : ℕ) : ℚ) = 1 := toUnsigned_natCast (by decide)
  rw [Nat.cast_one] at hround hone
  rw [coreRampCores_eq, zero_mul, add_zero, hround, hone]
  exact clamp_eq_self le_rfl (coreCeiling_mem h c).1

/-- The ceiling is reached at the last step. -/
theorem coreRampCores_one (h : 1 ≤ ncpu) (c : ℚ) :
    coreRampCores ncpu c 1 = coreCeiling ncpu c := by
  have hceiling := coreCeiling_mem h c
  have hsum : (1 : ℚ) + 1 * ((coreCeiling ncpu c - 1 : ℕ) : ℚ) = (coreCeiling ncpu c : ℚ) := by
    rw [one_mul, Nat.cast_sub hceiling.1]
    push_cast
    ring
  have hcast : asUsize (coreCeiling ncpu c : ℚ) = coreCeiling ncpu c :=
    toUnsigned_natCast (coreCeiling_lt ncpu c)
  rw [coreRampCores_eq, hsum, roundHalfAway_natCast, hcast]
  exact clamp_eq_self hceiling.1 le_rfl

end Cores

/-! ### Turbo -/

/-- The step from which a level allows turbo. -/
def turboThreshold : AutoExtremeLevel → ℚ
  | .high => 4 / 5
  | .medium => 2 / 3
  | .low => 1 / 3

theorem turboTarget_iff (a : AutoExtremeLevel) (step : ℚ) :
    turboTarget a step = true ↔ turboThreshold a ≤ step := by
  cases a <;> norm_num [turboTarget, turboThreshold, FloatLike.ge]

theorem turboTarget_mono {a b : AutoExtremeLevel} {step₁ step₂ : ℚ}
    (hlevel : a.mildness ≤ b.mildness) (hstep : step₁ ≤ step₂)
    (h : turboTarget a step₁ = true) : turboTarget b step₂ = true := by
  rw [turboTarget_iff] at h ⊢
  have hthreshold : turboThreshold b ≤ turboThreshold a := by
    cases a <;> cases b <;> simp only [AutoExtremeLevel.mildness] at hlevel <;>
      first
      | omega
      | norm_num [turboThreshold]
  linarith

/-! ### The targets of a step -/

/-- What a ladder step reads of the hardware it runs on. -/
structure LadderMachine where
  ncpu : ℕ
  one_le_ncpu : 1 ≤ ncpu
  cpu : DiscoveredRange
  gpu : DiscoveredRange
  pl1 : DiscoveredRange
  pl2 : DiscoveredRange

/-- Everything a step aims at. -/
structure StepTargets where
  cores : ℕ
  freq : ℕ
  gpu : ℕ
  pl1 : ℕ
  pl2 : ℕ
  turbo : Bool

/-- The targets of the step `step` under the level ceiling of `level`. -/
def LadderMachine.targetsAt (m : LadderMachine) (step : ℚ) (level : AutoExtremeLevel) :
    StepTargets where
  cores := coreRampCores m.ncpu (levelCeiling level) step
  freq := rampTarget (m.cpu.lo, m.cpu.hi) (levelCeiling level) step
  gpu := rampTarget (m.gpu.lo, m.gpu.hi) (levelCeiling level) step
  pl1 := scaleWithin m.pl1.lo m.pl1.hi (levelCeiling level) step
  pl2 := scaleWithin m.pl2.lo m.pl2.hi (levelCeiling level) step
  turbo := turboTarget level step

/-- The targets under a load. -/
def LadderMachine.stepTargets (m : LadderMachine) (load : ℚ) (level : AutoExtremeLevel) :
    StepTargets := m.targetsAt (discretePowerOf load m.ncpu) level

namespace StepTargets

/-- Every target at most the other one; turbo off counts as less than turbo on. -/
structure AtMost (s t : StepTargets) : Prop where
  cores : s.cores ≤ t.cores
  freq : s.freq ≤ t.freq
  gpu : s.gpu ≤ t.gpu
  pl1 : s.pl1 ≤ t.pl1
  pl2 : s.pl2 ≤ t.pl2
  turbo : s.turbo = true → t.turbo = true

/-- Every target inside what the machine has. -/
structure Inside (m : LadderMachine) (s : StepTargets) : Prop where
  cores : 1 ≤ s.cores ∧ s.cores ≤ m.ncpu
  freq : m.cpu.lo ≤ s.freq ∧ s.freq ≤ m.cpu.hi
  gpu : m.gpu.lo ≤ s.gpu ∧ s.gpu ≤ m.gpu.hi
  pl1 : m.pl1.lo ≤ s.pl1 ∧ s.pl1 ≤ m.pl1.hi
  pl2 : m.pl2.lo ≤ s.pl2 ∧ s.pl2 ≤ m.pl2.hi

/-- One core and the bottom of every range. -/
structure AtMinimums (m : LadderMachine) (s : StepTargets) : Prop where
  cores : s.cores = 1
  freq : s.freq = m.cpu.lo
  gpu : s.gpu = m.gpu.lo
  pl1 : s.pl1 = m.pl1.lo
  pl2 : s.pl2 = m.pl2.lo

/-- The core ceiling of the level, and `min + (max - min) * ceiling` truncated in every range. -/
structure AtCeilings (m : LadderMachine) (ceiling : ℚ) (s : StepTargets) : Prop where
  cores : s.cores = coreCeiling m.ncpu ceiling
  freq : (s.freq : ℤ) = ⌊(m.cpu.lo : ℚ) + (m.cpu.hi - m.cpu.lo) * ceiling⌋
  gpu : (s.gpu : ℤ) = ⌊(m.gpu.lo : ℚ) + (m.gpu.hi - m.gpu.lo) * ceiling⌋
  pl1 : (s.pl1 : ℤ) = ⌊(m.pl1.lo : ℚ) + (m.pl1.hi - m.pl1.lo) * ceiling⌋
  pl2 : (s.pl2 : ℤ) = ⌊(m.pl2.lo : ℚ) + (m.pl2.hi - m.pl2.lo) * ceiling⌋

end StepTargets

namespace LadderMachine

variable (m : LadderMachine)

theorem targetsAt_mono {step₁ step₂ : ℚ} {a b : AutoExtremeLevel} (hstep₀ : 0 ≤ step₁)
    (hstep : step₁ ≤ step₂) (hlevel : a.mildness ≤ b.mildness) :
    (m.targetsAt step₁ a).AtMost (m.targetsAt step₂ b) where
  cores := coreRampCores_mono m.one_le_ncpu (levelCeiling_mono hlevel) hstep₀ hstep
  freq := DiscoveredRange.rampTarget_mono (levelCeiling_mem a).1.le (levelCeiling_mono hlevel)
    (levelCeiling_mem b).2 hstep₀ hstep
  gpu := DiscoveredRange.rampTarget_mono (levelCeiling_mem a).1.le (levelCeiling_mono hlevel)
    (levelCeiling_mem b).2 hstep₀ hstep
  pl1 := DiscoveredRange.scaleWithin_mono (levelCeiling_mem a).1.le (levelCeiling_mono hlevel)
    (levelCeiling_mem b).2 hstep₀ hstep
  pl2 := DiscoveredRange.scaleWithin_mono (levelCeiling_mem a).1.le (levelCeiling_mono hlevel)
    (levelCeiling_mem b).2 hstep₀ hstep
  turbo := turboTarget_mono hlevel hstep

theorem targetsAt_inside {step : ℚ} (hstep : 0 ≤ step ∧ step ≤ 1) (a : AutoExtremeLevel) :
    (m.targetsAt step a).Inside m := by
  have hceiling : 0 ≤ levelCeiling (F := ℚ) a ∧ levelCeiling (F := ℚ) a ≤ 1 :=
    ⟨(levelCeiling_mem a).1.le, (levelCeiling_mem a).2⟩
  exact ⟨coreRampCores_mem m.one_le_ncpu _ _, DiscoveredRange.rampTarget_mem hceiling hstep,
    DiscoveredRange.rampTarget_mem hceiling hstep, DiscoveredRange.scaleWithin_mem hceiling hstep,
    DiscoveredRange.scaleWithin_mem hceiling hstep⟩

theorem targetsAt_zero (a : AutoExtremeLevel) : (m.targetsAt 0 a).AtMinimums m where
  cores := coreRampCores_zero m.one_le_ncpu _
  freq := DiscoveredRange.rampTarget_zero _
  gpu := DiscoveredRange.rampTarget_zero _
  pl1 := DiscoveredRange.scaleWithin_zero _
  pl2 := DiscoveredRange.scaleWithin_zero _

theorem targetsAt_one (a : AutoExtremeLevel) :
    (m.targetsAt 1 a).AtCeilings m (levelCeiling a) := by
  have hceiling : 0 ≤ levelCeiling (F := ℚ) a ∧ levelCeiling (F := ℚ) a ≤ 1 :=
    ⟨(levelCeiling_mem a).1.le, (levelCeiling_mem a).2⟩
  exact ⟨coreRampCores_one m.one_le_ncpu _, DiscoveredRange.rampTarget_one hceiling,
    DiscoveredRange.rampTarget_one hceiling, DiscoveredRange.scaleWithin_one hceiling,
    DiscoveredRange.scaleWithin_one hceiling⟩

end LadderMachine

/-! ### The code's step on such a machine -/

/-- The backend and the tree show the code this machine. -/
structure Describes (m : LadderMachine) (b : LinuxBackend) (t : Tree) (rapl : LinuxRapl)
    (gpu : LinuxGpu) : Prop where
  ncpu : max b.cpu.numCpus 1 = m.ncpu
  cpu : b.cpu.discoveredFreqBounds t = some (m.cpu.lo, m.cpu.hi)
  gpu_eq : b.gpu = some gpu
  gpu : gpu.discoveredGpuBounds t = some (m.gpu.lo, m.gpu.hi)
  rapl_eq : b.rapl = some rapl
  pl1 : rapl.pl1BoundsWatts t = some (m.pl1.lo, m.pl1.hi)
  pl2 : rapl.pl2BoundsWatts t = some (m.pl2.lo, m.pl2.hi)

/-- The step reports these targets. -/
structure LogicStepResult.Reports (result : LogicStepResult ℚ) (expected : StepTargets) : Prop where
  cores : result.targetCores = expected.cores
  freq : result.targetFreq = expected.freq
  gpu : result.targetGpu = expected.gpu
  rapl : result.targetRapl = expected.pl1
  turbo : result.targetTurbo = expected.turbo

section Describes

variable {m : LadderMachine} {b : LinuxBackend} {s : SysfsRoot} {rapl : LinuxRapl} {gpu : LinuxGpu}

/-- The targets of the code's step, RAPL apart. -/
theorem ladderTargets_of_describes (h : Describes m b s.tree rapl gpu) (level : AutoExtremeLevel) :
    let targets := ladderTargets ℚ b s.tree level
    let expected := m.stepTargets (LinuxBackend.loadAverage ℚ s.tree) level
    targets.cores = expected.cores ∧ targets.freq = expected.freq ∧
      targets.gpu = expected.gpu ∧ targets.turbo = expected.turbo := by
  have hgpu : (b.gpu.bind fun gpu => gpu.discoveredGpuBounds s.tree)
      = some (m.gpu.lo, m.gpu.hi) := by rw [h.gpu_eq]; exact h.gpu
  simp only [ladderTargets, h.ncpu, h.cpu, hgpu, Option.getD_some]
  exact ⟨rfl, rfl, rfl, rfl⟩

/-- The RAPL part writes the two power targets and reports the first. -/
theorem ladderRapl_of_describes (h : Describes m b s.tree rapl gpu) (level : AutoExtremeLevel) :
    let targets := ladderTargets ℚ b s.tree level
    let expected := m.stepTargets (LinuxBackend.loadAverage ℚ s.tree) level
    ladderRapl b targets.ceiling targets.discretePower s
      = (rapl.setPl2Watts (rapl.setPl1Watts s expected.pl1) expected.pl2, expected.pl1) := by
  have hsame : SameRanges s.tree (rapl.setPl1Watts s
      (m.stepTargets (LinuxBackend.loadAverage ℚ s.tree) level).pl1).tree :=
    sameRanges_of_extends (fun _ hw => hw.not_isRange)
      (setPl1Watts_extends (fun _ hw => hw) (fun _ hw => hw.not_isRange) (Extends.refl _ s) _)
  have hpl2 := (boundsOf_congr rapl hsame shortTerm).trans h.pl2
  rw [ladderTargets, h.ncpu]
  intro targets expected
  have hstep : ladderPl1 rapl targets.ceiling targets.discretePower s
      = (rapl.setPl1Watts s expected.pl1, expected.pl1) := by
    rw [ladderPl1, h.pl1]
    rfl
  have hburst : ladderPl2 rapl targets.ceiling targets.discretePower
      (rapl.setPl1Watts s expected.pl1)
      = rapl.setPl2Watts (rapl.setPl1Watts s expected.pl1) expected.pl2 := by
    rw [ladderPl2, LinuxRapl.pl2BoundsWatts, hpl2]
    rfl
  rw [ladderRapl, h.rapl_eq]
  dsimp only
  rw [hstep, hburst]

/-- **The targets are the code's.**  A step with the ladder on reports the targets of its machine. -/
theorem applyLogicStep_of_describes (h : Describes m b s.tree rapl gpu) {config : Config}
    (hon : config.autoExtremeEnabled = true) :
    (applyLogicStep ℚ b s config).2.Reports
      (m.stepTargets (LinuxBackend.loadAverage ℚ s.tree) config.autoExtremeLevel) := by
  have htargets := ladderTargets_of_describes h config.autoExtremeLevel
  have hrapl := ladderRapl_of_describes h config.autoExtremeLevel
  rw [applyLogicStep_result b s hon]
  dsimp only at htargets hrapl
  constructor
  · exact htargets.1
  · exact htargets.2.1
  · exact htargets.2.2.1
  · dsimp only
    rw [hrapl]
  · exact htargets.2.2.2

end Describes

/-- **The shape of the ladder.**  On every machine, in exact arithmetic: all targets grow with the
load and with the mildness of the level together; they stay inside the ranges of the machine; a
load on step 0 gives the minimums and one core, and one on step 1, such as one of all CPUs, the
truncated level ceilings; and with two CPUs or more the cores go from one to at least two.  These
targets are what the code's step reports, and what it writes to the package limits, wherever backend
and tree show it this machine. -/
theorem ladder_shape (m : LadderMachine) :
    (∀ l₁ l₂ a b, 0 ≤ l₁ → l₁ ≤ l₂ → a.mildness ≤ b.mildness →
      (m.stepTargets l₁ a).AtMost (m.stepTargets l₂ b)) ∧
    (∀ l a, 0 ≤ l → (m.stepTargets l a).Inside m) ∧
    (∀ l a, discretePowerOf l m.ncpu = 0 → (m.stepTargets l a).AtMinimums m) ∧
    (∀ l a, discretePowerOf l m.ncpu = 1 → (m.stepTargets l a).AtCeilings m (levelCeiling a)) ∧
    (∀ l a, (m.ncpu : ℚ) ≤ l → (m.stepTargets l a).AtCeilings m (levelCeiling a)) ∧
    (2 ≤ m.ncpu → ∀ a, (m.targetsAt 0 a).cores = 1 ∧ 2 ≤ (m.targetsAt 1 a).cores) ∧
    (∀ b s rapl gpu, Describes m b s.tree rapl gpu → ∀ config : Config,
      config.autoExtremeEnabled = true →
        let expected := m.stepTargets (LinuxBackend.loadAverage ℚ s.tree) config.autoExtremeLevel
        (applyLogicStep ℚ b s config).2.Reports expected ∧
        ladderRapl b (levelCeiling config.autoExtremeLevel)
            (discretePowerOf (LinuxBackend.loadAverage ℚ s.tree) m.ncpu) s
          = (rapl.setPl2Watts (rapl.setPl1Watts s expected.pl1) expected.pl2, expected.pl1)) := by
  have hfull : ∀ l a, discretePowerOf l m.ncpu = 1 →
      (m.stepTargets l a).AtCeilings m (levelCeiling a) := by
    intro l a hstep
    rw [LadderMachine.stepTargets, hstep]
    exact m.targetsAt_one a
  refine ⟨?_, ?_, ?_, hfull, ?_, ?_, ?_⟩
  · intro l₁ l₂ a b h₀ hload hlevel
    exact m.targetsAt_mono (discretePowerOf_mem h₀ m.ncpu).1
      (discretePowerOf_mono h₀ hload m.ncpu) hlevel
  · intro l a h₀
    exact m.targetsAt_inside (discretePowerOf_mem h₀ m.ncpu) a
  · intro l a hstep
    rw [LadderMachine.stepTargets, hstep]
    exact m.targetsAt_zero a
  · intro l a hload
    exact hfull l a (discretePowerOf_full m.one_le_ncpu hload)
  · intro hmany a
    refine ⟨(m.targetsAt_zero a).cores, ?_⟩
    rw [(m.targetsAt_one a).cores]
    exact two_le_coreCeiling hmany _
  · intro b s rapl gpu h config hon
    have hrapl := ladderRapl_of_describes h config.autoExtremeLevel
    rw [ladderTargets, h.ncpu] at hrapl
    exact ⟨applyLogicStep_of_describes h hon, hrapl⟩

/-! ### A machine that is so described -/

/-- One CPU, one card and one zone with both limits, under a load of 1. -/
def rampedLaptop : Tree := .ofFiles
  [(cpufreqNode 0 "cpuinfo_min_freq", "400000\n"), (cpufreqNode 0 "cpuinfo_max_freq", "4200000\n"),
    (drmBase ++ ["card0", "gt_RPn_freq_mhz"], "300\n"),
    (drmBase ++ ["card0", "gt_RP0_freq_mhz"], "1100\n"),
    (drmBase ++ ["card0", gtMaxFreq], "1100\n"),
    (constraintNode "intel-rapl:0" 0 "_name", "long_term\n"),
    (constraintNode "intel-rapl:0" 0 "_max_power_uw", "15000000\n"),
    (constraintNode "intel-rapl:0" 1 "_name", "short_term\n"),
    (constraintNode "intel-rapl:0" 1 "_max_power_uw", "45000000\n"),
    (loadavgPath, "1.00 0.58 0.59 1/467 12345\n")]

def rampedMachine : LadderMachine where
  ncpu := 1
  one_le_ncpu := le_rfl
  cpu := ⟨400, 4200, by decide, by decide⟩
  gpu := ⟨300, 1100, by decide, by decide⟩
  pl1 := ⟨0, 15, by decide, by decide⟩
  pl2 := ⟨0, 45, by decide, by decide⟩

def rampedRapl : LinuxRapl := ⟨["intel-rapl:0"], by decide⟩

theorem rampedLaptop_describes : Describes rampedMachine (LinuxBackend.withRoot .plain rampedLaptop)
    rampedLaptop rampedRapl ⟨"card0", .root⟩ where
  ncpu := by decide +kernel
  cpu := by decide +kernel
  gpu_eq := by decide +kernel
  gpu := by decide +kernel
  rapl_eq := by
    have hdomains : LinuxRapl.discoverDomains rampedLaptop = ["intel-rapl:0"] := by decide +kernel
    show LinuxRapl.withRoot rampedLaptop = _
    simp [LinuxRapl.withRoot, hdomains, rampedRapl]
  pl1 := by decide +kernel
  pl2 := by decide +kernel

/-- At the mildest level the load of its one CPU takes the laptop to the top of its ranges. -/
theorem ladder_shape_rampedLaptop :
    let config := { Config.default with autoExtremeEnabled := true, autoExtremeLevel := .low }
    let expected := rampedMachine.stepTargets (LinuxBackend.loadAverage ℚ rampedLaptop) .low
    (applyLogicStep ℚ (LinuxBackend.withRoot .plain rampedLaptop) (.start rampedLaptop)
        config).2.Reports expected ∧
      expected.AtCeilings rampedMachine (levelCeiling .low) := by
  have hload : LinuxBackend.loadAverage ℚ rampedLaptop = 1 := by decide +kernel
  obtain ⟨-, -, -, -, hfull, -, hcode⟩ := ladder_shape rampedMachine
  refine ⟨(hcode _ (.start rampedLaptop) _ _ rampedLaptop_describes _ rfl).1, hfull _ _ ?_⟩
  rw [hload]
  norm_num [rampedMachine]

end WattWarden
