import WattWarden.Results.MacNumbers

/-!
# What the macOS snapshot says about the text

`mac_health` against the text it parses.  The numbers of a text are exact, those of the snapshot were
read as the nearest doubles.  A cycle count is reported when the key alone is there, the casts
saturate, a number may round to another whole number or to zero, and a quoted text is taken from
whatever line has the next two quotes.

* `MacHealthTrue` — the snapshot exists and every metric of it stands in the text;
* `micro_eq_some_iff` / `isSome_micro_iff` — **PROVED**: a capacity is that of the double nearest to
  the number after its key, and it overflows from 18446744073709552 on;
* `saturated_eq_truncated_iff` — **PROVED**: the cast to `u32` truncates what is between -1 and 2³² and
  does not round up;
* `macHealth_true_iff` — **PROVED**: the texts whose snapshot is true.
-/

namespace WattWarden

open Library.Binary64 Library.DigitRuns Library.Floats Library.Numerals Library.TextSearch
  Library.Truncation

/-! ### What a true snapshot is -/

/-- The capacity is that of the positive number after the key, in micro units. -/
def CapacityOf (text key : List Char) (capacity : ℕ) : Prop :=
  ∃ x, KeyNumber text key x ∧ 0 < x ∧ (capacity : ℤ) = 1000 * ⌊x⌋

/-- No positive number follows the key. -/
def NoCapacity (text key : List Char) : Prop := ∀ x, KeyNumber text key x → x ≤ 0

/-- The full capacity stands in the text, the raw key first. -/
def FullTrue (text : List Char) (f : ℕ) : Prop :=
  CapacityOf text rawCapacityKey f ∨ NoCapacity text rawCapacityKey ∧ CapacityOf text maxCapacityKey f

/-- A quoted `v` follows the key on its line. -/
def QuotedOnLine (text key : List Char) (v : String) : Prop :=
  ∃ gap value, KeyQuoted text key gap value ∧ '\n' ∉ gap ∧ '\n' ∉ value ∧ v = String.ofList value

/-- Every metric of the snapshot stands in the text. -/
structure MetricsTrue (text : List Char) (health : BatteryHealth Double) : Prop where
  full : ∀ f, health.full = some f → FullTrue text f
  design : ∀ d, health.design = some d → CapacityOf text designCapacityKey d
  cycleCount : ∀ n, health.cycleCount = some n →
    ∃ x, KeyNumber text cycleCountKey x ∧ (n : ℤ) = truncated x
  tempC : ∀ t, health.tempC = some t →
    ∃ x, KeyNumber text temperatureKey x ∧ t = (Double.ofRat x).div (Double.ofRat 100)
  model : ∀ v, health.model = some v → QuotedOnLine text deviceNameKey v
  manufacturer : health.manufacturer = none
  serial : ∀ v, health.serial = some v → QuotedOnLine text serialKey v

/-- Nothing overflows, and every metric of the snapshot stands in the text. -/
def MacHealthTrue (text : String) : Prop :=
  ∃ health, macHealth text = some health ∧ MetricsTrue text.toList health

/-! ### Capacities -/

/-- The double nearest to the number is positive. -/
def NearPositive (x : ℚ) : Prop := 2 ^ (-1075 : ℤ) < x

theorem NearPositive.pos {x : ℚ} (h : NearPositive x) : 0 < x := (zpow_pos two_pos _).trans h

/-- The number after the key, unless it rounds to zero, is small enough to be scaled, and rounding to a
double does not change its whole part. -/
def CapacityFits (text key : List Char) : Prop :=
  ∀ x, KeyNumber text key x → NearPositive x → x < 18446744073709552 ∧ KeepsWhole x

/-- The scaled capacity, where it fits the type. -/
theorem mulU64_toUnsigned_eq_some_iff {x : ℚ} {capacity : ℕ} (h : NearPositive x) :
    mulU64 ((Double.ofRat x).toUnsigned (2 ^ 64)) 1000 = some capacity ↔
      (capacity : ℤ) = 1000 * ⌊nearest x⌋ ∧ ⌊nearest x⌋ < 18446744073709552 := by
  have hfloor : 0 ≤ ⌊nearest x⌋ := Int.floor_nonneg.mpr (nearest_nonneg h.pos.le)
  rw [Double.toUnsigned_ofRat (two_pow_le_overflow (by decide)), toUnsigned_eq, mulU64]
  split_ifs with hfits
  · rw [Option.some_inj]
    omega
  · simp only [false_iff]
    omega

/-- The filter passes the numbers that do not round to zero. -/
theorem filter_macNumberOpt_iff {text key : List Char} {v : Double} :
    (macNumberOpt text key).filter (Double.lt 0) = some v ↔
      ∃ x, KeyNumber text key x ∧ NearPositive x ∧ v = Double.ofRat x := by
  rw [Option.filter_eq_some_iff, macNumberOpt_iff]
  constructor
  · rintro ⟨⟨x, hx, rfl⟩, hlt⟩
    rw [Double.zero_lt_ofRat, decide_eq_true_iff, nearest_pos_iff] at hlt
    exact ⟨x, hx, hlt, rfl⟩
  · rintro ⟨x, hx, hnear, rfl⟩
    refine ⟨⟨x, hx, rfl⟩, ?_⟩
    rw [Double.zero_lt_ofRat, decide_eq_true_iff, nearest_pos_iff]
    exact hnear

/-- `micro` answers a capacity when a small enough number follows the key: that of the nearest
double. -/
theorem micro_eq_some_iff {text key : List Char} {capacity : ℕ} :
    micro text key = some (some capacity) ↔
      ∃ x, KeyNumber text key x ∧ NearPositive x ∧ (capacity : ℤ) = 1000 * ⌊nearest x⌋ ∧
        ⌊nearest x⌋ < 18446744073709552 := by
  rw [micro]
  constructor
  · intro h
    cases hnumber : (macNumberOpt text key).filter (Double.lt 0) with
    | none =>
      rw [hnumber] at h
      cases h
    | some v =>
      rw [hnumber] at h
      obtain ⟨x, hkey, hnear, rfl⟩ := filter_macNumberOpt_iff.mp hnumber
      obtain ⟨_, hmul, heq⟩ := Option.map_eq_some_iff.mp h
      obtain rfl := Option.some.inj heq
      exact ⟨x, hkey, hnear, (mulU64_toUnsigned_eq_some_iff hnear).mp hmul⟩
  · rintro ⟨x, hkey, hnear, hcapacity⟩
    rw [filter_macNumberOpt_iff.mpr ⟨x, hkey, hnear, rfl⟩]
    exact Option.map_eq_some_iff.mpr
      ⟨capacity, (mulU64_toUnsigned_eq_some_iff hnear).mpr hcapacity, rfl⟩

/-- `micro` answers that there is no capacity when every number after the key rounds to zero
or below. -/
theorem micro_eq_none_iff {text key : List Char} :
    micro text key = some none ↔ ∀ x, KeyNumber text key x → ¬NearPositive x := by
  rw [micro]
  cases hnumber : (macNumberOpt text key).filter (Double.lt 0) with
  | none =>
    refine iff_of_true rfl fun x hx hnear => ?_
    rw [filter_macNumberOpt_iff.mpr ⟨x, hx, hnear, rfl⟩] at hnumber
    cases hnumber
  | some v =>
    obtain ⟨x, hkey, hnear, -⟩ := filter_macNumberOpt_iff.mp hnumber
    refine iff_of_false (fun h => ?_) fun h => h x hkey hnear
    obtain ⟨_, -, heq⟩ := Option.map_eq_some_iff.mp h
    cases heq

/-- `micro` overflows on the other numbers. -/
theorem isSome_micro_iff {text key : List Char} :
    (∃ capacity, micro text key = some capacity) ↔
      ∀ x, KeyNumber text key x → NearPositive x → ⌊nearest x⌋ < 18446744073709552 := by
  constructor
  · rintro ⟨_ | capacity, h⟩ x hx hnear
    · exact absurd hnear (micro_eq_none_iff.mp h x hx)
    · obtain ⟨y, hy, -, -, hlt⟩ := micro_eq_some_iff.mp h
      exact hx.unique hy ▸ hlt
  · intro h
    by_cases hnone : ∀ x, KeyNumber text key x → ¬NearPositive x
    · exact ⟨none, micro_eq_none_iff.mpr hnone⟩
    · push Not at hnone
      obtain ⟨x, hx, hnear⟩ := hnone
      have hfloor : 0 ≤ ⌊nearest x⌋ := Int.floor_nonneg.mpr (nearest_nonneg hnear.pos.le)
      exact ⟨some (1000 * ⌊nearest x⌋.toNat), micro_eq_some_iff.mpr
        ⟨x, hx, hnear, by omega, h x hx hnear⟩⟩

/-- The whole part of the nearest double is small enough and that of the number. -/
theorem fits_iff {x : ℚ} (h : NearPositive x) :
    ⌊nearest x⌋ < 18446744073709552 ∧ ⌊nearest x⌋ = ⌊x⌋ ↔ x < 18446744073709552 ∧ KeepsWhole x := by
  have hlt : x < 18446744073709552 ↔ ⌊x⌋ < 18446744073709552 := by
    rw [Int.floor_lt]
    norm_num
  rw [floor_nearest_iff h.pos.le, hlt]
  exact and_congr_left fun hkept => by rw [(floor_nearest_iff h.pos.le).mpr hkept]

/-- **A capacity is true** when the number after its key fits. -/
theorem micro_true_iff {text key : List Char} :
    (∃ capacity, micro text key = some capacity ∧ ∀ c, capacity = some c → CapacityOf text key c) ↔
      CapacityFits text key := by
  constructor
  · rintro ⟨capacity, hmicro, htrue⟩ x hx hnear
    have hlt := isSome_micro_iff.mp ⟨capacity, hmicro⟩ x hx hnear
    have hfloor : 0 ≤ ⌊nearest x⌋ := Int.floor_nonneg.mpr (nearest_nonneg hnear.pos.le)
    have hvalue : micro text key = some (some (1000 * ⌊nearest x⌋.toNat)) :=
      micro_eq_some_iff.mpr ⟨x, hx, hnear, by omega, hlt⟩
    obtain ⟨y, hy, -, hcapacity⟩ := htrue _ (Option.some.inj (hmicro.symm.trans hvalue))
    obtain rfl := hx.unique hy
    exact (fits_iff hnear).mp ⟨hlt, by omega⟩
  · intro h
    obtain ⟨capacity, hmicro⟩ := isSome_micro_iff.mpr fun x hx hnear =>
      ((fits_iff hnear).mpr (h x hx hnear)).1
    refine ⟨capacity, hmicro, ?_⟩
    rintro c rfl
    obtain ⟨x, hx, hnear, hcapacity, -⟩ := micro_eq_some_iff.mp hmicro
    rw [((fits_iff hnear).mpr (h x hx hnear)).2] at hcapacity
    exact ⟨x, hx, hnear.pos, hcapacity⟩

/-! ### The full capacity -/

/-- The full capacity: the raw key first. -/
def fullCapacity (text : List Char) : Option (Option ℕ) := do
  let raw ← micro text rawCapacityKey
  if raw.isSome then some raw else micro text maxCapacityKey

/-- The numbers after both keys fit where they are looked up.  A positive raw capacity that
rounds to zero has no whole part; the other, which is then reported in its place, has none either. -/
structure FullFits (text : List Char) : Prop where
  raw : CapacityFits text rawCapacityKey
  max : (∀ x, KeyNumber text rawCapacityKey x → ¬NearPositive x) → CapacityFits text maxCapacityKey
  lost : ∀ x, KeyNumber text rawCapacityKey x → 0 < x → ¬NearPositive x →
    ∀ y, KeyNumber text maxCapacityKey y → NearPositive y → y < 1

theorem fullCapacity_of_near {text : List Char} {x : ℚ} (hx : KeyNumber text rawCapacityKey x)
    (hnear : NearPositive x) : fullCapacity text = micro text rawCapacityKey := by
  rw [fullCapacity]
  cases hmicro : micro text rawCapacityKey with
  | none => rfl
  | some raw =>
    cases raw with
    | none => exact absurd hnear (micro_eq_none_iff.mp hmicro x hx)
    | some f => rfl

theorem fullCapacity_of_rounded {text : List Char}
    (h : ∀ x, KeyNumber text rawCapacityKey x → ¬NearPositive x) :
    fullCapacity text = micro text maxCapacityKey := by
  rw [fullCapacity, micro_eq_none_iff.mpr h]
  rfl

/-- A positive number that rounds to zero has no whole part. -/
theorem floor_of_rounded {x : ℚ} (hpos : 0 < x) (h : ¬NearPositive x) : ⌊x⌋ = 0 := by
  have hlt : (2 : ℚ) ^ (-1075 : ℤ) < 2 ^ (0 : ℤ) := zpow_lt_zpow_right₀ one_lt_two (by norm_num)
  rw [Int.floor_eq_zero_iff]
  exact ⟨hpos.le, (not_lt.mp h).trans_lt (by rwa [zpow_zero] at hlt)⟩

/-- Nothing up to one rounds below one. -/
theorem lt_one_of_floor_nearest {y : ℚ} (h : ⌊nearest y⌋ = 0) : y < 1 := by
  by_contra hge
  have hone : (1 : ℚ) ≤ nearest y := by
    have hmono := nearest_mono (not_lt.mp hge)
    rwa [show nearest 1 = 1 from binary64.one] at hmono
  exact absurd (Int.le_floor.mpr (by exact_mod_cast hone) : (1 : ℤ) ≤ ⌊nearest y⌋) (by omega)

/-- Unless the raw number rounds to zero, the other key is not looked up. -/
theorem fullCapacity_true_iff_of_near {text : List Char} {x : ℚ}
    (hx : KeyNumber text rawCapacityKey x) (hnear : NearPositive x) :
    (∃ full, fullCapacity text = some full ∧ ∀ f, full = some f → FullTrue text f) ↔
      FullFits text := by
  have hsome : ¬NoCapacity text rawCapacityKey := fun h => absurd (h x hx) (not_le.mpr hnear.pos)
  have htrue : ∀ f, FullTrue text f ↔ CapacityOf text rawCapacityKey f := fun f =>
    or_iff_left fun h => hsome h.1
  simp only [fullCapacity_of_near hx hnear, htrue, micro_true_iff]
  exact ⟨fun h => ⟨h, fun hno => absurd hnear (hno x hx), fun y hy _ hno =>
    absurd (hx.unique hy ▸ hnear) hno⟩, FullFits.raw⟩

/-- With no positive raw number, the other key decides. -/
theorem fullCapacity_true_iff_of_none {text : List Char} (h : NoCapacity text rawCapacityKey) :
    (∃ full, fullCapacity text = some full ∧ ∀ f, full = some f → FullTrue text f) ↔
      FullFits text := by
  have hround : ∀ x, KeyNumber text rawCapacityKey x → ¬NearPositive x := fun x hx hnear =>
    absurd (h x hx) (not_le.mpr hnear.pos)
  have htrue : ∀ f, FullTrue text f ↔ CapacityOf text maxCapacityKey f := by
    intro f
    rw [FullTrue, and_iff_right h]
    exact or_iff_right fun ⟨x, hx, hpos, _⟩ => absurd (h x hx) (not_le.mpr hpos)
  simp only [fullCapacity_of_rounded hround, htrue, micro_true_iff]
  exact ⟨fun hmax => ⟨fun x hx hnear => absurd hnear (hround x hx), fun _ => hmax, fun x hx hpos =>
    absurd (h x hx) (not_le.mpr hpos)⟩, fun hfits => hfits.max hround⟩

/-- A positive raw number that rounds to zero is passed over, and its capacity is zero. -/
theorem fullCapacity_true_iff_of_lost {text : List Char} {x : ℚ}
    (hx : KeyNumber text rawCapacityKey x) (hpos : 0 < x) (hlost : ¬NearPositive x) :
    (∃ full, fullCapacity text = some full ∧ ∀ f, full = some f → FullTrue text f) ↔
      FullFits text := by
  have hround : ∀ y, KeyNumber text rawCapacityKey y → ¬NearPositive y := fun y hy =>
    hx.unique hy ▸ hlost
  have hsome : ¬NoCapacity text rawCapacityKey := fun h => absurd (h x hx) (not_le.mpr hpos)
  have htrue : ∀ f, FullTrue text f ↔ f = 0 := by
    intro f
    rw [FullTrue, or_iff_left fun h => hsome h.1]
    constructor
    · rintro ⟨y, hy, -, hf⟩
      rw [← hx.unique hy, floor_of_rounded hpos hlost] at hf
      omega
    · rintro rfl
      exact ⟨x, hx, hpos, by rw [floor_of_rounded hpos hlost]; rfl⟩
  simp only [fullCapacity_of_rounded hround, htrue]
  constructor
  · rintro ⟨full, hmicro, hzero⟩
    have hfloor : ∀ y, KeyNumber text maxCapacityKey y → NearPositive y →
        ⌊nearest y⌋ < 18446744073709552 ∧ ⌊nearest y⌋ = 0 := by
      intro y hy hnear
      have hlt := isSome_micro_iff.mp ⟨full, hmicro⟩ y hy hnear
      have hnonneg : 0 ≤ ⌊nearest y⌋ := Int.floor_nonneg.mpr (nearest_nonneg hnear.pos.le)
      have hvalue : micro text maxCapacityKey = some (some (1000 * ⌊nearest y⌋.toNat)) :=
        micro_eq_some_iff.mpr ⟨y, hy, hnear, by omega, hlt⟩
      have hnone := hzero _ (Option.some.inj (hmicro.symm.trans hvalue))
      omega
    refine ⟨fun y hy hnear => absurd hnear (hround y hy), fun _ y hy hnear => ?_,
      fun _ _ _ _ y hy hnear => lt_one_of_floor_nearest (hfloor y hy hnear).2⟩
    have hless := lt_one_of_floor_nearest (hfloor y hy hnear).2
    have hwhole : ⌊y⌋ = 0 := Int.floor_eq_zero_iff.mpr ⟨hnear.pos.le, hless⟩
    exact (fits_iff hnear).mp ⟨(hfloor y hy hnear).1, (hfloor y hy hnear).2.trans hwhole.symm⟩
  · intro h
    obtain ⟨full, hmicro, hcapacity⟩ := micro_true_iff.mpr (h.max hround)
    refine ⟨full, hmicro, ?_⟩
    rintro f rfl
    obtain ⟨y, hy, hnear, hf, -⟩ := micro_eq_some_iff.mp hmicro
    have hwhole : ⌊y⌋ = 0 :=
      Int.floor_eq_zero_iff.mpr ⟨hnear.pos.le, h.lost x hx hpos hlost y hy hnear⟩
    rw [((fits_iff hnear).mpr (h.max hround y hy hnear)).2, hwhole] at hf
    omega

/-- **The full capacity is true** where what is looked up fits. -/
theorem fullCapacity_true_iff (text : List Char) :
    (∃ full, fullCapacity text = some full ∧ ∀ f, full = some f → FullTrue text f) ↔
      FullFits text := by
  by_cases hnone : NoCapacity text rawCapacityKey
  · exact fullCapacity_true_iff_of_none hnone
  · rw [NoCapacity] at hnone
    push Not at hnone
    obtain ⟨x, hx, hpos⟩ := hnone
    by_cases hnear : NearPositive x
    · exact fullCapacity_true_iff_of_near hx hnear
    · exact fullCapacity_true_iff_of_lost hx hpos hnear

/-! ### The cycle count -/

/-- A number in the range of the cycle count follows the key, if the key is there, and rounding to a
double does not change its whole part, unless the end of the type does that for it. -/
def CycleCountFits (text : List Char) : Prop :=
  cycleCountKey <:+: text → ∃ x, KeyNumber text cycleCountKey x ∧ -1 < x ∧ x < 2 ^ 32 ∧
    (0 ≤ x → x < 2 ^ 32 - 1 → KeepsWhole x)

/-- **The cast truncates** only what is between the ends of the type and does not round up. -/
theorem saturated_eq_truncated_iff (x : ℚ) :
    ((Double.ofRat x).toUnsigned (2 ^ 32) : ℤ) = truncated x ↔
      -1 < x ∧ x < 2 ^ 32 ∧ (0 ≤ x → x < 2 ^ 32 - 1 → KeepsWhole x) := by
  rw [Double.toUnsigned_ofRat (two_pow_le_overflow (by decide)), toUnsigned_eq]
  rcases le_or_gt 0 x with hx | hneg
  · have hfloor : 0 ≤ ⌊x⌋ := Int.floor_nonneg.mpr hx
    have hnearest : 0 ≤ ⌊nearest x⌋ := Int.floor_nonneg.mpr (nearest_nonneg hx)
    have hlt : x < 2 ^ 32 ↔ ⌊x⌋ < 2 ^ 32 := by
      rw [Int.floor_lt]
      norm_num
    have hend : x < 2 ^ 32 - 1 ↔ ⌊x⌋ < 2 ^ 32 - 1 := by
      rw [Int.floor_lt]
      norm_num
    -- the last number of the type is kept
    have hlast : 2 ^ 32 - 1 ≤ ⌊x⌋ → 2 ^ 32 - 1 ≤ ⌊nearest x⌋ := by
      intro hle
      have hmono := nearest_mono (Int.le_floor.mp hle)
      rw [nearest_intCast (by norm_num)] at hmono
      exact Int.le_floor.mpr hmono
    have hminus : -1 < x := by linarith
    rw [truncated_of_nonneg hx, and_iff_right hminus, imp_iff_right hx, hlt, hend,
      ← floor_nearest_iff hx]
    omega
  · have hround : ⌊nearest x⌋ ≤ 0 := by
      have hmono := nearest_mono hneg.le
      rw [show nearest 0 = 0 from binary64.zero] at hmono
      exact_mod_cast (Int.floor_le _).trans hmono
    have hlt : x < 2 ^ 32 := hneg.trans (by norm_num)
    have hceil : ⌈x⌉ = 0 ↔ -1 < x := by
      rw [Int.ceil_eq_zero_iff]
      exact ⟨And.left, fun h => ⟨h, hneg.le⟩⟩
    have hvacuous : 0 ≤ x → x < 2 ^ 32 - 1 → KeepsWhole x := fun h => absurd h (not_le.mpr hneg)
    rw [truncated_of_nonpos hneg.le, and_iff_left ⟨hlt, hvacuous⟩, ← hceil]
    omega

/-- The key is in the text when something follows its first occurrence. -/
theorem isSome_afterFirst_iff {text key : List Char} :
    (afterFirst key text).isSome ↔ key <:+: text := by
  rw [← not_iff_not, Option.not_isSome_iff_eq_none, afterFirst_eq_none_iff]
  constructor
  · rintro h ⟨before, after, heq⟩
    exact h before after (by rw [← heq, List.append_assoc])
  · intro h before after heq
    exact h ⟨before, after, by rw [heq, List.append_assoc]⟩

/-- `cycle_count` is true when the number after the key is in range. -/
theorem cycleCount_true_iff {text : List Char} :
    (∀ n, (if (afterFirst cycleCountKey text).isSome then
        some ((macNumberAfter text cycleCountKey).toUnsigned (2 ^ 32)) else none)
          = some n → ∃ x, KeyNumber text cycleCountKey x ∧ (n : ℤ) = truncated x) ↔
      CycleCountFits text := by
  have hafter : ∀ {x}, KeyNumber text cycleCountKey x →
      macNumberAfter text cycleCountKey = Double.ofRat x := by
    intro x hx
    rw [macNumberAfter, macNumberOpt_iff.mpr ⟨x, hx, rfl⟩, Option.getD_some]
  constructor
  · intro h hkey
    obtain ⟨x, hx, hvalue⟩ := h _ (if_pos (isSome_afterFirst_iff.mpr hkey))
    rw [hafter hx] at hvalue
    exact ⟨x, hx, (saturated_eq_truncated_iff x).mp hvalue⟩
  · intro h n hn
    split_ifs at hn with hkey
    obtain ⟨x, hx, hrange⟩ := h (isSome_afterFirst_iff.mp hkey)
    rw [hafter hx] at hn
    exact ⟨x, hx, Option.some.inj hn ▸ (saturated_eq_truncated_iff x).mpr hrange⟩

/-! ### The quoted texts -/

/-- The quoted text after the key, if there is one, is on the line of the key. -/
def QuotedTextOnLine (text key : List Char) : Prop :=
  ∀ gap value, KeyQuoted text key gap value → '\n' ∉ gap ∧ '\n' ∉ value

/-- A key has one quoted text. -/
theorem KeyQuoted.unique {text key gap value gap' value' : List Char}
    (h : KeyQuoted text key gap value) (h' : KeyQuoted text key gap' value') :
    gap = gap' ∧ value = value' := by
  obtain ⟨before, after, hfirst, hgap, hvalue, -⟩ := h
  obtain ⟨before', after', hfirst', hgap', hvalue', -⟩ := h'
  have hopen := splitOnce_eq_some_iff.mpr ⟨(hfirst.unique hfirst').2, hgap'⟩
  rw [splitOnce_eq_some_iff.mpr ⟨rfl, hgap⟩, Option.some_inj, Prod.mk.injEq] at hopen
  have hclose := splitOnce_eq_some_iff.mpr ⟨hopen.2, hvalue'⟩
  rw [splitOnce_eq_some_iff.mpr ⟨rfl, hvalue⟩, Option.some_inj, Prod.mk.injEq] at hclose
  exact ⟨hopen.1, hclose.1⟩

/-- A quoted field is true when the next quoted text is on the line of the key. -/
theorem macStringAfter_true_iff {text key : List Char} :
    (∀ v, macStringAfter text key = some v → QuotedOnLine text key v) ↔
      QuotedTextOnLine text key := by
  constructor
  · intro h gap value hquoted
    obtain ⟨gap', value', hquoted', hgap, hvalue, -⟩ :=
      h (String.ofList value) (macStringAfter_iff.mpr ⟨gap, value, hquoted, rfl⟩)
    obtain ⟨rfl, rfl⟩ := hquoted.unique hquoted'
    exact ⟨hgap, hvalue⟩
  · intro h v hv
    obtain ⟨gap, value, hquoted, heq⟩ := macStringAfter_iff.mp hv
    obtain ⟨hgap, hvalue⟩ := h gap value hquoted
    exact ⟨gap, value, hquoted, hgap, hvalue, heq⟩

/-! ### The snapshot -/

/-- The numbers of the text are in the range of their metrics and do not round to other whole numbers,
and the quoted texts are on the lines of their keys. -/
structure Trustworthy (text : List Char) : Prop where
  full : FullFits text
  design : CapacityFits text designCapacityKey
  cycleCount : CycleCountFits text
  deviceName : QuotedTextOnLine text deviceNameKey
  serial : QuotedTextOnLine text serialKey

/-- The snapshot is built from the two capacities, when neither overflows. -/
theorem macHealth_eq (text : String) :
    macHealth text = (fullCapacity text.toList).bind fun full =>
      (micro text.toList designCapacityKey).bind fun design =>
        let cycleCount :=
          if (afterFirst cycleCountKey text.toList).isSome then
            some ((macNumberAfter text.toList cycleCountKey).toUnsigned (2 ^ 32))
          else none
        some {
          present := full.isSome || design.isSome || cycleCount.isSome
          full := full
          design := design
          unit := if full.isSome || design.isSome then some .chargeUah else none
          cycleCount := cycleCount
          tempC := (macNumberOpt text.toList temperatureKey).map fun t => t.div (Double.ofRat 100)
          model := macStringAfter text.toList deviceNameKey
          manufacturer := none
          serial := macStringAfter text.toList serialKey } := by
  rw [fullCapacity, macHealth]
  cases hraw : micro text.toList rawCapacityKey with
  | none => rfl
  | some raw =>
    cases raw with
    | none => rfl
    | some f => rfl

/-- **The snapshot is true** exactly of the texts whose numbers fit and whose quoted texts are on the
lines of their keys. -/
theorem macHealth_true_iff (text : String) : MacHealthTrue text ↔ Trustworthy text.toList := by
  rw [MacHealthTrue, macHealth_eq]
  constructor
  · intro hgiven
    obtain ⟨health, h, htrue⟩ := hgiven
    obtain ⟨full, hfull, h⟩ := Option.bind_eq_some_iff.mp h
    obtain ⟨design, hdesign, h⟩ := Option.bind_eq_some_iff.mp h
    obtain rfl := Option.some.inj h
    exact ⟨(fullCapacity_true_iff _).mp ⟨full, hfull, htrue.full⟩,
      micro_true_iff.mp ⟨design, hdesign, htrue.design⟩, cycleCount_true_iff.mp htrue.cycleCount,
      macStringAfter_true_iff.mp htrue.model, macStringAfter_true_iff.mp htrue.serial⟩
  · intro h
    obtain ⟨full, hfull, hfullTrue⟩ := (fullCapacity_true_iff _).mpr h.full
    obtain ⟨design, hdesign, hdesignTrue⟩ := micro_true_iff.mpr h.design
    refine ⟨_, Option.bind_eq_some_iff.mpr ⟨full, hfull,
      Option.bind_eq_some_iff.mpr ⟨design, hdesign, rfl⟩⟩, ?_⟩
    constructor
    · exact hfullTrue
    · exact hdesignTrue
    · exact cycleCount_true_iff.mpr h.cycleCount
    · intro t ht
      obtain ⟨v, hv, rfl⟩ := Option.map_eq_some_iff.mp ht
      obtain ⟨x, hx, rfl⟩ := macNumberOpt_iff.mp hv
      exact ⟨x, hx, rfl⟩
    · exact macStringAfter_true_iff.mpr h.deviceName
    · rfl
    · exact macStringAfter_true_iff.mpr h.serial

/-- A cycle count of no number: the snapshot says 0 cycles. -/
theorem macHealth_untrue_cycles : ¬MacHealthTrue "\"CycleCount\" = n/a" := by
  intro hgiven
  obtain ⟨health, h, htrue⟩ := hgiven
  have hcount : health.cycleCount = some 0 := by
    rw [← Option.some.inj h]
    decide
  obtain ⟨x, hx, -⟩ := htrue.cycleCount 0 hcount
  have hnone : macNumberOpt "\"CycleCount\" = n/a".toList cycleCountKey = none := by decide
  rw [macNumberOpt_iff.mpr ⟨x, hx, rfl⟩] at hnone
  cases hnone

end WattWarden
