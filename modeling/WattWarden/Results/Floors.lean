import WattWarden.Platform.Plans
import WattWarden.Library.Scales
import Mathlib.Order.Bounds.Basic

/-!
# The floors the hardware declares

A declared floor goes to whole watts or megahertz before a limit is clamped to it, and back before
the limit is written.

* `slot_floor_eq`, `discovered_floor_eq` — **PROVED**: the discovered floors are the declared ones in
  the coarser unit;
* `WholeUnits` — a floor that survives the way there and back;
* `writes_above_floors_iff` — **PROVED**: when every limit that is written is at least the floor the
  hardware declares for it.
-/

namespace WattWarden

open Library.FileTree Library.Journaling Library.Numerals Library.Scales

/-- A floor that is a whole number of units of `k`, one that fits `u32`. -/
def WholeUnits (k floor : ℕ) : Prop := k ∣ floor ∧ floor / k < 2 ^ 32

instance (k floor : ℕ) : Decidable (WholeUnits k floor) := inferInstanceAs (Decidable (_ ∧ _))

/-- A limit clamped from a coarse floor reaches the floor when that is exact, or when both the
request and the ceiling reach it. -/
theorem le_clamp_mul_iff {k floor lo hi x : ℕ} (hk : 0 < k) (hlo : lo = coarse k (2 ^ 32) floor)
    (hrange : lo < hi) :
    floor ≤ clamp lo hi x * k ↔ WholeUnits k floor ∨ (floor ≤ x * k ∧ floor ≤ hi * k) := by
  have hexact : floor ≤ lo * k ↔ WholeUnits k floor := by
    rw [hlo]
    exact le_coarse_mul_iff hk (by decide)
  have hspan : lo * k ≤ hi * k := Nat.mul_le_mul_right k (le_of_lt hrange)
  rw [← hexact, clamp]
  split
  · rename_i hx
    have hbelow : x * k ≤ lo * k := Nat.mul_le_mul_right k (le_of_lt hx)
    omega
  · rename_i hx
    have habove : lo * k ≤ x * k := Nat.mul_le_mul_right k (not_lt.mp hx)
    split
    · rename_i hhi
      have hover : hi * k ≤ x * k := Nat.mul_le_mul_right k (le_of_lt hhi)
      omega
    · rename_i hhi
      have hunder : x * k ≤ hi * k := Nat.mul_le_mul_right k (not_lt.mp hhi)
      omega

/-! ### Watts -/

/-- The floor of a slot, in microwatts, when the slot exposes it. -/
def declaredMinUw (t : Tree) (zone : String) (i : ℕ) : Option ℕ :=
  SysfsRoot.readU64 t (constraintNode zone i "_min_power_uw")

/-- **The floor of a slot.**  It is the declared one in whole watts. -/
theorem slot_floor_eq {t : Tree} {zone : String} {i lo hi minUw : ℕ}
    (h : constraintBoundsWattsIn t zone i = some (lo, hi))
    (hmin : declaredMinUw t zone i = some minUw) : lo = coarse 1000000 (2 ^ 32) minUw := by
  rw [declaredMinUw] at hmin
  rw [constraintBoundsWattsIn, hmin] at h
  split at h
  · cases h
  · split at h
    · cases h
    · dsimp only at h
      split at h
      · cases h
      · exact (congrArg Prod.fst (Option.some.inj h)).symm

/-! ### Megahertz -/

/-- The valid `cpuinfo_min_freq` values of the listed CPUs, in kHz. -/
def validFloors (cpu : LinuxCpuGovernor) (t : Tree) : Set ℤ :=
  {khz | ∃ id ∈ cpu.cpuIds, ∃ hi, cpuinfoPair t id = some (khz, hi)}

/-- **The discovery loop takes the minimum** of the floors it comes across and the one it started
with. -/
theorem widen_fst (t : Tree) (ids : List ℕ) : ∀ acc, (ids.foldl (widen t) acc).1
    = (acc.1.toList ++ (ids.filterMap (cpuinfoPair t)).map Prod.fst).min? := by
  induction ids with
  | nil =>
    intro acc
    obtain ⟨lowest, highest⟩ := acc
    cases lowest <;> rfl
  | cons id ids ih =>
    intro acc
    rw [List.foldl_cons, ih, widen]
    cases hpair : cpuinfoPair t id with
    | none => rw [List.filterMap_cons_none hpair]
    | some pair =>
      obtain ⟨lowest, highest⟩ := acc
      rw [List.filterMap_cons_some hpair]
      cases lowest <;> rfl

/-- The floors as the loop comes across them. -/
theorem mem_validFloors {cpu : LinuxCpuGovernor} {t : Tree} {khz : ℤ} :
    khz ∈ (cpu.cpuIds.filterMap (cpuinfoPair t)).map Prod.fst ↔ khz ∈ validFloors cpu t := by
  simp only [List.mem_map, List.mem_filterMap, Prod.exists]
  constructor
  · intro h
    obtain ⟨lo, hi, ⟨id, hid, hpair⟩, rfl⟩ := h
    exact ⟨id, hid, hi, hpair⟩
  · intro h
    obtain ⟨id, hid, hi, hpair⟩ := h
    exact ⟨khz, hi, ⟨id, hid, hpair⟩, rfl⟩

/-- **The discovered floor.**  It is the smallest valid one in whole megahertz. -/
theorem discovered_floor_eq {cpu : LinuxCpuGovernor} {t : Tree} {lo hi : ℕ}
    (h : cpu.discoveredFreqBounds t = some (lo, hi)) :
    ∃ khz : ℕ, IsLeast (validFloors cpu t) khz ∧ lo = coarse 1000 (2 ^ 32) khz := by
  rw [LinuxCpuGovernor.discoveredFreqBounds] at h
  split at h
  · rename_i minKhz maxKhz hfold
    have hmin := widen_fst t cpu.cpuIds (none, none)
    rw [hfold] at hmin
    have hleast : IsLeast (validFloors cpu t) minKhz := by
      obtain ⟨hmem, hall⟩ := List.min?_eq_some_iff.mp hmin.symm
      exact ⟨mem_validFloors.mp hmem, fun khz hkhz => hall khz (mem_validFloors.mpr hkhz)⟩
    obtain ⟨id, -, hi', hpair⟩ := hleast.1
    have hpos := (cpuinfoPair_pos hpair).1
    obtain ⟨khz, rfl⟩ := Int.eq_ofNat_of_zero_le (le_of_lt hpos)
    refine ⟨khz, hleast, ?_⟩
    dsimp only at h
    split at h
    · cases h
    · have hlo : ((khz : ℤ) / 1000 % 2 ^ 32).toNat = lo := congrArg Prod.fst (Option.some.inj h)
      rw [coarse]
      omega
  · cases h

/-- The range reaches down to the declared floor when that is whole megahertz. -/
theorem discovered_floor_reached {cpu : LinuxCpuGovernor} {t : Tree} {lo hi floor : ℕ}
    (h : cpu.discoveredFreqBounds t = some (lo, hi)) (hfloor : IsLeast (validFloors cpu t) floor) :
    floor ≤ lo * 1000 ↔ WholeUnits 1000 floor := by
  obtain ⟨khz, hleast, hlo⟩ := discovered_floor_eq h
  have hsame : khz = floor := by exact_mod_cast hleast.unique hfloor
  rw [← hsame, hlo]
  exact le_coarse_mul_iff (by omega) (by omega)

/-! ### What is written -/

section Written

variable {t : Tree}

/-- Every limit written to a slot is at least what the slot declares. -/
def WattsAboveFloor (rapl : LinuxRapl) (t : Tree) (name : String) (watts : ℕ) : Prop :=
  ∀ w ∈ (rapl.writeConstraint (.start t) name watts).1.log, ∀ zone i minUw,
    w.path = constraintNode zone i "_power_limit_uw" → declaredMinUw t zone i = some minUw →
      ∃ uw, w.value = decimal uw ∧ minUw ≤ uw

/-- Every limit written to a CPU is at least the smallest valid floor. -/
def KhzAboveFloor (cpu : LinuxCpuGovernor) (t : Tree) (mhz : ℕ) : Prop :=
  ∀ w ∈ (cpu.setFreqLimit (.start t) mhz).log, ∀ id,
    (w.path = cpufreqNode id "scaling_min_freq" ∨ w.path = cpufreqNode id "scaling_max_freq") →
      ∀ floor, IsLeast (validFloors cpu t) floor → ∃ khz : ℕ, w.value = decimal khz ∧ floor ≤ khz

theorem wattsAboveFloor_iff (rapl : LinuxRapl) (name : String) (watts : ℕ) :
    WattsAboveFloor rapl t name watts ↔
      ∀ zone ∈ rapl.domains, ∀ i lo hi minUw, constraintIndexIn t zone name = some i →
        constraintBoundsWattsIn t zone i = some (lo, hi) →
        t.pathExists (constraintNode zone i "_power_limit_uw") = true →
        declaredMinUw t zone i = some minUw →
          WholeUnits 1000000 minUw ∨ (minUw ≤ watts * 1000000 ∧ minUw ≤ hi * 1000000) := by
  rw [WattsAboveFloor, writeConstraint_eq (SameMachine.refl t)]
  simp only [Journal.mem_log_writeAll, mem_raplPlan]
  constructor
  · intro h zone hzone i lo hi minUw hslot hbounds hexists hmin
    obtain ⟨uw, huw, hle⟩ :=
      h _ ⟨zone, hzone, i, lo, hi, hslot, hbounds, hexists, rfl⟩ zone i minUw rfl hmin
    have hvalue : clamp lo hi watts * 1000000 = uw := decimal_inj.mp huw
    rw [← hvalue] at hle
    exact (le_clamp_mul_iff (by decide) (slot_floor_eq hbounds hmin) (slot_bounds_lt hbounds)).mp hle
  · rintro h w ⟨zone, hzone, i, lo, hi, hslot, hbounds, hexists, rfl⟩ zone' i' minUw hpath hmin
    obtain ⟨rfl, rfl⟩ := constraintNode_inj hpath
    refine ⟨clamp lo hi watts * 1000000, rfl, ?_⟩
    rw [le_clamp_mul_iff (by decide) (slot_floor_eq hbounds hmin) (slot_bounds_lt hbounds)]
    exact h zone hzone i lo hi minUw hslot hbounds hexists hmin

/-- The lower limit is the floor itself, so only an exact floor will do. -/
theorem khzAboveFloor_iff (cpu : LinuxCpuGovernor) (mhz : ℕ) :
    KhzAboveFloor cpu t mhz ↔
      cpu.discoveredFreqBounds t = none ∨
      (∀ id ∈ cpu.cpuIds, t.pathExists (cpufreqDir id) = false) ∨
      ∀ floor : ℕ, IsLeast (validFloors cpu t) floor → WholeUnits 1000 floor := by
  rw [KhzAboveFloor, setFreqLimit_eq cpu (SameMachine.refl t)]
  simp only [Journal.mem_log_writeAll, mem_freqPlan]
  constructor
  · intro h
    cases hbounds : cpu.discoveredFreqBounds t with
    | none => exact .inl rfl
    | some bounds =>
      obtain ⟨lo, hi⟩ := bounds
      refine .inr (or_iff_not_imp_left.mpr ?_)
      intro hdirs floor hfloor
      push Not at hdirs
      obtain ⟨id, hid, hdir⟩ := hdirs
      obtain ⟨khz, hkhz, hle⟩ := h _ ⟨lo, hi, hbounds, id, hid, by simpa using hdir, .inl rfl⟩ id
        (.inl rfl) floor hfloor
      have hvalue : lo * 1000 = khz := decimal_inj.mp hkhz
      rw [← hvalue] at hle
      exact (discovered_floor_reached hbounds hfloor).mp (by exact_mod_cast hle)
  · rintro h w ⟨lo, hi, hbounds, id, hid, hdir, hw⟩ id' - floor hfloor
    obtain ⟨khz, hleast, -⟩ := discovered_floor_eq hbounds
    obtain rfl : (khz : ℤ) = floor := hleast.unique hfloor
    have hexact : WholeUnits 1000 khz := by
      rcases h with hnone | hnodir | hexact
      · rw [hnone] at hbounds
        cases hbounds
      · rw [hnodir id hid] at hdir
        cases hdir
      · exact hexact khz hfloor
    have hreach : khz ≤ lo * 1000 := (discovered_floor_reached hbounds hfloor).mpr hexact
    rcases hw with rfl | rfl
    · exact ⟨lo * 1000, rfl, by exact_mod_cast hreach⟩
    · have hclamp : lo ≤ clamp lo hi mhz := le_clamp (le_of_lt (bounds_lt hbounds))
      have hmul : lo * 1000 ≤ clamp lo hi mhz * 1000 := Nat.mul_le_mul_right 1000 hclamp
      exact ⟨clamp lo hi mhz * 1000, rfl, by exact_mod_cast le_trans hreach hmul⟩

end Written

/-- **When no write lands below a declared floor.**  A power limit does not exactly when each floor is
whole watts, or both the request and the ceiling of the slot reach it; a frequency limit does not
exactly when the smallest floor is whole megahertz, or nothing is written. -/
theorem writes_above_floors_iff (t : Tree) :
    (∀ (rapl : LinuxRapl) (name : String) (watts : ℕ), WattsAboveFloor rapl t name watts ↔
      ∀ zone ∈ rapl.domains, ∀ i lo hi minUw, constraintIndexIn t zone name = some i →
        constraintBoundsWattsIn t zone i = some (lo, hi) →
        t.pathExists (constraintNode zone i "_power_limit_uw") = true →
        declaredMinUw t zone i = some minUw →
          WholeUnits 1000000 minUw ∨ (minUw ≤ watts * 1000000 ∧ minUw ≤ hi * 1000000)) ∧
    ∀ (cpu : LinuxCpuGovernor) (mhz : ℕ), KhzAboveFloor cpu t mhz ↔
      cpu.discoveredFreqBounds t = none ∨
      (∀ id ∈ cpu.cpuIds, t.pathExists (cpufreqDir id) = false) ∨
      ∀ floor : ℕ, IsLeast (validFloors cpu t) floor → WholeUnits 1000 floor :=
  ⟨wattsAboveFloor_iff, khzAboveFloor_iff⟩

/-- A zone with a floor of 15.5 W, and a CPU with one of 400.5 MHz. -/
def oddFloors : Tree := .ofFiles [
  (constraintNode "zone" 0 "_name", "long_term"),
  (constraintNode "zone" 0 "_min_power_uw", "15500000"),
  (constraintNode "zone" 0 "_max_power_uw", "45000000"),
  (constraintNode "zone" 0 "_power_limit_uw", "45000000"),
  (cpufreqNode 0 "cpuinfo_min_freq", "400500"),
  (cpufreqNode 0 "cpuinfo_max_freq", "3500000")]

/-- Both limits are written below their floor, at 15 W and 400 MHz. -/
theorem oddFloors_written_below :
    ¬WattsAboveFloor ⟨["zone"], by simp⟩ oddFloors longTerm 10 ∧
      ¬KhzAboveFloor ⟨[0], 1, by decide⟩ oddFloors 400 := by
  constructor
  · intro h
    have hfloor := (wattsAboveFloor_iff _ _ _).mp h "zone" (by simp) 0 15 45 15500000
      (by decide +kernel) (by decide +kernel) (by decide +kernel) (by decide +kernel)
    revert hfloor
    decide
  · intro h
    have hpair : cpuinfoPair oddFloors 0 = some (400500, 3500000) := by decide +kernel
    have hleast : IsLeast (validFloors ⟨[0], 1, by decide⟩ oddFloors) (400500 : ℕ) := by
      refine ⟨⟨0, List.mem_singleton.mpr rfl, 3500000, hpair⟩, ?_⟩
      rintro khz ⟨id, hid, hi, hvalid⟩
      obtain rfl := List.mem_singleton.mp hid
      cases hpair.symm.trans hvalid
      exact le_rfl
    have hbounds : LinuxCpuGovernor.discoveredFreqBounds ⟨[0], 1, by decide⟩ oddFloors
        = some (400, 3500) := by decide +kernel
    have hdir : oddFloors.pathExists (cpufreqDir 0) = true := by decide +kernel
    rcases (khzAboveFloor_iff _ _).mp h with hnone | hnodir | hwhole
    · rw [hbounds] at hnone
      cases hnone
    · rw [hnodir 0 (List.mem_singleton.mpr rfl)] at hdir
      cases hdir
    · have hexact := hwhole 400500 hleast
      revert hexact
      decide

end WattWarden
