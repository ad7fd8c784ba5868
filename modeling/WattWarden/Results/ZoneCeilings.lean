import WattWarden.Daemon.Plans
import WattWarden.Results.Ramps

/-!
# The level ceiling in every powercap zone

A ladder step scales one target out of the union of the ranges of all zones and clamps it into each
of them.  In exact arithmetic this section says which zones end under their own level ceiling.

* `LimitedZone` — a zone with a discovered range for a constraint and a limit node;
* `limit_after_step` — **PROVED**: what a step leaves in the limit node of such a zone;
* `clamp_le_top_iff` — **PROVED**: a target clamped into a range is under its level ceiling exactly
  when the target was, or when the level allows the whole range;
* `zone_ceilings_iff` — **PROVED**: every zone respects its own ceiling exactly when the target of the
  union is under all of them.
-/

namespace WattWarden

open Library.FileTree Library.Journaling Library.Floats Library.Numerals

/-- `constraint_{i}_power_limit_uw` of a zone. -/
def limitNode (zone : String) (i : ℕ) : Path := constraintNode zone i "_power_limit_uw"

/-- The zone has the constraint in slot `i`, a range for it and a limit node. -/
structure LimitedZone (rapl : LinuxRapl) (t : Tree) (name zone : String) (i lo hi : ℕ) : Prop where
  mem : zone ∈ rapl.domains
  slot : constraintIndexIn t zone name = some i
  bounds : constraintBoundsWattsIn t zone i = some (lo, hi)
  limit : t.isFile (limitNode zone i) = true

/-! ### What a constraint's plan writes -/

section Plan

variable {rapl : LinuxRapl} {t : Tree} {name zone : String} {i lo hi : ℕ}

namespace LimitedZone

theorem mem_plan (h : LimitedZone rapl t name zone i lo hi) (watts : ℕ) :
    put (limitNode zone i) (decimal (clamp lo hi watts * 1000000)) ∈ raplPlan rapl t name watts := by
  have hexists : t.pathExists (limitNode zone i) = true := by
    rw [Tree.pathExists, h.limit, Bool.true_or]
  exact mem_raplPlan.mpr ⟨zone, h.mem, i, lo, hi, h.slot, h.bounds, hexists, rfl⟩

/-- The target, clamped into the zone's own range. -/
theorem planned_eq (h : LimitedZone rapl t name zone i lo hi) (watts : ℕ) :
    planned (raplPlan rapl t name watts) (limitNode zone i)
      = some (decimal (clamp lo hi watts * 1000000)) := by
  refine planned_eq_some ⟨_, h.mem_plan watts, rfl⟩ ?_
  intro w hw hpath
  obtain ⟨zone', -, i', lo', hi', -, hbounds, -, rfl⟩ := mem_raplPlan.mp hw
  obtain ⟨rfl, rfl⟩ := constraintNode_inj hpath
  rw [h.bounds] at hbounds
  cases hbounds
  rfl

/-- The plan of another constraint leaves the node alone. -/
theorem planned_other (h : LimitedZone rapl t name zone i lo hi) {name' : String}
    (hne : name' ≠ name) (watts : ℕ) :
    planned (raplPlan rapl t name' watts) (limitNode zone i) = none := by
  apply planned_eq_none.mpr
  intro w hw hpath
  obtain ⟨zone', -, i', lo', hi', hslot, -, -, rfl⟩ := mem_raplPlan.mp hw
  obtain ⟨rfl, rfl⟩ := constraintNode_inj hpath
  -- a slot has one name
  have hname' := List.find?_some hslot
  have hname := List.find?_some h.slot
  rw [decide_eq_true_eq] at hname hname'
  exact hne (hname'.symm.trans hname)

theorem zoneBounds_mem (h : LimitedZone rapl t name zone i lo hi) :
    (lo, hi) ∈ rapl.domains.filterMap (zoneBounds t name) := by
  apply List.mem_filterMap.mpr
  refine ⟨zone, h.mem, ?_⟩
  rw [zoneBounds, h.slot]
  exact h.bounds

end LimitedZone

/-- The union of the ranges is a range. -/
theorem boundsOf_range {least most : ℕ} (h : rapl.boundsOf t name = some (least, most)) :
    least < most ∧ most < 2 ^ 32 := by
  obtain ⟨hall, -, ⟨top, htop, rfl⟩⟩ := union_spec h
  obtain ⟨zone, -, hzone⟩ := List.mem_filterMap.mp htop
  obtain ⟨i, -, hbounds⟩ := Option.bind_eq_some_iff.mp hzone
  have hlt : top.1 < top.2 := slot_bounds_lt hbounds
  have hbound : top.2 < 2 ^ 32 := slot_max_lt hbounds
  have hleast : least ≤ top.1 := (hall top htop).1
  exact ⟨by omega, hbound⟩

theorem LimitedZone.boundsOf_isSome (h : LimitedZone rapl t name zone i lo hi) :
    ∃ least most, rapl.boundsOf t name = some (least, most) := by
  rw [LinuxRapl.boundsOf]
  have hmem := h.zoneBounds_mem
  cases hranges : rapl.domains.filterMap (zoneBounds t name) with
  | nil =>
    rw [hranges] at hmem
    cases hmem
  | cons b bs => exact ⟨_, _, rfl⟩

end Plan

/-! ### The limit after a step -/

section Step

variable {F : Type} [FloatLike F] {b : LinuxBackend} {rapl : LinuxRapl} {s : SysfsRoot}
variable {name zone : String} {i lo hi : ℕ} {config : Config}

/-- After its RAPL part a step writes no power limit. -/
theorem powercap_after_step (b : LinuxBackend) (s : SysfsRoot)
    (hon : config.autoExtremeEnabled = true) {p : Path} (hp : subsystem p = .powercap) :
    let targets := ladderTargets F b s.tree config.autoExtremeLevel
    (applyLogicStep F b s config).1.tree.content p
      = (ladderRapl b targets.ceiling targets.discretePower s).1.tree.content p := by
  intro targets
  let Elsewhere : Write Actor → Prop := fun w => subsystem w.path ≠ .powercap ∧ ¬IsRange w.path
  have hhard : ∀ t w, HardwareWrite { b with rapl := none } t w → Elsewhere w := by
    intro t w hw
    refine ⟨?_, hw.not_isRange⟩
    rcases hw.cases_subsystem with ⟨hsub, -⟩ | ⟨-, rapl, hrapl, -⟩ | ⟨hsub, -⟩
    · rw [hsub]
      decide
    · cases hrapl
    · rw [hsub]
      decide
  have hper : ∀ w, PeripheralWrite w → Elsewhere w := by
    intro w hw
    refine ⟨?_, fun hrange => hw.not_isHardware hrange.isHardware⟩
    intro hsub
    have hmem := hw.subsystem_mem
    rw [hsub] at hmem
    revert hmem
    decide
  have hlimits := ladderLimits_extends (b := { b with rapl := none }) (hhard _) (fun w hw => hw.2)
    (Extends.refl Elsewhere (ladderRapl b targets.ceiling targets.discretePower s).1) targets
  rw [applyLogicStep_sysfs b s hon]
  split
  · exact (ladderPeripherals_extends hper hlimits).content_eq fun w hw hpath => hw.1 (hpath ▸ hp)
  · exact hlimits.content_eq fun w hw hpath => hw.1 (hpath ▸ hp)

/-- **The limit a step leaves in a zone**: one target, scaled out of the union of all ranges and
clamped into the zone's own. -/
theorem limit_after_step (hrapl : b.rapl = some rapl) (hon : config.autoExtremeEnabled = true)
    (hname : name = longTerm ∨ name = shortTerm) (h : LimitedZone rapl s.tree name zone i lo hi)
    {least most : ℕ} (hunion : rapl.boundsOf s.tree name = some (least, most)) :
    let targets := ladderTargets F b s.tree config.autoExtremeLevel
    (applyLogicStep F b s config).1.tree.content (limitNode zone i)
      = some (decimal (clamp lo hi
          (scaleWithin least most targets.ceiling targets.discretePower) * 1000000)) := by
  intro targets
  have hwritable : s.tree.writable (limitNode zone i) = true := Tree.writable_of_isFile h.limit
  have hplan := (follows_ladderRapl b targets).eq s (SameMachine.refl s.tree)
  -- the two constraints share no slot
  have hplanned : planned (packagePlan b s.tree (scalePick targets)) (limitNode zone i)
      = some (decimal (clamp lo hi
          (scaleWithin least most targets.ceiling targets.discretePower) * 1000000)) := by
    have hother : ∀ name', name' ≠ name →
        planned (constraintPlan s.tree name' (scalePick targets) rapl) (limitNode zone i) = none := by
      intro name' hne
      rw [constraintPlan]
      split
      · exact h.planned_other hne _
      · rfl
    have hown : planned (constraintPlan s.tree name (scalePick targets) rapl) (limitNode zone i)
        = some (decimal (clamp lo hi
            (scaleWithin least most targets.ceiling targets.discretePower) * 1000000)) := by
      rw [constraintPlan, hunion]
      exact h.planned_eq _
    rw [packagePlan, hrapl, Option.elim_some, planned_append]
    rcases hname with rfl | rfl
    · rw [hother shortTerm (by decide), hown]
      rfl
    · rw [hown]
      rfl
  rw [powercap_after_step b s hon (by rfl)]
  rw [hplan, Journal.content_writeAll, hplanned]
  exact if_pos hwritable

end Step

/-! ### Ceilings -/

/-- The step of a load that is not known to be positive. -/
theorem discretePowerOf_le_one (load : ℚ) (ncpu : ℕ) : discretePowerOf load ncpu ≤ 1 := by
  rw [discretePowerOf_eq]
  have hshare : min (load / ncpu) 1 * 3 ≤ ((3 : ℕ) : ℚ) := by
    have hmin : min (load / ncpu) 1 ≤ (1 : ℚ) := min_le_right _ _
    push_cast
    linarith
  have hround := roundHalfAway_le hshare
  push_cast at hround
  linarith

/-- The target of the union is the exact one rounded down, or 0 where that is negative. -/
theorem scaleWithin_floor {least most : ℕ} (h : least < most ∧ most < 2 ^ 32) {c step : ℚ}
    (hc : 0 ≤ c ∧ c ≤ 1) (hstep : step ≤ 1) :
    scaleWithin least most c step = ⌊(least : ℚ) + step * ((most - least) * c)⌋.toNat := by
  have hcast : ((most - least : ℕ) : ℚ) = (most : ℚ) - least := Nat.cast_sub h.1.le
  have hwidth : (0 : ℚ) ≤ (most - least) * c := by
    have hle : (least : ℚ) ≤ most := by exact_mod_cast h.1.le
    exact mul_nonneg (by linarith) hc.1
  have hvalue : (least : ℚ) + step * ((most - least) * c) ≤ (most : ℕ) := by
    have hmul := mul_le_mul_of_nonneg_right hstep hwidth
    have hle : (least : ℚ) ≤ most := by exact_mod_cast h.1.le
    nlinarith
  have hfloor : ⌊(least : ℚ) + step * ((most - least) * c)⌋.toNat ≤ most := by
    have hmono := Int.floor_le_floor hvalue
    rw [Int.floor_natCast] at hmono
    omega
  rw [scaleWithin, hcast, add_sub_cancel_left, asU32, toUnsigned_eq]
  omega

/-- A target saturated at 0 is under a bound that is not negative exactly when the target was. -/
theorem toNat_le_iff (n : ℤ) {x : ℚ} (hx : 0 ≤ x) : (n.toNat : ℚ) ≤ x ↔ (n : ℚ) ≤ x := by
  rcases le_total 0 n with hn | hn
  · have heq : ((n.toNat : ℤ) : ℚ) = n := by rw [Int.toNat_of_nonneg hn]
    rw [← heq]
    rfl
  · have hneg : (n : ℚ) ≤ 0 := by exact_mod_cast hn
    rw [Int.toNat_eq_zero.mpr hn, Nat.cast_zero]
    exact iff_of_true hx (hneg.trans hx)

/-- **A clamped target is under the ceiling of its range exactly when the target was**, unless the
ceiling is the top of the range. -/
theorem clamp_le_top_iff {lo hi v : ℕ} (h : lo < hi) {c : ℚ} (hc : 0 ≤ c ∧ c ≤ 1) :
    ((clamp lo hi v : ℕ) : ℚ) ≤ lo + (hi - lo) * c ↔ c = 1 ∨ (v : ℚ) ≤ lo + (hi - lo) * c := by
  have hlt : (lo : ℚ) < hi := by exact_mod_cast h
  have hlo : (lo : ℚ) ≤ lo + (hi - lo) * c := by nlinarith
  constructor
  · intro hclamp
    rcases eq_or_lt_of_le hc.2 with hone | hless
    · exact .inl hone
    · right
      have htop : (lo : ℚ) + (hi - lo) * c < hi := by nlinarith
      rw [clamp] at hclamp
      split at hclamp
      · rename_i hv
        have hcast : (v : ℚ) < lo := by exact_mod_cast hv
        linarith
      · split at hclamp
        · linarith
        · exact hclamp
  · intro hgiven
    rcases hgiven with rfl | hv
    · have hle : ((clamp lo hi v : ℕ) : ℚ) ≤ hi := by exact_mod_cast clamp_le h.le
      linarith
    · rw [clamp]
      split
      · exact hlo
      · split
        · rename_i hhi
          have hcast : (hi : ℚ) < v := by exact_mod_cast hhi
          linarith
        · exact hv

/-- Each zone's limit is at least its minimum and at most its own level ceiling. -/
def RespectsCeilings (rapl : LinuxRapl) (t t' : Tree) (name : String) (c : ℚ) : Prop :=
  ∀ zone i lo hi, LimitedZone rapl t name zone i lo hi → ∃ watts : ℕ,
    t'.content (limitNode zone i) = some (decimal (watts * 1000000)) ∧
      lo ≤ watts ∧ (watts : ℚ) ≤ lo + (hi - lo) * c

/-- The target of the union of all ranges, rounded down, is under each zone's own level ceiling. -/
def UnionUnderCeilings (rapl : LinuxRapl) (t : Tree) (name : String) (step c : ℚ) : Prop :=
  ∀ least most, rapl.boundsOf t name = some (least, most) →
    ∀ zone i lo hi, LimitedZone rapl t name zone i lo hi →
      (⌊(least : ℚ) + step * ((most - least) * c)⌋ : ℚ) ≤ lo + (hi - lo) * c

/-- Zones with one range in common, a single zone for instance, are all under their ceiling. -/
theorem unionUnderCeilings_of_same {rapl : LinuxRapl} {t : Tree} {name : String} {range : ℕ × ℕ}
    {step c : ℚ} (hc : 0 ≤ c) (hstep : step ≤ 1)
    (hsame : ∀ bounds ∈ rapl.domains.filterMap (zoneBounds t name), bounds = range) :
    UnionUnderCeilings rapl t name step c := by
  intro least most hunion zone i lo hi hlimited
  obtain ⟨-, ⟨bottom, hbottom, rfl⟩, ⟨top, htop, rfl⟩⟩ := union_spec hunion
  have hrange := hsame _ hlimited.zoneBounds_mem
  rw [hsame bottom hbottom, hsame top htop, ← hrange]
  have hlt : (lo : ℚ) < hi := by exact_mod_cast slot_bounds_lt hlimited.bounds
  have hwidth : (0 : ℚ) ≤ (hi - lo) * c := mul_nonneg (by linarith) hc
  calc (⌊(lo : ℚ) + step * ((hi - lo) * c)⌋ : ℚ) ≤ lo + step * ((hi - lo) * c) := Int.floor_le _
    _ ≤ lo + 1 * ((hi - lo) * c) := by
      have hmul := mul_le_mul_of_nonneg_right hstep hwidth
      linarith
    _ = lo + (hi - lo) * c := by rw [one_mul]

section Ceilings

variable {b : LinuxBackend} {rapl : LinuxRapl} {s : SysfsRoot} {name : String} {config : Config}

/-- One zone: its limit is the clamped target of the union. -/
theorem zone_ceiling_iff (hrapl : b.rapl = some rapl) (hon : config.autoExtremeEnabled = true)
    (hname : name = longTerm ∨ name = shortTerm) {zone : String} {i lo hi least most : ℕ}
    (hlimited : LimitedZone rapl s.tree name zone i lo hi)
    (hunion : rapl.boundsOf s.tree name = some (least, most)) :
    let targets := ladderTargets ℚ b s.tree config.autoExtremeLevel
    (∃ watts : ℕ, (applyLogicStep ℚ b s config).1.tree.content (limitNode zone i)
        = some (decimal (watts * 1000000)) ∧
        lo ≤ watts ∧ (watts : ℚ) ≤ lo + (hi - lo) * targets.ceiling) ↔
      targets.ceiling = 1 ∨
        (⌊(least : ℚ) + targets.discretePower * ((most - least) * targets.ceiling)⌋ : ℚ)
          ≤ lo + (hi - lo) * targets.ceiling := by
  intro targets
  have hlt := slot_bounds_lt hlimited.bounds
  have hc : 0 ≤ targets.ceiling ∧ targets.ceiling ≤ 1 :=
    ⟨(levelCeiling_mem config.autoExtremeLevel).1.le, (levelCeiling_mem _).2⟩
  have hstep : targets.discretePower ≤ 1 := discretePowerOf_le_one _ _
  have htop : (0 : ℚ) ≤ lo + (hi - lo) * targets.ceiling := by
    have hle : (lo : ℚ) < hi := by exact_mod_cast hlt
    have hlo : (0 : ℚ) ≤ lo := Nat.cast_nonneg _
    nlinarith
  rw [limit_after_step hrapl hon hname hlimited hunion, ← toNat_le_iff _ htop,
    ← scaleWithin_floor (boundsOf_range hunion) hc hstep, ← clamp_le_top_iff hlt hc]
  constructor
  · intro h
    obtain ⟨watts, hcontent, -, hle⟩ := h
    have hwatts := decimal_inj.mp (Option.some.inj hcontent)
    rw [Nat.eq_of_mul_eq_mul_right (by decide) hwatts]
    exact hle
  · intro hle
    exact ⟨_, rfl, le_clamp hlt.le, hle⟩

/-- One constraint. -/
theorem constraint_ceilings_iff (hrapl : b.rapl = some rapl)
    (hon : config.autoExtremeEnabled = true) (hname : name = longTerm ∨ name = shortTerm) :
    let targets := ladderTargets ℚ b s.tree config.autoExtremeLevel
    RespectsCeilings rapl s.tree (applyLogicStep ℚ b s config).1.tree name targets.ceiling ↔
      config.autoExtremeLevel = .low ∨
        UnionUnderCeilings rapl s.tree name targets.discretePower targets.ceiling := by
  intro targets
  have hlow : targets.ceiling = 1 ↔ config.autoExtremeLevel = .low := by
    show levelCeiling config.autoExtremeLevel = (1 : ℚ) ↔ _
    cases config.autoExtremeLevel with
    | high => exact iff_of_false (by norm_num [levelCeiling_high]) (by decide)
    | medium => exact iff_of_false (by norm_num [levelCeiling_medium]) (by decide)
    | low => exact iff_of_true levelCeiling_low rfl
  rw [← hlow]
  constructor
  · intro h
    rw [or_iff_not_imp_left]
    intro hne least most hunion zone i lo hi hlimited
    exact ((zone_ceiling_iff hrapl hon hname hlimited hunion).mp
      (h zone i lo hi hlimited)).resolve_left hne
  · intro h zone i lo hi hlimited
    obtain ⟨least, most, hunion⟩ := hlimited.boundsOf_isSome
    apply (zone_ceiling_iff hrapl hon hname hlimited hunion).mpr
    exact h.imp_right fun hunder => hunder least most hunion zone i lo hi hlimited

end Ceilings

/-- **Which zones respect their own ceiling.**  After a step with the ladder on, every zone's
long-term and short-term limits lie between the zone's minimum and its level ceiling if and only
if the level is low or, for both constraints, the target of the union of all ranges is under every
zone's ceiling. -/
theorem zone_ceilings_iff (b : LinuxBackend) (rapl : LinuxRapl) (hrapl : b.rapl = some rapl)
    (s : SysfsRoot) (config : Config) (hon : config.autoExtremeEnabled = true) :
    let c : ℚ := levelCeiling config.autoExtremeLevel
    let step := discretePowerOf (LinuxBackend.loadAverage ℚ s.tree) (max b.cpu.numCpus 1)
    let after := (applyLogicStep ℚ b s config).1.tree
    (RespectsCeilings rapl s.tree after longTerm c ∧ RespectsCeilings rapl s.tree after shortTerm c) ↔
      config.autoExtremeLevel = .low ∨
        (UnionUnderCeilings rapl s.tree longTerm step c ∧
          UnionUnderCeilings rapl s.tree shortTerm step c) := by
  intro c step after
  have hlong := constraint_ceilings_iff (s := s) hrapl hon (.inl rfl : longTerm = longTerm ∨ _)
  have hshort := constraint_ceilings_iff (s := s) hrapl hon (.inr rfl : shortTerm = longTerm ∨ _)
  rw [or_and_left]
  exact and_congr hlong hshort

/-! ### A machine whose zones differ -/

/-- Two zones, one up to 10 W and one up to 100 W, under a load of 5. -/
def unevenZones : Tree :=
  .ofFiles [
    (loadavgPath, "5.0"),
    (constraintNode "a" 0 "_name", "long_term"),
    (constraintNode "a" 0 "_max_power_uw", "10000000"),
    (limitNode "a" 0, "10000000"),
    (constraintNode "b" 0 "_name", "long_term"),
    (constraintNode "b" 0 "_max_power_uw", "100000000"),
    (limitNode "b" 0, "100000000")]

def unevenRapl : LinuxRapl := ⟨["a", "b"], by decide⟩

/-- The ladder at its most aggressive level. -/
def highLadder : Config := { Config.default with autoExtremeEnabled := true }

theorem unevenZones_rapl : (LinuxBackend.withRoot .plain unevenZones).rapl = some unevenRapl := by
  have hdomains : LinuxRapl.discoverDomains unevenZones = ["a", "b"] := by decide +kernel
  show LinuxRapl.withRoot unevenZones = _
  simp [LinuxRapl.withRoot, hdomains, unevenRapl]

theorem zone_ceilings_iff_uneven :
    let b := LinuxBackend.withRoot .plain unevenZones
    let s : SysfsRoot := .start unevenZones
    let step := discretePowerOf (LinuxBackend.loadAverage ℚ s.tree) (max b.cpu.numCpus 1)
    let after := (applyLogicStep ℚ b s highLadder).1.tree
    (RespectsCeilings unevenRapl s.tree after longTerm (levelCeiling .high) ∧
      RespectsCeilings unevenRapl s.tree after shortTerm (levelCeiling .high)) ↔
      highLadder.autoExtremeLevel = .low ∨
        (UnionUnderCeilings unevenRapl s.tree longTerm step (levelCeiling .high) ∧
          UnionUnderCeilings unevenRapl s.tree shortTerm step (levelCeiling .high)) :=
  zone_ceilings_iff _ unevenRapl unevenZones_rapl _ highLadder rfl

/-- 40 W out of the union leave the small zone at its maximum. -/
theorem unevenZones_exceed : ¬∀ (host : Host) (t : Tree) (rapl : LinuxRapl) (config : Config),
    (LinuxBackend.withRoot host t).rapl = some rapl → config.autoExtremeEnabled = true →
      let after := (applyLogicStep ℚ (LinuxBackend.withRoot host t) (.start t) config).1.tree
      RespectsCeilings rapl t after longTerm (levelCeiling config.autoExtremeLevel) ∧
        RespectsCeilings rapl t after shortTerm (levelCeiling config.autoExtremeLevel) := by
  intro h
  have hzone : LimitedZone unevenRapl unevenZones longTerm "a" 0 0 10 :=
    ⟨by decide, by decide +kernel, by decide +kernel, by decide +kernel⟩
  obtain ⟨watts, hcontent, -, hle⟩ :=
    (h .plain unevenZones unevenRapl highLadder unevenZones_rapl rfl).1 "a" 0 0 10 hzone
  have hafter : (applyLogicStep ℚ (LinuxBackend.withRoot .plain unevenZones) (.start unevenZones)
      highLadder).1.tree.content (limitNode "a" 0) = some (decimal (10 * 1000000)) := by
    decide +kernel
  rw [hafter] at hcontent
  have hwatts : 10 = watts := Nat.eq_of_mul_eq_mul_right (by decide)
    (decimal_inj.mp (Option.some.inj hcontent))
  have hhigh : levelCeiling (F := ℚ) highLadder.autoExtremeLevel = 2 / 5 := levelCeiling_high
  rw [hhigh, ← hwatts] at hle
  norm_num at hle

end WattWarden
