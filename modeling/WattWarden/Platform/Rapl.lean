import WattWarden.Platform.Sysfs

/-!
# Package power limits

`LinuxRapl`: the powercap zones exposing a constraint, their named constraint slots, and limits
clamped inside the slot's own range.

* `constraintIndexIn` / `constraintBoundsWattsIn` / `boundsOf` / `writeConstraint` — translated
  from the source; a slot without a usable range is never written;
* `RaplWrite rapl t` — every write of the controller on a machine that `t` describes;
* `union_spec` — **PROVED**: the union of the ranges reaches from the least floor to the greatest
  ceiling;
* `slot_max_le` — **PROVED**: a slot's discovered maximum, back in microwatts, does not exceed what
  the slot declares;
* `setPl1Watts_extends`, `setPl2Watts_extends` — **PROVED**: setters write `RaplWrite`s only.
-/

namespace WattWarden

open Library.FileTree Library.Journaling Library.Numerals

def powercapBase : Path := ["sys", "class", "powercap"]

/-- A zone, by its entry name. -/
def zonePath (name : String) : Path := powercapBase ++ [name]

/-- `constraint_{i}{suffix}` of a zone. -/
def constraintNode (zone : String) (i : ℕ) (suffix : String) : Path :=
  zonePath zone ++ [constraintLeaf i suffix]

def constraintSlots : List ℕ := [0, 1, 2, 3, 4]

def longTerm : String := "long_term"

def shortTerm : String := "short_term"

/-- The controller: its zones, by entry name.  There is at least one. -/
structure LinuxRapl where
  domains : List String
  nonempty : domains ≠ []

namespace LinuxRapl

/-- Every powercap entry exposing `constraint_0_name`. -/
def discoverDomains (t : Tree) : List String :=
  (t.names powercapBase).filter fun name => t.pathExists (constraintNode name 0 "_name")

def withRoot (t : Tree) : Option LinuxRapl :=
  if h : discoverDomains t = [] then none else some ⟨discoverDomains t, h⟩

end LinuxRapl

/-- The first slot of a zone whose name is `name`. -/
def constraintIndexIn (t : Tree) (zone name : String) : Option ℕ :=
  constraintSlots.find? fun i => SysfsRoot.read t (constraintNode zone i "_name") = name

/-- `(min, max)` Watts of one slot; `none` when the maximum is missing or 0 or the range is
degenerate.  The casts to `u32` keep the low 32 bits. -/
def constraintBoundsWattsIn (t : Tree) (zone : String) (i : ℕ) : Option (ℕ × ℕ) :=
  match SysfsRoot.readU64 t (constraintNode zone i "_max_power_uw") with
  | none => none
  | some maxUw =>
      if maxUw = 0 then none
      else
        let minUw := (SysfsRoot.readU64 t (constraintNode zone i "_min_power_uw")).getD 0
        let min := minUw / 1000000 % 2 ^ 32
        let max := maxUw / 1000000 % 2 ^ 32
        if max ≤ min then none else some (min, max)

/-- The bounds of the constraint called `name` in one zone, when the zone has it. -/
def zoneBounds (t : Tree) (name zone : String) : Option (ℕ × ℕ) :=
  (constraintIndexIn t zone name).bind (constraintBoundsWattsIn t zone)

/-- `Iterator::reduce` on optional ranges: floor of the floors, ceiling of the ceilings. -/
def union : List (ℕ × ℕ) → Option (ℕ × ℕ)
  | [] => none
  | b :: bs => some (bs.foldl (fun acc b => (min acc.1 b.1, max acc.2 b.2)) b)

/-- **The union is the least floor and the greatest ceiling.** -/
theorem union_spec {bs : List (ℕ × ℕ)} {lo hi : ℕ} (h : union bs = some (lo, hi)) :
    (∀ b ∈ bs, lo ≤ b.1 ∧ b.2 ≤ hi) ∧ (∃ b ∈ bs, b.1 = lo) ∧ ∃ b ∈ bs, b.2 = hi := by
  have hfold : ∀ (bs : List (ℕ × ℕ)) (acc : ℕ × ℕ),
      let r := bs.foldl (fun acc b => (min acc.1 b.1, max acc.2 b.2)) acc
      (∀ b ∈ acc :: bs, r.1 ≤ b.1 ∧ b.2 ≤ r.2) ∧ (∃ b ∈ acc :: bs, b.1 = r.1) ∧
        ∃ b ∈ acc :: bs, b.2 = r.2 := by
    intro bs
    induction bs with
    | nil => simp
    | cons b bs ih =>
      intro acc
      obtain ⟨hall, ⟨l, hl, hlo⟩, ⟨g, hg, hhi⟩⟩ := ih (min acc.1 b.1, max acc.2 b.2)
      rw [List.forall_mem_cons] at hall
      rw [List.foldl_cons]
      refine ⟨?_, ?_, ?_⟩
      · rw [List.forall_mem_cons, List.forall_mem_cons]
        dsimp only at hall
        exact ⟨by omega, by omega, hall.2⟩
      · rcases List.mem_cons.mp hl with rfl | hmem
        · rcases min_choice acc.1 b.1 with hmin | hmin
          · exact ⟨acc, by simp, hmin.symm.trans hlo⟩
          · exact ⟨b, by simp, hmin.symm.trans hlo⟩
        · exact ⟨l, by simp [hmem], hlo⟩
      · rcases List.mem_cons.mp hg with rfl | hmem
        · rcases max_choice acc.2 b.2 with hmax | hmax
          · exact ⟨acc, by simp, hmax.symm.trans hhi⟩
          · exact ⟨b, by simp, hmax.symm.trans hhi⟩
        · exact ⟨g, by simp [hmem], hhi⟩
  cases bs with
  | nil => cases h
  | cons b bs =>
    have hspec := hfold bs b
    rw [Option.some.inj h] at hspec
    exact hspec

namespace LinuxRapl

def boundsOf (rapl : LinuxRapl) (t : Tree) (name : String) : Option (ℕ × ℕ) :=
  union (rapl.domains.filterMap (zoneBounds t name))

def pl1BoundsWatts (rapl : LinuxRapl) (t : Tree) : Option (ℕ × ℕ) := rapl.boundsOf t longTerm

def pl2BoundsWatts (rapl : LinuxRapl) (t : Tree) : Option (ℕ × ℕ) := rapl.boundsOf t shortTerm

/-- The loop body of `write_constraint`: one zone, and the value of the first zone written. -/
def writeZone (name : String) (watts : ℕ) (acc : SysfsRoot × Option ℕ) (zone : String) :
    SysfsRoot × Option ℕ :=
  match constraintIndexIn acc.1.tree zone name with
  | none => acc
  | some i =>
      match constraintBoundsWattsIn acc.1.tree zone i with
      | none => acc
      | some (min, max) =>
          let limitPath := constraintNode zone i "_power_limit_uw"
          if acc.1.tree.pathExists limitPath then
            let clamped := clamp min max watts
            (SysfsRoot.writeBestEffort acc.1 limitPath (decimal (clamped * 1000000)),
              some (acc.2.getD clamped))
          else acc

/-- `write_constraint`: the new tree, and what was written to the first zone that took it. -/
def writeConstraint (rapl : LinuxRapl) (s : SysfsRoot) (name : String) (watts : ℕ) :
    SysfsRoot × Option ℕ :=
  rapl.domains.foldl (writeZone name watts) (s, none)

def setPl1Watts (rapl : LinuxRapl) (s : SysfsRoot) (watts : ℕ) : SysfsRoot :=
  (rapl.writeConstraint s longTerm watts).1

def setPl2Watts (rapl : LinuxRapl) (s : SysfsRoot) (watts : ℕ) : SysfsRoot :=
  (rapl.writeConstraint s shortTerm watts).1

/-- The loop body of the second half of `bounds`: a zone's `*_power_range_uw` in Watts, when both
nodes parse. -/
def packageRange (t : Tree) (zone : String) : Option (ℕ × ℕ) :=
  match SysfsRoot.readU64 t (zonePath zone ++ ["min_power_range_uw"]),
      SysfsRoot.readU64 t (zonePath zone ++ ["max_power_range_uw"]) with
  | some min, some max => some (min / 1000000 % 2 ^ 32, max / 1000000 % 2 ^ 32)
  | _, _ => none

/-- `bounds`: the constraints' ranges, else the packages', else the fallback.  It is displayed and
limits a step on the dashboard; a setter never reads it. -/
def bounds (rapl : LinuxRapl) (t : Tree) : ℕ × ℕ :=
  ((union ([longTerm, shortTerm].filterMap (rapl.boundsOf t))).or
    (union (rapl.domains.filterMap (packageRange t)))).getD (5, 115)

/-- `get_limit`: the limit of the first zone exposing the constraint, in Watts. -/
def getLimit (rapl : LinuxRapl) (t : Tree) (name : String) : ℕ :=
  (rapl.domains.findSome? fun zone => (constraintIndexIn t zone name).map fun i =>
    (SysfsRoot.readU64 t (constraintNode zone i "_power_limit_uw")).getD 0 / 1000000
      % 2 ^ 32).getD 0

end LinuxRapl

/-! ### What the controller can write -/

/-- Every write of the controller, on a machine that `t` describes. -/
inductive RaplWrite (rapl : LinuxRapl) (t : Tree) : Write Actor → Prop
  | limit {zone : String} {i lo hi watts : ℕ} : zone ∈ rapl.domains →
      constraintBoundsWattsIn t zone i = some (lo, hi) → lo ≤ watts → watts ≤ hi →
      RaplWrite rapl t
        ⟨.wattwarden, constraintNode zone i "_power_limit_uw", decimal (watts * 1000000)⟩

theorem isRange_constraintNode (zone : String) (i : ℕ) (suffix : String)
    (h : suffix ∈ raplRangeSuffixes) : IsRange (constraintNode zone i suffix) :=
  .inr (.inr ⟨rfl, i, suffix, h, by rw [constraintNode, leaf_append]⟩)

theorem constraintIndexIn_congr {t t' : Tree} (h : SameRanges t t') (zone name : String) :
    constraintIndexIn t' zone name = constraintIndexIn t zone name := by
  have hread : ∀ i, SysfsRoot.read t' (constraintNode zone i "_name")
      = SysfsRoot.read t (constraintNode zone i "_name") := fun i =>
    SysfsRoot.read_congr (h _ (isRange_constraintNode zone i _ (by decide)))
  simp only [constraintIndexIn, hread]

theorem constraintBoundsWattsIn_congr {t t' : Tree} (h : SameRanges t t') (zone : String)
    (i : ℕ) : constraintBoundsWattsIn t' zone i = constraintBoundsWattsIn t zone i := by
  have hmin := SysfsRoot.readU64_congr
    (h _ (isRange_constraintNode zone i "_min_power_uw" (by decide)))
  have hmax := SysfsRoot.readU64_congr
    (h _ (isRange_constraintNode zone i "_max_power_uw" (by decide)))
  rw [constraintBoundsWattsIn, constraintBoundsWattsIn, hmin, hmax]

/-- **No ratchet.**  The discovered range depends on the hardware's description only. -/
theorem boundsOf_congr (rapl : LinuxRapl) {t t' : Tree} (h : SameRanges t t') (name : String) :
    rapl.boundsOf t' name = rapl.boundsOf t name := by
  have hzone : zoneBounds t' name = zoneBounds t name := by
    funext zone
    have hbounds : constraintBoundsWattsIn t' zone = constraintBoundsWattsIn t zone := by
      funext i
      exact constraintBoundsWattsIn_congr h zone i
    rw [zoneBounds, zoneBounds, constraintIndexIn_congr h, hbounds]
  rw [LinuxRapl.boundsOf, LinuxRapl.boundsOf, hzone]

theorem slot_bounds_lt {t : Tree} {zone : String} {i lo hi : ℕ}
    (h : constraintBoundsWattsIn t zone i = some (lo, hi)) : lo < hi := by
  rw [constraintBoundsWattsIn] at h
  split at h
  · cases h
  · split at h
    · cases h
    · simp only at h
      split at h
      · cases h
      · rename_i hlt
        cases h
        exact not_le.mp hlt

/-- Watts are a `u32`. -/
theorem slot_max_lt {t : Tree} {zone : String} {i lo hi : ℕ}
    (h : constraintBoundsWattsIn t zone i = some (lo, hi)) : hi < 2 ^ 32 := by
  rw [constraintBoundsWattsIn] at h
  split at h
  · cases h
  · split at h
    · cases h
    · simp only at h
      split at h
      · cases h
      · cases h
        exact Nat.mod_lt _ (by decide)

/-- **The ceiling is declared.**  A slot's discovered maximum, back in microwatts, does not exceed
its `max_power_uw`. -/
theorem slot_max_le {t : Tree} {zone : String} {i lo hi : ℕ}
    (h : constraintBoundsWattsIn t zone i = some (lo, hi)) :
    ∃ maxUw, SysfsRoot.readU64 t (constraintNode zone i "_max_power_uw") = some maxUw ∧
      hi * 1000000 ≤ maxUw := by
  rw [constraintBoundsWattsIn] at h
  split at h
  · cases h
  · rename_i maxUw hmax
    split at h
    · cases h
    · simp only at h
      split at h
      · cases h
      · cases h
        refine ⟨maxUw, hmax, ?_⟩
        omega

/-- A slot's power limit determines the zone and the slot. -/
theorem constraintNode_inj {zone zone' : String} {i j : ℕ} {suffix : String}
    (h : constraintNode zone i suffix = constraintNode zone' j suffix) : zone = zone' ∧ i = j := by
  simp only [constraintNode, zonePath, powercapBase, List.cons_append, List.nil_append,
    List.cons.injEq, true_and, and_true] at h
  obtain ⟨hzone, hleaf⟩ := h
  refine ⟨hzone, ?_⟩
  have hlist := congrArg String.toList hleaf
  simp only [constraintLeaf, String.toList_append, List.append_cancel_right_eq,
    List.append_cancel_left_eq] at hlist
  exact decimal_inj.mp (String.toList_inj.mp hlist)

/-- A power limit is not a description. -/
theorem limit_not_isRange (zone : String) (i : ℕ) :
    ¬IsRange (constraintNode zone i "_power_limit_uw") := by
  intro h
  rcases h with ⟨hcpu, -⟩ | ⟨hdrm, -⟩ | ⟨-, j, suffix, hmem, hleaf⟩
  · cases hcpu
  · cases hdrm
  · rw [constraintNode, leaf_append] at hleaf
    have hend := congrArg ending hleaf
    rw [ending_constraintLeaf i (by decide)] at hend
    simp only [raplRangeSuffixes, List.mem_cons, List.not_mem_nil, or_false] at hmem
    rcases hmem with rfl | rfl | rfl <;>
      · rw [ending_constraintLeaf j (by decide)] at hend
        revert hend
        decide

theorem RaplWrite.not_isRange {rapl : LinuxRapl} {t : Tree} {w : Write Actor}
    (h : RaplWrite rapl t w) : ¬IsRange w.path := by
  cases h with
  | limit => exact limit_not_isRange _ _

/-! ### The setters stay inside `RaplWrite` -/

section Extends

variable {rapl : LinuxRapl} {P : Write Actor → Prop} {s₀ s : SysfsRoot}
variable (hP : ∀ w, RaplWrite rapl s₀.tree w → P w) (hfix : ∀ w, P w → ¬IsRange w.path)

include hP hfix

theorem writeConstraint_extends (h : Extends P s₀ s) (name : String) (watts : ℕ) :
    Extends P s₀ (rapl.writeConstraint s name watts).1 := by
  have hloop : ∀ zones : List String, (∀ z ∈ zones, z ∈ rapl.domains) →
      ∀ acc : SysfsRoot × Option ℕ, Extends P s₀ acc.1 →
        Extends P s₀ (zones.foldl (LinuxRapl.writeZone name watts) acc).1 := by
    intro zones
    induction zones with
    | nil => exact fun _ acc hacc => hacc
    | cons zone zones ih =>
      intro hmem acc hacc
      apply ih (fun z hz => hmem z (List.mem_cons_of_mem _ hz))
      have hsame := sameRanges_of_extends hfix hacc
      rw [LinuxRapl.writeZone]
      split
      · exact hacc
      · rename_i i _
        rw [constraintBoundsWattsIn_congr hsame]
        split
        · exact hacc
        · rename_i min max hbounds
          have hle : min ≤ max := (slot_bounds_lt hbounds).le
          show Extends P s₀ (if _ then _ else _ : SysfsRoot × Option ℕ).1
          split
          · exact hacc.write (hP _ (.limit (hmem zone (by simp)) hbounds (le_clamp hle)
              (clamp_le hle)))
          · exact hacc
  exact hloop rapl.domains (fun _ hz => hz) (s, none) h

theorem setPl1Watts_extends (h : Extends P s₀ s) (watts : ℕ) :
    Extends P s₀ (rapl.setPl1Watts s watts) :=
  writeConstraint_extends hP hfix h longTerm watts

theorem setPl2Watts_extends (h : Extends P s₀ s) (watts : ℕ) :
    Extends P s₀ (rapl.setPl2Watts s watts) :=
  writeConstraint_extends hP hfix h shortTerm watts

end Extends

end WattWarden
