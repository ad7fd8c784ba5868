import WattWarden.Platform.Health

/-!
# Where the capacities of the battery's health come from

The capacity pair has four possible sources, two of them in `uevent`.  The source is chosen by what
parses at the node levels and by what is there at all in `uevent`; the pair is read from it whole.

* `CapacitySource` — the four sources with their unit and their two values;
* `chosenSource` / `capacities_eq` — **PROVED**: the pair is that of the first source that exposes
  anything, and of `uevent` only when no node parses;
* `health_congr` — **PROVED**: with a node that parses, `uevent` has no influence on the snapshot;
* `health_of_one_source` — **PROVED**: the unit is that of the source of both values, and the
  percentage exists exactly when both parse and the design capacity is not 0.
-/

namespace WattWarden

open Library.FileTree Library.Numerals Library.Floats LinuxBattery

/-- A pair of capacities the hardware may expose. -/
inductive CapacitySource where
  | chargeNodes
  | energyNodes
  | chargeUevent
  | energyUevent
  deriving DecidableEq, Repr

namespace CapacitySource

def unit : CapacitySource → HealthUnit
  | chargeNodes | chargeUevent => .chargeUah
  | energyNodes | energyUevent => .energyUwh

def inUevent : CapacitySource → Bool
  | chargeNodes | energyNodes => false
  | chargeUevent | energyUevent => true

/-- The node of a full capacity, or its key in `uevent`; the design capacity's is longer. -/
def name : CapacitySource → String
  | chargeNodes => "charge_full"
  | energyNodes => "energy_full"
  | chargeUevent => "POWER_SUPPLY_CHARGE_FULL"
  | energyUevent => "POWER_SUPPLY_ENERGY_FULL"

def designName : CapacitySource → String
  | chargeNodes => "charge_full_design"
  | energyNodes => "energy_full_design"
  | chargeUevent => "POWER_SUPPLY_CHARGE_FULL_DESIGN"
  | energyUevent => "POWER_SUPPLY_ENERGY_FULL_DESIGN"

/-- A value of the source, when it is there and parses. -/
def value (src : CapacitySource) (battery : LinuxBattery) (t : Tree) (name : String) : Option ℕ :=
  match src with
  | chargeNodes | energyNodes => SysfsRoot.readU64 t (battery.bat name)
  | chargeUevent | energyUevent =>
      parseUnsigned (2 ^ 64) (ueventGet (battery.parseUevent t) name)

def full (src : CapacitySource) (battery : LinuxBattery) (t : Tree) : Option ℕ :=
  src.value battery t src.name

def design (src : CapacitySource) (battery : LinuxBattery) (t : Tree) : Option ℕ :=
  src.value battery t src.designName

/-- The source exposes a value: nodes one that parses, `uevent` any text. -/
def exposed (src : CapacitySource) (battery : LinuxBattery) (t : Tree) : Bool :=
  match src with
  | chargeNodes | energyNodes => (src.full battery t).isSome || (src.design battery t).isSome
  | chargeUevent | energyUevent =>
      decide (ueventGet (battery.parseUevent t) src.name ≠ "" ∨
        ueventGet (battery.parseUevent t) src.designName ≠ "")

end CapacitySource

/-- The first source that exposes anything. -/
def chosenSource (battery : LinuxBattery) (t : Tree) : Option CapacitySource :=
  [.chargeNodes, .energyNodes, .chargeUevent, .energyUevent].find? fun src : CapacitySource =>
    src.exposed battery t

/-- One of the four capacity nodes parses. -/
def NodeParses (battery : LinuxBattery) (t : Tree) : Prop :=
  ∃ src : CapacitySource, src.inUevent = false ∧
    ((src.full battery t).isSome ∨ (src.design battery t).isSome)

theorem nodeParses_iff (battery : LinuxBattery) (t : Tree) :
    NodeParses battery t ↔
      ((SysfsRoot.readU64 t (battery.bat "charge_full")).isSome ||
        (SysfsRoot.readU64 t (battery.bat "charge_full_design")).isSome) = true ∨
      ((SysfsRoot.readU64 t (battery.bat "energy_full")).isSome ||
        (SysfsRoot.readU64 t (battery.bat "energy_full_design")).isSome) = true := by
  simp only [Bool.or_eq_true]
  constructor
  · intro h
    obtain ⟨src, hnode, hparses⟩ := h
    cases src with
    | chargeNodes => exact .inl hparses
    | energyNodes => exact .inr hparses
    | chargeUevent => cases hnode
    | energyUevent => cases hnode
  · intro h
    rcases h with hcharge | henergy
    · exact ⟨.chargeNodes, rfl, hcharge⟩
    · exact ⟨.energyNodes, rfl, henergy⟩

theorem ueventCapacities_eq (battery : LinuxBattery) (t : Tree) :
    battery.ueventCapacities t
      = ([.chargeUevent, .energyUevent].find? fun src : CapacitySource => src.exposed battery t).elim
          (none, none, none) fun src => (src.full battery t, src.design battery t, some src.unit) := by
  rw [ueventCapacities]
  split_ifs with hcharge henergy
  · have hexposed : CapacitySource.chargeUevent.exposed battery t = true := decide_eq_true hcharge
    rw [List.find?_cons, hexposed]
    rfl
  · have hnot : CapacitySource.chargeUevent.exposed battery t = false := decide_eq_false hcharge
    have hexposed : CapacitySource.energyUevent.exposed battery t = true := decide_eq_true henergy
    rw [List.find?_cons, hnot, List.find?_cons, hexposed]
    rfl
  · have hnot : CapacitySource.chargeUevent.exposed battery t = false := decide_eq_false hcharge
    have hnot' : CapacitySource.energyUevent.exposed battery t = false := decide_eq_false henergy
    rw [List.find?_cons, hnot, List.find?_cons, hnot']
    rfl

/-- **The pair** is that of the first source that exposes anything. -/
theorem capacities_eq (battery : LinuxBattery) (t : Tree) :
    battery.capacities t = (chosenSource battery t).elim (none, none, none) fun src =>
      (src.full battery t, src.design battery t, some src.unit) := by
  rw [capacities, chosenSource]
  split_ifs with hcharge henergy
  · have hexposed : CapacitySource.chargeNodes.exposed battery t = true := hcharge
    rw [List.find?_cons, hexposed]
    rfl
  · have hnot : CapacitySource.chargeNodes.exposed battery t = false := Bool.eq_false_iff.mpr hcharge
    have hexposed : CapacitySource.energyNodes.exposed battery t = true := henergy
    rw [List.find?_cons, hnot, List.find?_cons, hexposed]
    rfl
  · have hnot : CapacitySource.chargeNodes.exposed battery t = false := Bool.eq_false_iff.mpr hcharge
    have hnot' : CapacitySource.energyNodes.exposed battery t = false := Bool.eq_false_iff.mpr henergy
    rw [List.find?_cons, hnot, List.find?_cons, hnot']
    exact ueventCapacities_eq battery t

/-- Nothing is exposed when no source is chosen. -/
theorem chosenSource_eq_none_iff {battery : LinuxBattery} {t : Tree} :
    chosenSource battery t = none ↔ ∀ src : CapacitySource, src.exposed battery t = false := by
  rw [chosenSource, List.find?_eq_none]
  constructor
  · intro h src
    have hnot := h src (by cases src <;> simp)
    simpa using hnot
  · intro h src _
    simp [h src]

/-- A source in `uevent` is chosen only when no node parses. -/
theorem not_nodeParses_of_chosen {battery : LinuxBattery} {t : Tree} {src : CapacitySource}
    (h : chosenSource battery t = some src) (huevent : src.inUevent = true) :
    ¬NodeParses battery t := by
  rw [nodeParses_iff]
  rw [chosenSource, List.find?_cons] at h
  cases hcharge : CapacitySource.chargeNodes.exposed battery t with
  | true =>
    rw [hcharge] at h
    obtain rfl := Option.some.inj h
    cases huevent
  | false =>
    rw [hcharge, List.find?_cons] at h
    cases henergy : CapacitySource.energyNodes.exposed battery t with
    | true =>
      rw [henergy] at h
      obtain rfl := Option.some.inj h
      cases huevent
    | false => exact not_or.mpr ⟨Bool.eq_false_iff.mp hcharge, Bool.eq_false_iff.mp henergy⟩

/-- The nodes of one battery with different names are different. -/
theorem bat_ne {battery : LinuxBattery} {leaf leaf' : String} (h : leaf ≠ leaf') :
    battery.bat leaf ≠ battery.bat leaf' := by
  intro heq
  simp [bat, supplyNode] at heq
  exact h heq

/-- With a node that parses, the snapshot does not depend on `uevent`. -/
theorem health_congr {battery : LinuxBattery} {t t' : Tree} (hnode : NodeParses battery t)
    (h : ∀ p, p ≠ battery.bat "uevent" → t'.content p = t.content p) :
    battery.health t' = battery.health t := by
  have hread : ∀ leaf, leaf ≠ "uevent" →
      SysfsRoot.read t' (battery.bat leaf) = SysfsRoot.read t (battery.bat leaf) :=
    fun leaf hleaf => SysfsRoot.read_congr (h _ (bat_ne hleaf))
  have hvalue : ∀ leaf, leaf ≠ "uevent" →
      SysfsRoot.readU64 t' (battery.bat leaf) = SysfsRoot.readU64 t (battery.bat leaf) :=
    fun leaf hleaf => SysfsRoot.readU64_congr (h _ (bat_ne hleaf))
  have hcapacities : battery.capacities t' = battery.capacities t := by
    rw [nodeParses_iff] at hnode
    rw [capacities, capacities, hvalue "charge_full" (by decide),
      hvalue "charge_full_design" (by decide), hvalue "energy_full" (by decide),
      hvalue "energy_full_design" (by decide)]
    rcases hnode with hcharge | henergy
    · rw [if_pos hcharge, if_pos hcharge]
    · rw [if_pos henergy, if_pos henergy]
  simp only [health, hcapacities, SysfsRoot.readU64, SysfsRoot.readI64, identity,
    hread "cycle_count" (by decide), hread "temp" (by decide), hread "model_name" (by decide),
    hread "manufacturer" (by decide), hread "serial_number" (by decide)]

/-- The capacities of the snapshot are those of the battery, when there is one. -/
theorem health_capacities (battery : LinuxBattery) (t : Tree) :
    battery.discovered = false ∧ (battery.health t).full = none ∧
        (battery.health t).design = none ∧ (battery.health t).unit = none ∨
      battery.discovered = true ∧ battery.capacities t
        = ((battery.health t).full, (battery.health t).design, (battery.health t).unit) := by
  rw [health]
  cases battery.discovered with
  | false => exact .inl ⟨rfl, rfl, rfl, rfl⟩
  | true => exact .inr ⟨rfl, rfl⟩

/-- **Health never mixes units or sources.**  Both capacities come from one source, whose unit is the
reported one: the first of the four that exposes anything.  There is no unit, and no capacity, only
when no source exposes anything or no battery was discovered.  `uevent` is a source, and has any
influence at all, only when no node parses.  The percentage exists exactly when both values of the
source parse and the design capacity is not 0. -/
theorem health_of_one_source (F : Type) [FloatLike F] (battery : LinuxBattery) (t : Tree) :
    (((battery.health t).unit = none ∧ (battery.health t).full = none ∧
          (battery.health t).design = none ∧ (battery.health t).healthPct F = none ∧
          (battery.discovered = false ∨
            ∀ src : CapacitySource, src.exposed battery t = false)) ∨
      ∃ src : CapacitySource, battery.discovered = true ∧ chosenSource battery t = some src ∧
        (battery.health t).unit = some src.unit ∧
        (battery.health t).full = src.full battery t ∧
        (battery.health t).design = src.design battery t ∧
        (src.inUevent = true → ¬NodeParses battery t) ∧
        (((battery.health t).healthPct F).isSome ↔
          (src.full battery t).isSome ∧ ∃ d, src.design battery t = some d ∧ d ≠ 0)) ∧
    (NodeParses battery t → ∀ t' : Tree,
      (∀ p, p ≠ battery.bat "uevent" → t'.content p = t.content p) →
        battery.health t' = battery.health t) := by
  refine ⟨?_, fun hnode t' h => health_congr hnode h⟩
  have hpct := (battery.health t).isSome_healthPct_iff F
  have hnothing : (battery.health t).full = none → (battery.health t).healthPct F = none := by
    intro hfull
    rw [hfull] at hpct
    simpa using hpct
  rcases health_capacities battery t with ⟨habsent, hfull, hdesign, hunit⟩ | ⟨hdiscovered, hpair⟩
  · exact .inl ⟨hunit, hfull, hdesign, hnothing hfull, .inl habsent⟩
  · rw [capacities_eq] at hpair
    cases hchosen : chosenSource battery t with
    | none =>
      rw [hchosen, Option.elim_none, Prod.mk.injEq, Prod.mk.injEq] at hpair
      obtain ⟨hfull, hdesign, hunit⟩ := hpair
      exact .inl ⟨hunit.symm, hfull.symm, hdesign.symm, hnothing hfull.symm,
        .inr (chosenSource_eq_none_iff.mp hchosen)⟩
    | some src =>
      rw [hchosen, Option.elim_some, Prod.mk.injEq, Prod.mk.injEq] at hpair
      obtain ⟨hfull, hdesign, hunit⟩ := hpair
      refine .inr ⟨src, hdiscovered, rfl, hunit.symm, hfull.symm, hdesign.symm,
        not_nodeParses_of_chosen hchosen, ?_⟩
      rw [hpct, hfull, hdesign]

end WattWarden
