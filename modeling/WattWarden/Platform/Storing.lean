import WattWarden.Platform.Fleet

/-!
# Batteries with fixed answers

A fleet whose end thresholds answer in a fixed way: whether a driver accepts a value, and what it
serves once the value was written, depends on the value alone.  The mode and the start threshold may
do as they like.

* `endReading` — the end threshold of a battery as the code reads it;
* `StoringDriver` / `StoringBattery` / `StoringFleet` — the answers, with the laws as fields;
* `chargeThreshold_fleet` — **PROVED**: a fleet shows the first end threshold that reads;
* `endReading_written`, `took_storing` — **PROVED**: what everybody reads once a value was written,
  and who takes it;
* `attempts_written_ne` — **PROVED**: a set call makes a write on every battery.
-/

namespace WattWarden

open Library.FileTree Library.Numerals Threshold

variable {δ : Type*}

/-- The number a driver serves in a file. -/
def ThresholdDriver.served (driver : ThresholdDriver δ) (p : Path) (d : δ) : Option ℕ :=
  match driver.read d p with
  | .error _ => none
  | .ok content => parseUnsigned (2 ^ 64) (trim content)

/-- The end threshold of a battery, when it reads. -/
def endReading (b : BatteryUnit δ) : Option ℕ := (readSysfsU64 b b.node.endPath).toOption

theorem endReading_eq (b : BatteryUnit δ) :
    endReading b = b.driver.served b.node.endPath b.state := by
  rw [endReading, readSysfsU64, ThresholdDriver.served]
  show (match b.driver.read b.state b.node.endPath with
    | .error e => _
    | .ok content => _ : Except WattWardenError ℕ).toOption = _
  cases b.driver.read b.state b.node.endPath with
  | error e => rfl
  | ok content =>
    dsimp only
    cases parseUnsigned (2 ^ 64) (trim content) <;> rfl

namespace BatteryUnit

/-- Same battery, same driver. -/
structure Same (b b' : BatteryUnit δ) : Prop where
  node_eq : b'.node = b.node
  driver_eq : b'.driver = b.driver

theorem Same.refl (b : BatteryUnit δ) : b.Same b := ⟨rfl, rfl⟩

theorem Same.write {b b' : BatteryUnit δ} (h : b.Same b') (p : Path) (v : String) :
    b.Same (b'.write p v).1 := ⟨h.node_eq, h.driver_eq⟩

end BatteryUnit

theorem endReading_same {b b' : BatteryUnit δ} (h : b.Same b') :
    endReading b' = b.driver.served b.node.endPath b'.state := by
  rw [endReading_eq, h.node_eq, h.driver_eq]

/-! ### Before the end threshold is written -/

section Ready

open ThresholdHost

variable {σ : Type*} [ThresholdHost σ]

/-- **The rule for the writes before it.**  What writes to the mode and to the start threshold keep,
holds when the end threshold is written. -/
theorem ready_keeps {Q : σ → Prop} {node : ThresholdNode} {s : σ}
    (hkeep : ∀ s p v, Q s → node.types = some p ∨ node.start = some p → Q (fsWrite s p v).1)
    (hs : Q s) (value : ℕ) : Q (ready s node value) := by
  have hmode : Q (node.types.elim s (selectCustom s)) := by
    cases htypes : node.types with
    | none => exact hs
    | some p =>
      rw [Option.elim_some, selectCustom_eq_ite]
      split
      · exact hs
      · exact hkeep s p _ hs (.inl htypes)
  rw [ready]
  generalize node.types.elim s (selectCustom s) = s' at hmode ⊢
  cases hstart : node.start with
  | none => exact hmode
  | some p =>
    show Q (lowerStart s' p value)
    rw [lowerStart]
    cases readSysfsU64 s' p with
    | error e => exact hmode
    | ok cur =>
      dsimp only
      split
      · rw [writeSysfsU64_state]
        exact hkeep s' p _ hmode (.inr hstart)
      · exact hmode

end Ready

/-- The battery the end threshold is written on. -/
theorem same_ready (b : BatteryUnit δ) (value : ℕ) : b.Same (ready b b.node value) :=
  ready_keeps (fun _ p v h _ => h.write p v) (BatteryUnit.Same.refl b) value

theorem written_eq (value : ℕ) (b : BatteryUnit δ) : written value b
    = ((ready b b.node value).write b.node.endPath (decimal value)).1 := by
  rw [written, writeNode_eq_writeLimit, writeLimit_state]
  rfl

/-- **Every battery is written.**  A set call attempts a write on it, so its record grows. -/
theorem attempts_written_ne (value : ℕ) (b : BatteryUnit δ) :
    (written value b).attempts ≠ b.attempts := by
  have hgrown : b.attempts.length ≤ (ready b b.node value).attempts.length := by
    refine ready_keeps (Q := fun b' : BatteryUnit δ => b.attempts.length ≤ b'.attempts.length)
      ?_ le_rfl value
    intro b' p v h _
    exact le_trans h (Nat.le_succ _)
  intro heq
  have hlength := congrArg List.length heq
  rw [written_eq, BatteryUnit.attempts_write, List.length_cons] at hlength
  omega

/-! ### What a fleet shows -/

theorem readUnits_fleet {units : List (BatteryUnit δ)}
    (happart : (units.map BatteryUnit.node).Pairwise fun m n => ∀ p ∈ m.paths, p ∉ n.paths)
    {b : BatteryUnit δ} (hb : b ∈ units) {p : Path} (hp : p ∈ b.node.paths) :
    readUnits p units = b.read p := by
  obtain ⟨pre, post, rfl⟩ := List.append_of_mem hb
  apply readUnits_append _ hp
  intro a ha hpa
  rw [List.map_append, List.pairwise_append] at happart
  exact happart.2.2 a.node (List.mem_map_of_mem ha) b.node (by simp) p hpa hp

theorem findSome_congr {α β : Type*} {f g : α → Option β} {l : List α} (h : ∀ a ∈ l, f a = g a) :
    l.findSome? f = l.findSome? g := by
  induction l with
  | nil => rfl
  | cons a l ih =>
    rw [List.forall_mem_cons] at h
    rw [List.findSome?_cons, List.findSome?_cons, h.1, ih h.2]

/-- A fleet supports a threshold when it has a battery. -/
theorem supportsThreshold_units (units : List (BatteryUnit δ)) :
    supportsThreshold units = false ↔ units = [] := by
  rw [supportsThreshold_eq_false]
  exact List.map_eq_nil_iff

/-- **The reading of a fleet** is the first end threshold that reads, inside `1..=100`. -/
theorem chargeThreshold_fleet (fleet : Fleet δ) : (chargeThreshold fleet.units).toOption
    = (fleet.units.findSome? endReading).map (clamp 1 100) := by
  have hnodes : ThresholdHost.nodes fleet.units = fleet.units.map BatteryUnit.node := rfl
  have hread : ∀ b ∈ fleet.units,
      (readSysfsU64 fleet.units b.node.endPath).toOption = endReading b := by
    intro b hb
    have hend : b.node.endPath ∈ b.node.paths := by simp [ThresholdNode.paths]
    exact congrArg Except.toOption
      (readSysfsU64_congr (readUnits_fleet fleet.apart hb hend))
  have hfirst : (fleet.units.map BatteryUnit.node).findSome?
      (fun node => (readSysfsU64 fleet.units node.endPath).toOption)
      = fleet.units.findSome? endReading := by
    rw [List.findSome?_map]
    exact findSome_congr hread
  rw [toOption_chargeThreshold, hnodes, hfirst]

/-- The fleet after its batteries were written. -/
def Fleet.written (fleet : Fleet δ) (value : ℕ) : Fleet δ where
  units := fleet.units.map (Threshold.written value)
  apart := by
    simpa [Function.comp_def] using fleet.apart

/-! ### Fixed answers -/

/-- A driver with fixed answers for the end threshold of `node`: it accepts a value whenever it is
asked for it or never, and the value alone says what it serves afterwards, a new number or what it
served before.  Nothing else moves the end threshold. -/
structure StoringDriver (node : ThresholdNode) (δ : Type*) extends ThresholdDriver δ where
  accepts : ℕ → Bool
  stores : ℕ → Option ℕ
  isOk_write : ∀ d n, isOk (write d node.endPath (decimal n)).2 = accepts n
  served_write : ∀ d n,
    toThresholdDriver.served node.endPath (write d node.endPath (decimal n)).1
      = (stores n).or (toThresholdDriver.served node.endPath d)
  served_other : ∀ d p v, p ≠ node.endPath →
    toThresholdDriver.served node.endPath (write d p v).1
      = toThresholdDriver.served node.endPath d

/-- A register for the end threshold that stores the numbers it allows and serves what it stores. -/
def registerDriver (node : ThresholdNode) (allow : ℕ → Bool) : StoringDriver node String where
  read d p := if p = node.endPath then .ok d else .error noSuchFile
  write d p v :=
    if p = node.endPath then
      if ((parseUnsigned (2 ^ 64) (trim v)).filter allow).isSome then (v, .ok ())
      else (d, .error invalidArgument)
    else (d, .error noSuchFile)
  accepts n := ((parseUnsigned (2 ^ 64) (trim (decimal n))).filter allow).isSome
  stores n := (parseUnsigned (2 ^ 64) (trim (decimal n))).filter allow
  isOk_write d n := by
    rw [if_pos rfl]
    split
    · rename_i hsome
      exact hsome.symm
    · rename_i hnone
      exact (Bool.eq_false_iff.mpr hnone).symm
  served_write d n := by
    simp only [ThresholdDriver.served, if_true]
    cases hnew : (parseUnsigned (2 ^ 64) (trim (decimal n))).filter allow with
    | none => simp only [Option.isSome_none, Bool.false_eq_true, if_false, Option.none_or]
    | some m => exact (Option.filter_eq_some_iff.mp hnew).1
  served_other d p v hne := by
    rw [if_neg hne]

/-- A battery behind such a driver. -/
structure StoringBattery (δ : Type*) where
  node : ThresholdNode
  nodup : node.paths.Nodup
  driver : StoringDriver node δ
  state : δ

/-- A machine with several of them. -/
structure StoringFleet (δ : Type*) where
  batteries : List (StoringBattery δ)
  apart : (batteries.map StoringBattery.node).Pairwise fun m n => ∀ p ∈ m.paths, p ∉ n.paths

namespace StoringBattery

variable (b : StoringBattery δ)

/-- The battery, not written so far. -/
def unit : BatteryUnit δ := ⟨b.node, b.nodup, b.driver.toThresholdDriver, b.state, []⟩

/-- The number it shows. -/
def reading : Option ℕ := endReading b.unit

/-- The number it shows once a value was written to it. -/
def after (value : ℕ) : Option ℕ := (b.driver.stores value).or b.reading

/-- It takes a value: accepts it, and shows it afterwards. -/
def takes (value : ℕ) : Bool := b.driver.accepts value && decide (b.after value = some value)

/-- Where the end threshold is written, it still reads as before. -/
theorem endReading_ready (value : ℕ) : endReading (ready b.unit b.node value) = b.reading := by
  refine (ready_keeps (Q := fun b' : BatteryUnit δ => b.unit.Same b' ∧
    endReading b' = b.reading) ?_ ⟨BatteryUnit.Same.refl _, rfl⟩ value).2
  rintro b' p v ⟨hsame, hread⟩ hp
  refine ⟨hsame.write p v, ?_⟩
  have hne : p ≠ b.node.endPath := by
    rintro rfl
    rcases hp with htypes | hstart
    · exact ThresholdNode.types_ne_endPath b.nodup htypes
    · exact ThresholdNode.start_ne_endPath b.nodup hstart
  have hstate : (b'.write p v).1.state = (b.driver.write b'.state p v).1 := by
    rw [BatteryUnit.write, hsame.driver_eq]
    rfl
  show endReading (b'.write p v).1 = _
  rw [endReading_same (hsame.write p v), hstate, ← hread, endReading_same hsame]
  exact b.driver.served_other b'.state p v hne

/-- **What everybody reads afterwards.** -/
theorem endReading_written (value : ℕ) : endReading (written value b.unit) = b.after value := by
  have hsame : b.unit.Same (ready b.unit b.node value) := same_ready b.unit value
  have hbefore := b.endReading_ready value
  rw [endReading_same hsame] at hbefore
  have hwritten : written value b.unit
      = ((ready b.unit b.node value).write b.node.endPath (decimal value)).1 := written_eq value b.unit
  have hstate : ((ready b.unit b.node value).write b.node.endPath (decimal value)).1.state
      = (b.driver.write (ready b.unit b.node value).state b.node.endPath (decimal value)).1 := by
    rw [BatteryUnit.write, hsame.driver_eq]
    rfl
  rw [hwritten, endReading_same (hsame.write _ _), hstate, after, ← hbefore]
  exact b.driver.served_write _ value

/-- **Who takes a value.** -/
theorem took_storing (value : ℕ) : took value b.unit = b.takes value := by
  have hsame : b.unit.Same (ready b.unit b.node value) := same_ready b.unit value
  have hanswer : isOk ((ready b.unit b.node value).write b.node.endPath (decimal value)).2
      = b.driver.accepts value := by
    rw [BatteryUnit.write, hsame.driver_eq]
    exact b.driver.isOk_write _ value
  have hread : readSysfsU64 ((ready b.unit b.node value).write b.node.endPath (decimal value)).1
      b.node.endPath = .ok value ↔ b.after value = some value := by
    rw [← b.endReading_written, endReading, node_written, written_eq]
    exact toOption_eq_some.symm
  rw [Bool.eq_iff_iff, took, writeNode_eq_writeLimit, isOk_writeLimit]
  show isOk ((ready b.unit b.node value).write b.node.endPath (decimal value)).2 = true ∧
    readSysfsU64 ((ready b.unit b.node value).write b.node.endPath (decimal value)).1
      b.node.endPath = .ok value ↔ _
  rw [hanswer, hread, takes, Bool.and_eq_true, decide_eq_true_eq]

end StoringBattery

namespace StoringFleet

variable (f : StoringFleet δ)

def fleet : Fleet δ where
  units := f.batteries.map StoringBattery.unit
  apart := by
    rw [List.map_map]
    exact f.apart

/-- The number a fleet shows, when a battery shows `read`. -/
def shows (read : StoringBattery δ → Option ℕ) : Option ℕ :=
  (f.batteries.findSome? read).map (clamp 1 100)

theorem chargeThreshold_toOption :
    (chargeThreshold f.fleet.units).toOption = f.shows StoringBattery.reading := by
  rw [chargeThreshold_fleet, shows, fleet, List.findSome?_map]
  rfl

/-- What the fleet shows once it was asked for a value. -/
theorem chargeThreshold_written (value : ℕ) :
    (chargeThreshold (f.fleet.written value).units).toOption = f.shows (·.after value) := by
  have hunits : (f.fleet.written value).units
      = f.batteries.map fun b => written value b.unit := List.map_map
  rw [chargeThreshold_fleet, shows, hunits, List.findSome?_map]
  exact congrArg _ (findSome_congr fun b _ => b.endReading_written value)

/-- Some battery takes the value. -/
theorem exists_took (value : ℕ) : (∃ b ∈ f.fleet.units, took value b = true) ↔
    ∃ b ∈ f.batteries, b.takes value = true := by
  simp only [fleet, List.mem_map, exists_exists_and_eq_and, StoringBattery.took_storing]

end StoringFleet

end WattWarden
