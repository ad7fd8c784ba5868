import WattWarden.Platform.Fleet

/-!
# Writing a charge limit

Two results about `write_node` and the loop around it, both on batteries behind drivers of their
own.

* `writeNode_never_blocked` — **PROVED**: against a driver that keeps `start < end`, every write of
  `write_node` is accepted, whichever way the limit moves;
* `setChargeThreshold_independent` — **PROVED**: on any fleet, each battery ends as if it were alone,
  success means that some battery took the value, and the mode and the start threshold are only
  touched for a reason.
-/

namespace WattWarden

open Library.FileTree Library.Numerals Threshold

variable {δ : Type*}

/-! ### A driver that keeps `start < end` -/

/-- The registers of a battery with a start threshold, and the text of its mode selector. -/
structure PairedThresholds where
  start : ℕ
  stop : ℕ
  modes : String
  lt : start < stop
  bound : stop < 2 ^ 64

namespace PairedThresholds

/-- Store an end threshold, unless it would be at or below the start threshold. -/
def setStop (d : PairedThresholds) (n : ℕ) : Option PairedThresholds :=
  if h : d.start < n ∧ n < 2 ^ 64 then some { d with stop := n, lt := h.1, bound := h.2 } else none

/-- Store a start threshold, unless it would be at or above the end threshold. -/
def setStart (d : PairedThresholds) (n : ℕ) : Option PairedThresholds :=
  if h : n < d.stop then some { d with start := n, lt := h } else none

end PairedThresholds

/-- The driver's answer to a number it was asked to store. -/
def storeNumber (d : PairedThresholds) (set : ℕ → Option PairedThresholds) (v : String) :
    PairedThresholds × Except IoError Unit :=
  match (parseUnsigned (2 ^ 64) (trim v)).bind set with
  | some d' => (d', .ok ())
  | none => (d, .error invalidArgument)

/-- A number the driver can store, in decimal. -/
theorem storeNumber_decimal {d d' : PairedThresholds} {set : ℕ → Option PairedThresholds} {n : ℕ}
    (hn : n < 2 ^ 64) (h : set n = some d') : storeNumber d set (decimal n) = (d', .ok ()) := by
  have hparse : (parseUnsigned (2 ^ 64) (trim (decimal n))).bind set = some d' := by
    rw [trim_decimal, parseUnsigned_decimal hn, Option.bind_some, h]
  delta storeNumber
  rw [hparse]

/-- The driver of a node: it serves both thresholds in decimal and stores every write that leaves
`start < end`. -/
def pairedDriver (node : ThresholdNode) : ThresholdDriver PairedThresholds where
  read d p :=
    if p = node.endPath then .ok (decimal d.stop)
    else if node.start = some p then .ok (decimal d.start)
    else if node.types = some p then .ok d.modes
    else .error noSuchFile
  write d p v :=
    if p = node.endPath then storeNumber d d.setStop v
    else if node.start = some p then storeNumber d d.setStart v
    else if node.types = some p then ({ d with modes := v }, .ok ())
    else (d, .error noSuchFile)

/-- A battery with a start threshold behind such a driver. -/
structure PairedBattery where
  node : ThresholdNode
  nodup : node.paths.Nodup
  start : Path
  start_eq : node.start = some start
  thresholds : PairedThresholds

def PairedBattery.unit (b : PairedBattery) : BatteryUnit PairedThresholds :=
  ⟨b.node, b.nodup, pairedDriver b.node, b.thresholds, []⟩

theorem PairedBattery.start_ne_endPath (b : PairedBattery) : b.start ≠ b.node.endPath := by
  intro heq
  exact ThresholdNode.start_ne_endPath b.nodup (heq ▸ b.start_eq)

/-! ### One write at a time -/

/-- The battery holds these thresholds, and none of its writes was rejected so far. -/
structure Holding (b : PairedBattery) (start stop : ℕ) (u : BatteryUnit PairedThresholds) :
    Prop where
  node_eq : u.node = b.node
  driver_eq : u.driver = pairedDriver b.node
  start_eq : u.state.start = start
  stop_eq : u.state.stop = stop
  accepted : ∀ a ∈ u.attempts, a.accepted = true

namespace Holding

variable {b : PairedBattery} {start stop : ℕ} {u : BatteryUnit PairedThresholds}

theorem lt (h : Holding b start stop u) : start < stop := by
  rw [← h.start_eq, ← h.stop_eq]
  exact u.state.lt

theorem bound (h : Holding b start stop u) : stop < 2 ^ 64 := by
  rw [← h.stop_eq]
  exact u.state.bound

/-- An accepted write that leaves the thresholds `start'` and `stop'`. -/
theorem write {start' stop' : ℕ} {p : Path} {v : String} (h : Holding b start stop u)
    {d : PairedThresholds} (hwrite : (pairedDriver b.node).write u.state p v = (d, .ok ()))
    (hstart : d.start = start') (hstop : d.stop = stop') :
    Holding b start' stop' (u.write p v).1 := by
  have hanswer : u.driver.write u.state p v = (d, .ok ()) := by rw [h.driver_eq]; exact hwrite
  refine ⟨h.node_eq, h.driver_eq, ?_, ?_, ?_⟩
  · simpa only [BatteryUnit.write, hanswer] using hstart
  · simpa only [BatteryUnit.write, hanswer] using hstop
  · intro a ha
    rw [BatteryUnit.attempts_write, List.mem_cons] at ha
    rcases ha with rfl | ha
    · simp only [BatteryUnit.write, hanswer, isOk]
    · exact h.accepted a ha

theorem read_stop (h : Holding b start stop u) : readSysfsU64 u b.node.endPath = .ok stop := by
  apply readSysfsU64_decimal _ h.bound
  change u.driver.read u.state _ = _
  rw [h.driver_eq]
  simp [pairedDriver, h.stop_eq]

theorem read_start (h : Holding b start stop u) : readSysfsU64 u b.start = .ok start := by
  apply readSysfsU64_decimal _ (h.lt.trans h.bound)
  change u.driver.read u.state _ = _
  rw [h.driver_eq]
  simp [pairedDriver, b.start_ne_endPath, b.start_eq, h.start_eq]

/-- A legal end threshold is stored. -/
theorem write_stop (h : Holding b start stop u) {n : ℕ} (hlt : start < n) (hn : n < 2 ^ 64) :
    Holding b start n (u.write b.node.endPath (decimal n)).1 := by
  refine h.write (d := { u.state with stop := n, lt := h.start_eq ▸ hlt, bound := hn }) ?_
    h.start_eq rfl
  have hset : u.state.setStop n
      = some { u.state with stop := n, lt := h.start_eq ▸ hlt, bound := hn } := by
    rw [PairedThresholds.setStop, dif_pos ⟨h.start_eq ▸ hlt, hn⟩]
  simp only [pairedDriver, if_true, storeNumber_decimal hn hset]

/-- A legal start threshold is stored. -/
theorem write_start (h : Holding b start stop u) {n : ℕ} (hlt : n < stop) :
    Holding b n stop (u.write b.start (decimal n)).1 := by
  refine h.write (d := { u.state with start := n, lt := h.stop_eq ▸ hlt }) ?_ rfl h.stop_eq
  have hset : u.state.setStart n = some { u.state with start := n, lt := h.stop_eq ▸ hlt } := by
    rw [PairedThresholds.setStart, dif_pos (h.stop_eq ▸ hlt)]
  simp only [pairedDriver, b.start_ne_endPath, if_false, b.start_eq, if_true,
    storeNumber_decimal (hlt.trans h.bound) hset]

/-- The mode selector stores what is written. -/
theorem write_modes (h : Holding b start stop u) {p : Path} (hp : b.node.types = some p)
    (v : String) : Holding b start stop (u.write p v).1 := by
  have hend : p ≠ b.node.endPath := fun heq => ThresholdNode.types_ne_endPath b.nodup (heq ▸ hp)
  have hstart : b.node.start ≠ some p := fun h => ThresholdNode.types_ne_start b.nodup h hp
  refine h.write (d := { u.state with modes := v }) ?_ h.start_eq h.stop_eq
  simp only [pairedDriver, hend, if_false, hstart, hp, if_true]

/-! ### The stages of `write_node` -/

theorem afterMode (h : Holding b start stop u) :
    Holding b start stop (b.node.types.elim u (selectCustom u)) := by
  cases htypes : b.node.types with
  | none => exact h
  | some p =>
    rw [Option.elim_some, selectCustom_eq_ite]
    split
    · exact h
    · exact h.write_modes htypes "Custom"

theorem afterRoom (h : Holding b start stop u) {value : ℕ} (hvalue : 20 ≤ value) :
    Holding b (if value ≤ start then max (value - 5) 1 else start) stop
      (b.node.start.elim u (lowerStart u · value)) := by
  rw [b.start_eq, Option.elim_some, lowerStart, h.read_start]
  dsimp only
  split
  · rename_i hle
    rw [writeSysfsU64_state]
    -- the lowered start is below the value, so it is below the old end threshold too
    have hlt := h.lt
    exact h.write_start (by omega)
  · exact h

end Holding

/-- **Never blocked.**  Against a driver that rejects every write making `start >= end`, for every
pair of initial thresholds and every request: `write_node` succeeds, no write it makes to the two
thresholds is rejected, the end threshold is the clamped request, and the start threshold is below
it, never higher than before, and the same as before if it was not in the way. -/
theorem writeNode_never_blocked (b : PairedBattery) (t : ℕ) :
    let v := clamp 20 100 t
    let r := writeNode b.unit b.node v
    r.2 = .ok v ∧
    (∀ a ∈ r.1.attempts, (a.path = b.node.endPath ∨ b.node.start = some a.path) →
      a.accepted = true) ∧
    r.1.state.stop = v ∧
    r.1.state.start < r.1.state.stop ∧
    r.1.state.start ≤ b.thresholds.start ∧
    (b.thresholds.start < v → r.1.state.start = b.thresholds.start) := by
  intro v r
  have hlo : 20 ≤ v := le_clamp (by omega)
  have hhi : v ≤ 100 := clamp_le (by omega)
  have h₀ : Holding b b.thresholds.start b.thresholds.stop b.unit :=
    ⟨rfl, rfl, rfl, rfl, by simp [PairedBattery.unit]⟩
  have hready := h₀.afterMode.afterRoom hlo
  have hend := hready.write_stop (n := v) (by split <;> omega) (by omega)
  change Holding b _ v
    (ThresholdHost.fsWrite (ready b.unit b.node v) b.node.endPath (decimal v)).1 at hend
  have hok : isOk (writeLimit (ready b.unit b.node v) b.node v).2 = true :=
    (isOk_writeLimit _ _ _).mpr ⟨hend.accepted _ (List.mem_cons_self ..), hend.read_stop⟩
  have hstate : r.1 = _ := writeLimit_state (ready b.unit b.node v) b.node v
  rw [← hstate] at hend
  refine ⟨writeLimit_of_isOk hok, fun a ha _ => hend.accepted a ha, hend.stop_eq, ?_, ?_, ?_⟩
  · exact r.1.state.lt
  · rw [hend.start_eq]
    split <;> omega
  · intro hlt
    rw [hend.start_eq, if_neg (by omega)]

-- lowering the limit below the start threshold moves the start threshold first
example :
    let node : ThresholdNode := ⟨["end"], some ["start"], some ["types"]⟩
    let b : PairedBattery :=
      ⟨node, by decide, ["start"], rfl, ⟨75, 80, "[Adaptive] Custom", by decide, by decide⟩⟩
    let r := (writeNode b.unit b.node 60).1
    (r.state.start, r.state.stop, r.attempts.map Attempt.path)
      = (55, 60, [["end"], ["start"], ["types"]]) := by
  decide +kernel

/-! ### Batteries that fail independently -/

/-- **Independence.**  For every fleet whose batteries read, store and fail as they like, and every
request: the call succeeds exactly if the end threshold of some battery accepts its write and reads
back the clamped request; every battery ends as it does when it is the only one, wherever it stands
in the list; and what is written to a mode selector or a start threshold has its reason. -/
theorem setChargeThreshold_independent (fleet : Fleet δ) (t : ℕ) :
    let v := clamp 20 100 t
    let alone := fun b : BatteryUnit δ => (setChargeThreshold b t).1
    ((setChargeThreshold fleet.units t).2 = .ok () ↔
      ∃ b ∈ fleet.units,
        (∃ a rest, (alone b).attempts = a :: rest ∧ a.path = b.node.endPath ∧
          a.value = decimal v ∧ a.accepted = true) ∧
        readSysfsU64 (alone b) b.node.endPath = .ok v) ∧
    (setChargeThreshold fleet.units t).1 = fleet.units.map alone ∧
    ∀ b ∈ fleet.units, ∃ new, (alone b).attempts = new ++ b.attempts ∧
      ∀ a ∈ new, Justified b v a := by
  intro v alone
  have halone : ∀ b : BatteryUnit δ, alone b = written v b := fun b => setChargeThreshold_unit b t
  have hfleet := setChargeThreshold_fleet fleet t
  refine ⟨?_, ?_, ?_⟩
  · rw [hfleet.2]
    simp only [took_iff, halone, v]
  · rw [hfleet.1]
    exact List.map_congr_left fun b _ => (halone b).symm
  · intro b _
    rw [halone]
    exact (writeNode_grown b v).attempts_eq

end WattWarden
