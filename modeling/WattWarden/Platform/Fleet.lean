import WattWarden.Platform.Threshold

/-!
# Fleets of batteries with misbehaving drivers

The charge-threshold code on a machine whose batteries are arbitrary state machines.  A driver may
refuse a read, reject a write, or store something else than what was written; a battery is its
threshold node, its driver and the state the driver is in, with a journal of the writes attempted
on it and of how the driver answered.

* `BatteryUnit` / `Fleet` — both are `ThresholdHost`s: a machine with one battery, and a machine with
  a list of batteries sharing no file;
* `writeNode_local` — **PROVED**: writing one node of a fleet is writing it on its battery alone;
* `applyNodes_fleet` — **PROVED**: the write loop is the battery-by-battery write, and counts
  those that took the value;
* `writeNode_grown` — **PROVED**: a write to the mode or to the start threshold has its reason in
  what the driver read;
* `took_iff` — **PROVED**: a battery took the value when its write was accepted and reads back.
-/

namespace WattWarden

open Library.FileTree Library.Numerals

/-- The files of one battery, as its driver serves them in each of its states. -/
structure ThresholdDriver (δ : Type*) where
  read : δ → Path → Except IoError String
  write : δ → Path → String → δ × Except IoError Unit

namespace ThresholdNode

/-! ### Files that are all different -/

variable {node : ThresholdNode}

theorem start_ne_endPath (h : node.paths.Nodup) : node.start ≠ some node.endPath := by
  intro hstart
  simp [paths, hstart] at h

theorem types_ne_endPath (h : node.paths.Nodup) : node.types ≠ some node.endPath := by
  intro htypes
  simp [paths, htypes] at h

theorem types_ne_start (h : node.paths.Nodup) {p : Path} (hstart : node.start = some p) :
    node.types ≠ some p := by
  intro htypes
  simp [paths, hstart, htypes] at h

end ThresholdNode

/-- One attempted write: the state it found, where, what, and whether the driver accepted it. -/
structure Attempt (δ : Type*) where
  before : δ
  path : Path
  value : String
  accepted : Bool

/-- A battery with threshold files, all different, behind a driver. -/
structure BatteryUnit (δ : Type*) where
  node : ThresholdNode
  nodup : node.paths.Nodup
  driver : ThresholdDriver δ
  state : δ
  /-- Newest first. -/
  attempts : List (Attempt δ)

/-- A machine with several batteries, which share no file. -/
structure Fleet (δ : Type*) where
  units : List (BatteryUnit δ)
  apart : (units.map BatteryUnit.node).Pairwise fun m n => ∀ p ∈ m.paths, p ∉ n.paths

variable {δ : Type*}

/-- `io::Result::is_ok`. -/
def isOk {ε α : Type*} : Except ε α → Bool
  | .ok _ => true
  | .error _ => false

namespace BatteryUnit

/-- The same battery with its driver in state `d`. -/
def inState (b : BatteryUnit δ) (d : δ) : BatteryUnit δ := { b with state := d }

def read (b : BatteryUnit δ) (p : Path) : Except IoError String := b.driver.read b.state p

def write (b : BatteryUnit δ) (p : Path) (v : String) : BatteryUnit δ × Except IoError Unit :=
  let answer := b.driver.write b.state p v
  ({ b with
      state := answer.1
      attempts := ⟨b.state, p, v, isOk answer.2⟩ :: b.attempts }, answer.2)

@[simp] theorem node_write (b : BatteryUnit δ) (p : Path) (v : String) :
    (b.write p v).1.node = b.node := rfl

@[simp] theorem driver_write (b : BatteryUnit δ) (p : Path) (v : String) :
    (b.write p v).1.driver = b.driver := rfl

@[simp] theorem attempts_write (b : BatteryUnit δ) (p : Path) (v : String) :
    (b.write p v).1.attempts = ⟨b.state, p, v, isOk (b.write p v).2⟩ :: b.attempts := rfl

instance : ThresholdHost (BatteryUnit δ) where
  readToString := read
  fsWrite := write
  nodes b := [b.node]

end BatteryUnit

/-- What a machine answers for a path none of its batteries has. -/
def noSuchFile : IoError := ⟨false, "No such file or directory (os error 2)"⟩

/-- `EINVAL`. -/
def invalidArgument : IoError := ⟨false, "Invalid argument (os error 22)"⟩

/-- A read goes to the battery that owns the file. -/
def readUnits (p : Path) : List (BatteryUnit δ) → Except IoError String
  | [] => .error noSuchFile
  | b :: bs => if p ∈ b.node.paths then b.read p else readUnits p bs

/-- So does a write. -/
def writeUnits (p : Path) (v : String) :
    List (BatteryUnit δ) → List (BatteryUnit δ) × Except IoError Unit
  | [] => ([], .error noSuchFile)
  | b :: bs =>
      if p ∈ b.node.paths then ((b.write p v).1 :: bs, (b.write p v).2)
      else (b :: (writeUnits p v bs).1, (writeUnits p v bs).2)

instance : ThresholdHost (List (BatteryUnit δ)) where
  readToString bs p := readUnits p bs
  fsWrite bs p v := writeUnits p v bs
  nodes bs := bs.map BatteryUnit.node

/-! ### A battery sees only what is asked of it -/

theorem readUnits_cons (p : Path) (b : BatteryUnit δ) (bs : List (BatteryUnit δ)) :
    readUnits p (b :: bs) = if p ∈ b.node.paths then b.read p else readUnits p bs := rfl

theorem writeUnits_cons (p : Path) (v : String) (b : BatteryUnit δ) (bs : List (BatteryUnit δ)) :
    writeUnits p v (b :: bs) = if p ∈ b.node.paths then ((b.write p v).1 :: bs, (b.write p v).2)
      else (b :: (writeUnits p v bs).1, (writeUnits p v bs).2) := rfl

/-- Files in front of the owner belong to other batteries. -/
theorem readUnits_append {pre post : List (BatteryUnit δ)} {b : BatteryUnit δ} {p : Path}
    (hpre : ∀ a ∈ pre, p ∉ a.node.paths) (hp : p ∈ b.node.paths) :
    readUnits p (pre ++ b :: post) = b.read p := by
  induction pre with
  | nil => simp [readUnits_cons, hp]
  | cons a pre ih =>
    rw [List.cons_append, readUnits_cons, if_neg (hpre a (by simp))]
    exact ih fun a' ha' => hpre a' (List.mem_cons_of_mem _ ha')

theorem writeUnits_append {pre post : List (BatteryUnit δ)} {b : BatteryUnit δ} {p : Path}
    (hpre : ∀ a ∈ pre, p ∉ a.node.paths) (hp : p ∈ b.node.paths) (v : String) :
    writeUnits p v (pre ++ b :: post) = (pre ++ (b.write p v).1 :: post, (b.write p v).2) := by
  induction pre with
  | nil => simp [writeUnits_cons, hp]
  | cons a pre ih =>
    rw [List.cons_append, writeUnits_cons, if_neg (hpre a (by simp)),
      ih fun a' ha' => hpre a' (List.mem_cons_of_mem _ ha')]
    rfl

namespace Threshold

/-! ### The stages of `write_node` -/

section Stages

open ThresholdHost

variable {σ : Type*} [ThresholdHost σ]

theorem writeSysfsU64_state (s : σ) (p : Path) (n : ℕ) :
    (writeSysfsU64 s p n).1 = (fsWrite s p (decimal n)).1 := by
  rw [writeSysfsU64]
  split <;> rename_i h <;> rw [h]

theorem isOk_writeSysfsU64 (s : σ) (p : Path) (n : ℕ) :
    isOk (writeSysfsU64 s p n).2 = isOk (fsWrite s p (decimal n)).2 := by
  rw [writeSysfsU64]
  split <;> rename_i h <;> rw [h] <;> rfl

/-- A file that serves a number reads as this number. -/
theorem readSysfsU64_decimal {s : σ} {p : Path} {n : ℕ} (h : readToString s p = .ok (decimal n))
    (hn : n < 2 ^ 64) : readSysfsU64 s p = .ok n := by
  rw [readSysfsU64, h]
  dsimp only
  rw [trim_decimal, parseUnsigned_decimal hn]

/-- The mode selector as the code reads it. -/
def currentMode (s : σ) (types : Path) : String :=
  match readToString s types with
  | .ok content => trim content
  | .error _ => ""

theorem selectCustom_eq_ite (s : σ) (types : Path) :
    selectCustom s types = if contains (currentMode s types) "[Custom]" = true then s
      else (fsWrite s types "Custom").1 := rfl

/-- The state the end threshold is written in: `Custom` selected, room made. -/
def ready (s : σ) (node : ThresholdNode) (value : ℕ) : σ :=
  let s := node.types.elim s (selectCustom s)
  node.start.elim s (lowerStart s · value)

/-- Write the end threshold and read it back. -/
def writeLimit (s : σ) (node : ThresholdNode) (value : ℕ) : σ × Except WattWardenError ℕ :=
  match writeSysfsU64 s node.endPath value with
  | (s, .error e) => (s, .error e)
  | (s, .ok ()) =>
      match readSysfsU64 s node.endPath with
      | .error e => (s, .error e)
      | .ok readback =>
          if readback ≠ value then
            (s, .error (.unsupported
              s!"charge threshold did not stick: wrote {value}, hardware reports {readback}"))
          else (s, .ok readback)

theorem writeNode_eq_writeLimit (s : σ) (node : ThresholdNode) (value : ℕ) :
    writeNode s node value = writeLimit (ready s node value) node value := rfl

theorem writeLimit_state (s : σ) (node : ThresholdNode) (value : ℕ) :
    (writeLimit s node value).1 = (fsWrite s node.endPath (decimal value)).1 := by
  rw [← writeSysfsU64_state, writeLimit]
  split
  · rename_i h
    rw [h]
  · rename_i h
    rw [h]
    split
    · rfl
    · split <;> rfl

/-- Success is an accepted write that reads back. -/
theorem isOk_writeLimit (s : σ) (node : ThresholdNode) (value : ℕ) :
    isOk (writeLimit s node value).2 = true ↔
      isOk (fsWrite s node.endPath (decimal value)).2 = true ∧
        readSysfsU64 (fsWrite s node.endPath (decimal value)).1 node.endPath = .ok value := by
  rw [← isOk_writeSysfsU64, ← writeSysfsU64_state, writeLimit]
  split
  · rename_i h
    simp [h, isOk]
  · rename_i h
    rw [h]
    split
    · rename_i hread
      simp [hread, isOk]
    · rename_i readback hread
      by_cases heq : readback = value <;> simp [hread, heq, isOk]

/-- What `write_node` returns on success is the value it wrote. -/
theorem writeLimit_of_isOk {s : σ} {node : ThresholdNode} {value : ℕ}
    (h : isOk (writeLimit s node value).2 = true) : (writeLimit s node value).2 = .ok value := by
  rw [writeLimit] at h ⊢
  split
  · rename_i hwrite
    simp [hwrite, isOk] at h
  · rename_i hwrite
    simp only [hwrite] at h
    split
    · rename_i hread
      simp [hread, isOk] at h
    · rename_i readback hread
      split
      · rename_i hne
        simp [hread, hne, isOk] at h
      · rename_i heq
        rw [not_not.mp heq]

end Stages

/-! ### The code on a host seen through another one -/

section View

open ThresholdHost

variable {σ τ : Type*} [ThresholdHost σ] [ThresholdHost τ]

/-- In the states `I`, a host `σ` is embedded in a host `τ`: the files `files` read the same, and a
write to them in `τ` is the embedded write, which stays in `I`. -/
structure View (emb : σ → τ) (I : σ → Prop) (files : List Path) : Prop where
  read : ∀ s, I s → ∀ p ∈ files, readToString (emb s) p = readToString s p
  write : ∀ s, I s → ∀ p ∈ files, ∀ v,
    fsWrite (emb s) p v = (emb (fsWrite s p v).1, (fsWrite s p v).2)
  kept : ∀ s, I s → ∀ p ∈ files, ∀ v, I (fsWrite s p v).1

variable {emb : σ → τ} {I : σ → Prop} {files : List Path} {s : σ}

theorem readSysfsU64_congr {s : σ} {s' : τ} {p : Path} (h : readToString s' p = readToString s p) :
    readSysfsU64 s' p = readSysfsU64 s p := by
  rw [readSysfsU64, h, readSysfsU64]

namespace View

theorem readSysfsU64_eq (hview : View emb I files) (hs : I s) {p : Path} (hp : p ∈ files) :
    readSysfsU64 (emb s) p = readSysfsU64 s p :=
  readSysfsU64_congr (hview.read s hs p hp)

theorem writeSysfsU64_eq (hview : View emb I files) (hs : I s) {p : Path} (hp : p ∈ files)
    (n : ℕ) : writeSysfsU64 (emb s) p n = (emb (writeSysfsU64 s p n).1, (writeSysfsU64 s p n).2) ∧
      I (writeSysfsU64 s p n).1 := by
  have hkept := hview.kept s hs p hp (decimal n)
  rw [writeSysfsU64, hview.write s hs p hp, writeSysfsU64]
  generalize fsWrite s p (decimal n) = answer at hkept ⊢
  obtain ⟨s', result⟩ := answer
  cases result <;> exact ⟨rfl, hkept⟩

theorem selectCustom_eq (hview : View emb I files) (hs : I s) {p : Path} (hp : p ∈ files) :
    selectCustom (emb s) p = emb (selectCustom s p) ∧ I (selectCustom s p) := by
  have hkept := hview.kept s hs p hp "Custom"
  rw [selectCustom, hview.read s hs p hp, selectCustom, hview.write s hs p hp]
  generalize contains _ "[Custom]" = selected
  cases selected with
  | true => exact ⟨rfl, hs⟩
  | false => exact ⟨rfl, hkept⟩

theorem lowerStart_eq (hview : View emb I files) (hs : I s) {p : Path} (hp : p ∈ files)
    (value : ℕ) : lowerStart (emb s) p value = emb (lowerStart s p value) ∧
      I (lowerStart s p value) := by
  have hwrite := hview.writeSysfsU64_eq hs hp (max (value - 5) 1)
  rw [lowerStart, hview.readSysfsU64_eq hs hp, lowerStart]
  cases readSysfsU64 s p with
  | error e => exact ⟨rfl, hs⟩
  | ok cur =>
    dsimp only
    split
    · exact ⟨by rw [hwrite.1], hwrite.2⟩
    · exact ⟨rfl, hs⟩

theorem ready_eq {node : ThresholdNode} (hview : View emb I node.paths) (hs : I s) (value : ℕ) :
    ready (emb s) node value = emb (ready s node value) ∧ I (ready s node value) := by
  have hmode : node.types.elim (emb s) (selectCustom (emb s))
      = emb (node.types.elim s (selectCustom s)) ∧ I (node.types.elim s (selectCustom s)) := by
    cases htypes : node.types with
    | none => exact ⟨rfl, hs⟩
    | some p => exact hview.selectCustom_eq hs (by simp [ThresholdNode.paths, htypes])
  rw [ready, hmode.1, ready]
  cases hstart : node.start with
  | none => exact ⟨rfl, hmode.2⟩
  | some p => exact hview.lowerStart_eq hmode.2 (by simp [ThresholdNode.paths, hstart]) value

theorem writeLimit_eq {node : ThresholdNode} (hview : View emb I node.paths) (hs : I s)
    (value : ℕ) :
    writeLimit (emb s) node value
      = (emb (writeLimit s node value).1, (writeLimit s node value).2) := by
  have hend : node.endPath ∈ node.paths := by simp [ThresholdNode.paths]
  have hwrite := hview.writeSysfsU64_eq hs hend value
  rw [writeLimit, hwrite.1, writeLimit]
  generalize writeSysfsU64 s node.endPath value = answer at hwrite ⊢
  obtain ⟨s', result⟩ := answer
  cases result with
  | error e => rfl
  | ok =>
    dsimp only
    rw [hview.readSysfsU64_eq hwrite.2 hend]
    cases readSysfsU64 s' node.endPath with
    | error e => rfl
    | ok readback =>
      dsimp only
      split <;> rfl

/-- **The code does not see the difference.** -/
theorem writeNode_eq {node : ThresholdNode} (hview : View emb I node.paths) (hs : I s) (value : ℕ) :
    writeNode (emb s) node value
      = (emb (writeNode s node value).1, (writeNode s node value).2) := by
  rw [writeNode_eq_writeLimit, (hview.ready_eq hs value).1,
    hview.writeLimit_eq (hview.ready_eq hs value).2 value, writeNode_eq_writeLimit]

end View

end View

/-! ### What `write_node` may do to a host -/

section Rule

open ThresholdHost

variable {σ : Type*} [ThresholdHost σ]

/-- The reasons for the writes of `write_node`: what holds before it and is kept by each of its
writes, made for its reason, holds after it. -/
structure WriteRule (Q : σ → Prop) (node : ThresholdNode) (value : ℕ) : Prop where
  mode : ∀ s p, Q s → node.types = some p → contains (currentMode s p) "[Custom]" = false →
    Q (fsWrite s p "Custom").1
  room : ∀ s p cur, Q s → node.start = some p → readSysfsU64 s p = .ok cur → value ≤ cur →
    Q (fsWrite s p (decimal (max (value - 5) 1))).1
  limit : ∀ s, Q s → Q (fsWrite s node.endPath (decimal value)).1

variable {Q : σ → Prop} {node : ThresholdNode} {value : ℕ} {s : σ}

namespace WriteRule

theorem afterMode (hrule : WriteRule Q node value) (hs : Q s) :
    Q (node.types.elim s (selectCustom s)) := by
  cases htypes : node.types with
  | none => exact hs
  | some p =>
    rw [Option.elim_some, selectCustom_eq_ite]
    split
    · exact hs
    · rename_i hsel
      exact hrule.mode s p hs htypes (Bool.not_eq_true _ ▸ hsel)

theorem afterRoom (hrule : WriteRule Q node value) (hs : Q s) :
    Q (node.start.elim s (lowerStart s · value)) := by
  cases hstart : node.start with
  | none => exact hs
  | some p =>
    change Q (lowerStart s p value)
    rw [lowerStart]
    cases hread : readSysfsU64 s p with
    | error e => exact hs
    | ok cur =>
      dsimp only
      split
      · rename_i hle
        rw [writeSysfsU64_state]
        exact hrule.room s p cur hs hstart hread hle
      · exact hs

/-- **The rule.** -/
theorem writeNode (hrule : WriteRule Q node value) (hs : Q s) :
    Q (writeNode s node value).1 := by
  rw [writeNode_eq_writeLimit, writeLimit_state]
  exact hrule.limit _ (hrule.afterRoom (hrule.afterMode hs))

end WriteRule

end Rule

/-! ### The reasons for the writes to one battery -/

/-- A write to the mode selector found it readable and not at `Custom`, or not readable; a write to
the start threshold found it readable and in the way. -/
structure Justified (b : BatteryUnit δ) (value : ℕ) (a : Attempt δ) : Prop where
  mode : b.node.types = some a.path → ∀ content, (b.inState a.before).read a.path = .ok content →
    contains (trim content) "[Custom]" = false
  room : b.node.start = some a.path →
    ∃ cur, readSysfsU64 (b.inState a.before) a.path = .ok cur ∧ value ≤ cur

/-- What every write of `write_node` leaves true: same battery, and reasons for the new attempts. -/
structure Grown (b : BatteryUnit δ) (value : ℕ) (b' : BatteryUnit δ) : Prop where
  node_eq : b'.node = b.node
  driver_eq : b'.driver = b.driver
  attempts_eq : ∃ new, b'.attempts = new ++ b.attempts ∧ ∀ a ∈ new, Justified b value a

theorem Grown.refl (b : BatteryUnit δ) (value : ℕ) : Grown b value b := ⟨rfl, rfl, [], rfl, by simp⟩

theorem Grown.write {b b' : BatteryUnit δ} {value : ℕ} {p : Path} {v : String}
    (h : Grown b value b') (ha : ∀ ok, Justified b value ⟨b'.state, p, v, ok⟩) :
    Grown b value (b'.write p v).1 := by
  obtain ⟨hnode, hdriver, new, hnew, hjust⟩ := h
  refine ⟨by rw [BatteryUnit.node_write, hnode], by rw [BatteryUnit.driver_write, hdriver],
    ⟨b'.state, p, v, isOk (b'.write p v).2⟩ :: new, ?_, ?_⟩
  · rw [BatteryUnit.attempts_write, hnew, List.cons_append]
  · intro a hmem
    rcases List.mem_cons.mp hmem with rfl | hmem
    · exact ha _
    · exact hjust a hmem

/-- A battery that kept its driver reads as the battery it grew from, in its own state. -/
theorem Grown.read_eq {b b' : BatteryUnit δ} {value : ℕ} (h : Grown b value b') (p : Path) :
    b'.read p = (b.inState b'.state).read p := by
  rw [BatteryUnit.read, h.driver_eq]
  rfl

theorem grown_rule (b : BatteryUnit δ) (value : ℕ) :
    WriteRule (Grown b value) b.node value where
  mode b' p h htypes hsel := by
    apply h.write
    intro ok
    refine ⟨?_, fun hstart => absurd htypes (ThresholdNode.types_ne_start b.nodup hstart)⟩
    intro _ content hread
    have hmode : currentMode b' p = trim content := by
      rw [currentMode, show ThresholdHost.readToString b' p = .ok content from
        (h.read_eq p).trans hread]
    rw [← hmode]
    exact hsel
  room b' p cur h hstart hread hle := by
    apply h.write
    intro ok
    refine ⟨fun htypes => absurd htypes (ThresholdNode.types_ne_start b.nodup hstart), ?_⟩
    intro _
    exact ⟨cur, (readSysfsU64_congr (h.read_eq p).symm).trans hread, hle⟩
  limit b' h := by
    apply h.write
    intro ok
    exact ⟨fun htypes => absurd htypes (ThresholdNode.types_ne_endPath b.nodup),
      fun hstart => absurd hstart (ThresholdNode.start_ne_endPath b.nodup)⟩

/-- **Reasons.**  Writing the node of a battery attempts only justified writes. -/
theorem writeNode_grown (b : BatteryUnit δ) (value : ℕ) :
    Grown b value (writeNode b b.node value).1 :=
  (grown_rule b value).writeNode (Grown.refl b value)

/-! ### The write loop over a fleet -/

/-- The battery after its own node was written, nobody else around. -/
def written (value : ℕ) (b : BatteryUnit δ) : BatteryUnit δ := (writeNode b b.node value).1

/-- Its node took the value. -/
def took (value : ℕ) (b : BatteryUnit δ) : Bool := isOk (writeNode b b.node value).2

theorem view_units {pre post : List (BatteryUnit δ)} {node : ThresholdNode}
    (hpre : ∀ a ∈ pre, ∀ p ∈ node.paths, p ∉ a.node.paths) :
    View (fun b : BatteryUnit δ => pre ++ b :: post) (fun b => b.node = node) node.paths where
  read _ hb p hp := readUnits_append (fun a ha => hpre a ha p hp) (hb ▸ hp)
  write _ hb p hp v := writeUnits_append (fun a ha => hpre a ha p hp) (hb ▸ hp) v
  kept b hb p _ v := (b.node_write p v).trans hb

/-- **Locality.**  Writing one node of a fleet is writing it on its battery alone. -/
theorem writeNode_local {pre post : List (BatteryUnit δ)} {b : BatteryUnit δ}
    (hpre : ∀ a ∈ pre, ∀ p ∈ b.node.paths, p ∉ a.node.paths) (value : ℕ) :
    writeNode (pre ++ b :: post) b.node value
      = (pre ++ written value b :: post, (writeNode b b.node value).2) :=
  (view_units hpre).writeNode_eq rfl value

@[simp] theorem node_written (value : ℕ) (b : BatteryUnit δ) : (written value b).node = b.node :=
  (writeNode_grown b value).node_eq

theorem applyNode_local {pre : List (BatteryUnit δ)} {b : BatteryUnit δ}
    (hpre : ∀ a ∈ pre, ∀ p ∈ b.node.paths, p ∉ a.node.paths) (post : List (BatteryUnit δ))
    (value n : ℕ) (lastErr : Option WattWardenError) :
    ∃ lastErr', applyNode value (pre ++ b :: post, n, lastErr) b.node
      = (pre ++ written value b :: post, n + (took value b).toNat, lastErr') := by
  rw [applyNode, writeNode_local hpre, took]
  cases (writeNode b b.node value).2 with
  | error e => exact ⟨some e, rfl⟩
  | ok readback => exact ⟨lastErr, rfl⟩

/-- **The write loop.**  After the batteries `done`, the loop writes every battery of the rest as if
it were alone, and counts those that took the value. -/
theorem applyNodes_fleet (value : ℕ) (done rest : List (BatteryUnit δ))
    (happart : ((done ++ rest).map BatteryUnit.node).Pairwise
      fun m n => ∀ p ∈ m.paths, p ∉ n.paths) (n : ℕ) (lastErr : Option WattWardenError) :
    ∃ lastErr', (rest.map BatteryUnit.node).foldl (applyNode value) (done ++ rest, n, lastErr)
      = (done ++ rest.map (written value), n + rest.countP (took value), lastErr') := by
  induction rest generalizing done n lastErr with
  | nil => exact ⟨lastErr, by simp⟩
  | cons b rest ih =>
    have hpre : ∀ a ∈ done, ∀ p ∈ b.node.paths, p ∉ a.node.paths := by
      intro a ha p hp hpa
      rw [List.map_append, List.pairwise_append] at happart
      exact happart.2.2 a.node (List.mem_map_of_mem ha) b.node (by simp) p hpa hp
    obtain ⟨err₁, hstep⟩ := applyNode_local hpre rest value n lastErr
    obtain ⟨err₂, hloop⟩ := ih (done ++ [written value b]) (by simpa using happart)
      (n + (took value b).toNat) err₁
    refine ⟨err₂, ?_⟩
    rw [List.map_cons, List.foldl_cons, hstep, List.append_cons, hloop, List.countP_cons]
    cases took value b <;> simp
    omega

/-- A fleet after a set call, and whether the call succeeded. -/
theorem setChargeThreshold_fleet (fleet : Fleet δ) (t : ℕ) :
    (setChargeThreshold fleet.units t).1 = fleet.units.map (written (clamp 20 100 t)) ∧
      ((setChargeThreshold fleet.units t).2 = .ok () ↔
        ∃ b ∈ fleet.units, took (clamp 20 100 t) b = true) := by
  obtain ⟨lastErr, hloop⟩ := applyNodes_fleet (clamp 20 100 t) [] fleet.units fleet.apart 0 none
  have hnodes : ThresholdHost.nodes fleet.units = fleet.units.map BatteryUnit.node := rfl
  rw [setChargeThreshold, hnodes, List.isEmpty_map]
  cases hunits : fleet.units with
  | nil => simp
  | cons b bs =>
    rw [← hunits]
    rw [List.nil_append, List.nil_append, Nat.zero_add] at hloop
    rw [hloop, ← List.countP_pos_iff]
    simp only [hunits, List.isEmpty_cons, Bool.false_eq_true, if_false]
    split <;> simp_all

/-- A set call on a machine with one battery. -/
theorem setChargeThreshold_unit (b : BatteryUnit δ) (t : ℕ) :
    (setChargeThreshold b t).1 = written (clamp 20 100 t) b := by
  have hnodes : ThresholdHost.nodes b = [b.node] := rfl
  rw [setChargeThreshold, hnodes, written, List.foldl_cons, List.foldl_nil, applyNode]
  generalize writeNode b b.node (clamp 20 100 t) = answer
  obtain ⟨b', result⟩ := answer
  cases result <;> rfl

/-- **Success.**  A battery takes the value when it accepts the last write, which is the one to
the end threshold, and the value reads back. -/
theorem took_iff (value : ℕ) (b : BatteryUnit δ) : took value b = true ↔
    (∃ a rest, (written value b).attempts = a :: rest ∧ a.path = b.node.endPath ∧
      a.value = decimal value ∧ a.accepted = true) ∧
    readSysfsU64 (written value b) b.node.endPath = .ok value := by
  rw [took, written, writeNode_eq_writeLimit, isOk_writeLimit, writeLimit_state]
  generalize ready b b.node value = b'
  have hattempts : (ThresholdHost.fsWrite b' b.node.endPath (decimal value)).1.attempts
      = ⟨b'.state, b.node.endPath, decimal value,
          isOk (ThresholdHost.fsWrite b' b.node.endPath (decimal value)).2⟩ :: b'.attempts := rfl
  rw [hattempts]
  constructor
  · intro h
    exact ⟨⟨_, _, rfl, rfl, rfl, h.1⟩, h.2⟩
  · intro h
    obtain ⟨⟨a, rest, heq, -, -, haccepted⟩, hread⟩ := h
    obtain ⟨rfl, -⟩ := List.cons_eq_cons.mp heq
    exact ⟨haccepted, hread⟩

/-! ### The batteries of a machine -/

theorem nodup_paths {node : ThresholdNode} (hwf : WellFormed node) : node.paths.Nodup := by
  have hstart : ∀ p, node.start = some p → node.endPath ≠ p := by
    intro p hp
    obtain ⟨name, hname, hend⟩ := hwf.endPath_eq
    rw [hwf.start_eq p hp, hend]
    intro h
    have hleaf : name = startSuffix := by simpa using h
    rw [hleaf] at hname
    revert hname
    decide
  have htypes : ∀ p, node.types = some p → node.endPath ≠ p := fun p hp =>
    (types_ne_endPath hwf hp).symm
  cases hs : node.start with
  | none =>
    cases ht : node.types with
    | none => simp [ThresholdNode.paths, hs, ht]
    | some p => simp [ThresholdNode.paths, hs, ht, htypes p ht]
  | some q =>
    cases ht : node.types with
    | none => simp [ThresholdNode.paths, hs, ht, hstart q hs]
    | some p =>
      simp [ThresholdNode.paths, hs, ht, htypes p ht, hstart q hs, (types_ne_start hwf ht hs).symm]

end Threshold

namespace Fleet

open Threshold

/-- The threshold nodes of any machine, behind any drivers in any states, are a fleet. -/
def discovered (t : Tree) (driver : ThresholdNode → ThresholdDriver δ) (state : ThresholdNode → δ) :
    Fleet δ where
  units := (discover t).attach.map fun node =>
    ⟨node.1, nodup_paths (discover_wellFormed node.2), driver node.1, state node.1, []⟩
  apart := by simpa [Function.comp_def] using discover_pairwise t

end Fleet

end WattWarden
