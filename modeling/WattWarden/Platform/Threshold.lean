import Mathlib.Data.List.Infix
import WattWarden.Core.Traits
import WattWarden.Platform.Battery

/-!
# The battery charge ceiling

`LinuxChargeThreshold`: every battery exposing an end threshold, with its optional start threshold
and charging-mode selector.  The code is written against `ThresholdHost`, a state with fallible
node reads and writes and a list of threshold nodes found anew on every operation; the sysfs tree
is one such host.

* `Threshold.writeNode` / `chargeThreshold` / `setChargeThreshold` — translated from the source;
* `Threshold.discover` — the nodes of a tree; `discover_wellFormed`, `discover_pairwise` —
  **PROVED**: their files are distinct, within one node and across nodes;
* `Threshold.InForce value t node` — the end threshold reads `value`, the mode is `Custom`;
* `setChargeThreshold_inForce` — **PROVED**: where the nodes are regular files, a set call puts its
  clamped value in force on every node;
* `ThresholdWrite t` — every write of the controller on a machine whose nodes are those of `t`.
-/

namespace WattWarden

open Library.FileTree Library.Journaling Library.Numerals

/-- One battery's charge-threshold control nodes. -/
structure ThresholdNode where
  endPath : Path
  start : Option Path
  types : Option Path
  deriving DecidableEq, Repr

namespace ThresholdNode

/-- The files of one node. -/
def paths (node : ThresholdNode) : List Path :=
  node.endPath :: (node.start.toList ++ node.types.toList)

/-- The directory a node lives in. -/
def dir (node : ThresholdNode) : Path := node.endPath.dropLast

end ThresholdNode

/-- What the threshold code runs on. -/
class ThresholdHost (σ : Type*) where
  readToString : σ → Path → Except IoError String
  fsWrite : σ → Path → String → σ × Except IoError Unit
  nodes : σ → List ThresholdNode

namespace Threshold

section Code

variable {σ : Type*} [ThresholdHost σ]

open ThresholdHost

def readSysfsU64 (s : σ) (p : Path) : Except WattWardenError ℕ :=
  match readToString s p with
  | .error e => .error (.io p e)
  | .ok content =>
      match parseUnsigned (2 ^ 64) (trim content) with
      | none => .error (.parseInt p (trim content))
      | some n => .ok n

def writeSysfsU64 (s : σ) (p : Path) (n : ℕ) : σ × Except WattWardenError Unit :=
  match fsWrite s p (decimal n) with
  | (s, .ok ()) => (s, .ok ())
  | (s, .error e) =>
      (s, .error (if e.permissionDenied then .permissionDenied s!"Cannot write to {displayPath p}"
        else .io p e))

/-- `str::contains`. -/
def contains (s pattern : String) : Bool := decide (pattern.toList <:+: s.toList)

/-- Dell-style firmware honours user thresholds in `Custom` mode only. -/
def selectCustom (s : σ) (types : Path) : σ :=
  let current := match readToString s types with
    | .ok content => trim content
    | .error _ => ""
  if contains current "[Custom]" then s else (fsWrite s types "Custom").1

/-- The kernel rejects `end <= start`: lower a start threshold that is in the way. -/
def lowerStart (s : σ) (start : Path) (value : ℕ) : σ :=
  match readSysfsU64 s start with
  | .ok cur => if value ≤ cur then (writeSysfsU64 s start (max (value - 5) 1)).1 else s
  | .error _ => s

/-- `write_node`: select `Custom`, make room, write the end threshold and read it back. -/
def writeNode (s : σ) (node : ThresholdNode) (value : ℕ) : σ × Except WattWardenError ℕ :=
  let s := node.types.elim s (selectCustom s)
  let s := node.start.elim s (lowerStart s · value)
  match writeSysfsU64 s node.endPath value with
  | (s, .error e) => (s, .error e)
  | (s, .ok ()) =>
      match readSysfsU64 s node.endPath with
      | .error e => (s, .error e)
      | .ok readback =>
          if readback ≠ value then
            (s, .error (.unsupported
              s!"charge threshold did not stick: wrote {value}, hardware reports {readback}"))
          else (s, .ok readback)

def supportsThreshold (s : σ) : Bool := !(nodes s).isEmpty

/-- `charge_threshold`: the first node whose end threshold reads decides, inside `1..=100`. -/
def chargeThreshold (s : σ) : Except WattWardenError ℕ :=
  match (nodes s).findSome? fun node => (readSysfsU64 s node.endPath).toOption with
  | some val => .ok (clamp 1 100 val)
  | none => .error (.unsupported "Hardware does not expose a charge threshold")

theorem supportsThreshold_eq_false (s : σ) : supportsThreshold s = false ↔ nodes s = [] := by
  simp [supportsThreshold]

theorem toOption_chargeThreshold (s : σ) : (chargeThreshold s).toOption
    = ((nodes s).findSome? fun node => (readSysfsU64 s node.endPath).toOption).map
        (clamp 1 100) := by
  rw [chargeThreshold]
  cases (nodes s).findSome? fun node => (readSysfsU64 s node.endPath).toOption with
  | none => rfl
  | some val => rfl

/-- One round of the write loop: the state, how many nodes took the value, and the last error. -/
def applyNode (value : ℕ) (acc : σ × ℕ × Option WattWardenError) (node : ThresholdNode) :
    σ × ℕ × Option WattWardenError :=
  match writeNode acc.1 node value with
  | (s, .ok _) => (s, acc.2.1 + 1, acc.2.2)
  | (s, .error e) => (s, acc.2.1, some e)

def setChargeThreshold (s : σ) (threshold : ℕ) : σ × Except WattWardenError Unit :=
  if (nodes s).isEmpty then
    (s, .error (.unsupported
      "Hardware does not support setting battery charge limit threshold"))
  else
    let (s', applied, lastErr) := (nodes s).foldl (applyNode (clamp 20 100 threshold)) (s, 0, none)
    if 0 < applied then (s', .ok ())
    else (s', .error (lastErr.getD (.unsupported "No battery accepted a charge threshold")))

/-- `impl ChargeThreshold for LinuxChargeThreshold`. -/
def linuxChargeThreshold : ChargeThreshold σ where
  supportsThreshold := supportsThreshold
  chargeThreshold := chargeThreshold
  setChargeThreshold := setChargeThreshold

@[simp] theorem linux_chargeThreshold (s : σ) :
    linuxChargeThreshold.chargeThreshold s = chargeThreshold s := rfl

@[simp] theorem linux_setChargeThreshold (s : σ) (threshold : ℕ) :
    linuxChargeThreshold.setChargeThreshold s threshold = setChargeThreshold s threshold := rfl

end Code

/-! ### The sysfs tree as a host -/

def endSuffixes : List String :=
  ["charge_control_end_threshold", "charge_stop_threshold", "charge_control_limit_max"]

def startSuffix : String := "charge_control_start_threshold"

def typesSuffix : String := "charge_types"

/-- Platform-driver end thresholds: driver directory and file name. -/
def directEndPaths : List (String × String) :=
  [("asus-nb-wmi", "charge_control_end_threshold"), ("huawei-wmi", "charge_thresholds")]

/-- The node with the end threshold `dir/name` and the start and mode files next to it. -/
def nodeIn (t : Tree) (dir : Path) (name : String) : ThresholdNode where
  endPath := dir ++ [name]
  start := if t.pathExists (dir ++ [startSuffix]) then some (dir ++ [startSuffix]) else none
  types := if t.pathExists (dir ++ [typesSuffix]) then some (dir ++ [typesSuffix]) else none

/-- The node of one power supply: its first known end-threshold file. -/
def supplyThreshold (t : Tree) (supply : String) : Option ThresholdNode :=
  (endSuffixes.find? fun name => t.pathExists (supplyNode supply name)).map
    (nodeIn t (powerSupplyBase ++ [supply]))

def platformDir (driver : String) : Path := ["sys", "devices", "platform", driver]

/-- The node of one platform driver. -/
def directThreshold (t : Tree) (direct : String × String) : Option ThresholdNode :=
  if t.pathExists (platformDir direct.1 ++ [direct.2]) then
    some (nodeIn t (platformDir direct.1) direct.2)
  else none

/-- Every threshold-capable node on this machine, resolved now. -/
def discover (t : Tree) : List ThresholdNode :=
  (t.names powerSupplyBase).filterMap (supplyThreshold t) ++
    directEndPaths.filterMap (directThreshold t)

/-- What the operating system reports for a path that is not a regular file. -/
def noFile (t : Tree) (p : Path) : IoError :=
  ⟨false, if t.isDir p then "Is a directory (os error 21)"
    else "No such file or directory (os error 2)"⟩

instance : ThresholdHost SysfsRoot where
  readToString s p :=
    match s.tree.content p with
    | some content => .ok content
    | none => .error (noFile s.tree p)
  fsWrite s p v :=
    (s.write .wattwarden p v,
      if s.tree.writable p then .ok () else .error (noFile s.tree p))
  nodes s := discover s.tree

/-! ### The nodes of a tree are apart -/

/-- Every end-threshold file name. -/
def endLeaves : List String := endSuffixes ++ directEndPaths.map Prod.snd

/-- A node as discovery builds it: three files of one directory, told apart by their names. -/
structure WellFormed (node : ThresholdNode) : Prop where
  endPath_eq : ∃ name ∈ endLeaves, node.endPath = node.dir ++ [name]
  start_eq : ∀ p ∈ node.start, p = node.dir ++ [startSuffix]
  types_eq : ∀ p ∈ node.types, p = node.dir ++ [typesSuffix]

theorem wellFormed_nodeIn (t : Tree) (dir : Path) {name : String} (h : name ∈ endLeaves) :
    WellFormed (nodeIn t dir name) where
  endPath_eq := ⟨name, h, by simp [nodeIn, ThresholdNode.dir]⟩
  start_eq p hp := by
    simp only [nodeIn, ThresholdNode.dir, List.dropLast_concat] at hp ⊢
    split at hp <;> simp_all
  types_eq p hp := by
    simp only [nodeIn, ThresholdNode.dir, List.dropLast_concat] at hp ⊢
    split at hp <;> simp_all

theorem supplyThreshold_spec {t : Tree} {supply : String} {node : ThresholdNode}
    (h : supplyThreshold t supply = some node) :
    ∃ name ∈ endSuffixes, node = nodeIn t (powerSupplyBase ++ [supply]) name ∧
      t.pathExists node.endPath = true := by
  obtain ⟨name, hname, rfl⟩ := Option.map_eq_some_iff.mp h
  exact ⟨name, List.mem_of_find?_eq_some hname, rfl, by
    simpa [nodeIn, supplyNode] using List.find?_some hname⟩

theorem directThreshold_spec {t : Tree} {direct : String × String} {node : ThresholdNode}
    (h : directThreshold t direct = some node) :
    node = nodeIn t (platformDir direct.1) direct.2 ∧ t.pathExists node.endPath = true := by
  rw [directThreshold] at h
  split at h
  · rename_i hex
    cases h
    exact ⟨rfl, hex⟩
  · cases h

/-- Where a discovered node comes from. -/
theorem mem_discover {t : Tree} {node : ThresholdNode} (h : node ∈ discover t) :
    (∃ supply ∈ t.names powerSupplyBase, supplyThreshold t supply = some node) ∨
    (∃ direct ∈ directEndPaths, directThreshold t direct = some node) := by
  rw [discover, List.mem_append, List.mem_filterMap, List.mem_filterMap] at h
  exact h

theorem discover_wellFormed {t : Tree} {node : ThresholdNode} (h : node ∈ discover t) :
    WellFormed node := by
  rcases mem_discover h with ⟨supply, -, hnode⟩ | ⟨direct, hdirect, hnode⟩
  · obtain ⟨name, hname, rfl, -⟩ := supplyThreshold_spec hnode
    exact wellFormed_nodeIn t _ (List.mem_append_left _ hname)
  · obtain ⟨rfl, -⟩ := directThreshold_spec hnode
    exact wellFormed_nodeIn t _ (List.mem_append_right _ (List.mem_map_of_mem hdirect))

@[simp] theorem dir_nodeIn (t : Tree) (dir : Path) (name : String) :
    (nodeIn t dir name).dir = dir := by
  simp [nodeIn, ThresholdNode.dir]

/-- Every discovered node has a directory of its own. -/
theorem discover_dir_pairwise (t : Tree) :
    (discover t).Pairwise fun a b => a.dir ≠ b.dir := by
  rw [discover, List.pairwise_append]
  refine ⟨?_, ?_, ?_⟩
  · rw [List.pairwise_filterMap]
    refine (Tree.names_nodup t powerSupplyBase).imp ?_
    intro supply₁ supply₂ hne node₁ h₁ node₂ h₂
    obtain ⟨name₁, -, rfl, -⟩ := supplyThreshold_spec h₁
    obtain ⟨name₂, -, rfl, -⟩ := supplyThreshold_spec h₂
    simpa using hne
  · rw [List.pairwise_filterMap]
    have hne : directEndPaths.Pairwise fun a b => platformDir a.1 ≠ platformDir b.1 := by decide
    refine hne.imp ?_
    intro direct₁ direct₂ hne node₁ h₁ node₂ h₂
    obtain ⟨rfl, -⟩ := directThreshold_spec h₁
    obtain ⟨rfl, -⟩ := directThreshold_spec h₂
    simpa using hne
  · intro node₁ h₁ node₂ h₂
    obtain ⟨supply, -, hnode₁⟩ := List.mem_filterMap.mp h₁
    obtain ⟨direct, -, hnode₂⟩ := List.mem_filterMap.mp h₂
    obtain ⟨name, -, rfl, -⟩ := supplyThreshold_spec hnode₁
    obtain ⟨rfl, -⟩ := directThreshold_spec hnode₂
    rw [dir_nodeIn, dir_nodeIn]
    exact ne_of_subsystem_ne (by simp [subsystem, powerSupplyBase, platformDir])

theorem dropLast_of_mem_paths {node : ThresholdNode} (hwf : WellFormed node) {p : Path}
    (hp : p ∈ node.paths) : p.dropLast = node.dir := by
  simp only [ThresholdNode.paths, List.mem_cons, List.mem_append, Option.mem_toList] at hp
  rcases hp with rfl | hp | hp
  · rfl
  · rw [hwf.start_eq p hp, List.dropLast_concat]
  · rw [hwf.types_eq p hp, List.dropLast_concat]

/-- **Nodes are apart.**  Two discovered nodes share no file. -/
theorem discover_pairwise (t : Tree) :
    (discover t).Pairwise fun a b => ∀ p ∈ a.paths, p ∉ b.paths := by
  refine (discover_dir_pairwise t).imp_of_mem ?_
  intro a b ha hb hne p hpa hpb
  apply hne
  rw [← dropLast_of_mem_paths (discover_wellFormed ha) hpa,
    dropLast_of_mem_paths (discover_wellFormed hb) hpb]

theorem types_ne_endPath {node : ThresholdNode} (hwf : WellFormed node) {p : Path}
    (hp : node.types = some p) : p ≠ node.endPath := by
  obtain ⟨name, hname, hend⟩ := hwf.endPath_eq
  rw [hwf.types_eq p hp, hend]
  intro h
  have hleaf : typesSuffix = name := by simpa using h
  rw [← hleaf] at hname
  revert hname
  decide

theorem types_ne_start {node : ThresholdNode} (hwf : WellFormed node) {p q : Path}
    (hp : node.types = some p) (hq : node.start = some q) : p ≠ q := by
  rw [hwf.types_eq p hp, hwf.start_eq q hq]
  simp [typesSuffix, startSuffix]

/-! ### Discovery looks at existence only -/

/-- Two trees with the same paths where threshold nodes live. -/
def SameSupplies (t t' : Tree) : Prop :=
  ∀ p, (subsystem p = .powerSupply ∨ subsystem p = .platformDevice) →
    t'.pathExists p = t.pathExists p

theorem nodeIn_congr {t t' : Tree} (h : SameSupplies t t') (dir : Path) (name : String)
    (hdir : ∀ n, subsystem (dir ++ [n]) = .powerSupply ∨ subsystem (dir ++ [n]) = .platformDevice) :
    nodeIn t' dir name = nodeIn t dir name := by
  rw [nodeIn, nodeIn, h _ (hdir startSuffix), h _ (hdir typesSuffix)]

/-- **Discovery is stable.**  It depends only on which paths exist. -/
theorem discover_congr {t t' : Tree} (h : SameSupplies t t') : discover t' = discover t := by
  have hnames : t'.names powerSupplyBase = t.names powerSupplyBase :=
    Tree.names_congr fun n => h _ (.inl rfl)
  have hsupply : supplyThreshold t' = supplyThreshold t := by
    funext supply
    have hex : ∀ name, t'.pathExists (supplyNode supply name)
        = t.pathExists (supplyNode supply name) := fun name => h _ (.inl rfl)
    have hnode : nodeIn t' (powerSupplyBase ++ [supply])
        = nodeIn t (powerSupplyBase ++ [supply]) := by
      funext name
      exact nodeIn_congr h _ _ fun n => .inl rfl
    simp only [supplyThreshold, hex, hnode]
  have hdirect : directThreshold t' = directThreshold t := by
    funext direct
    have hex := h (platformDir direct.1 ++ [direct.2]) (.inr rfl)
    have hnode := nodeIn_congr h (platformDir direct.1) direct.2 fun n => .inr rfl
    rw [directThreshold, directThreshold, hex, hnode]
  rw [discover, discover, hnames, hsupply, hdirect]

/-! ### What the controller can write -/

/-- Every write of the controller, on a machine whose nodes are those of `t`. -/
inductive ThresholdWrite (t : Tree) : Write Actor → Prop
  | node {node : ThresholdNode} {p : Path} {v : String} : node ∈ discover t → p ∈ node.paths →
      ThresholdWrite t ⟨.wattwarden, p, v⟩

/-- The directory of a discovered node is a power supply or a platform driver. -/
theorem subsystem_of_mem_discover {t : Tree} {node : ThresholdNode} (hnode : node ∈ discover t)
    {p : Path} (hp : p ∈ node.paths) :
    subsystem p = .powerSupply ∨ subsystem p = .platformDevice := by
  have hdir : (∃ supply, node.dir = powerSupplyBase ++ [supply]) ∨
      ∃ driver, node.dir = platformDir driver := by
    rcases mem_discover hnode with ⟨supply, -, h⟩ | ⟨direct, -, h⟩
    · obtain ⟨name, -, rfl, -⟩ := supplyThreshold_spec h
      exact .inl ⟨supply, dir_nodeIn t _ name⟩
    · obtain ⟨rfl, -⟩ := directThreshold_spec h
      exact .inr ⟨direct.1, dir_nodeIn t _ direct.2⟩
  have hlast := dropLast_of_mem_paths (discover_wellFormed hnode) hp
  have hne : p ≠ [] := by
    intro heq
    subst heq
    rcases hdir with ⟨supply, h⟩ | ⟨driver, h⟩ <;> rw [h] at hlast <;> cases hlast
  rw [← List.dropLast_append_getLast hne, hlast]
  rcases hdir with ⟨supply, h⟩ | ⟨driver, h⟩
  · exact .inl (by rw [h]; rfl)
  · exact .inr (by rw [h]; rfl)

/-- Discovered files exist. -/
theorem pathExists_of_mem_discover {t : Tree} {node : ThresholdNode} (hnode : node ∈ discover t)
    {p : Path} (hp : p ∈ node.paths) : t.pathExists p = true := by
  have hnodeIn : ∃ dir name, node = nodeIn t dir name ∧ t.pathExists node.endPath = true := by
    rcases mem_discover hnode with ⟨supply, -, h⟩ | ⟨direct, -, h⟩
    · obtain ⟨name, -, heq, hex⟩ := supplyThreshold_spec h
      exact ⟨_, name, heq, hex⟩
    · obtain ⟨heq, hex⟩ := directThreshold_spec h
      exact ⟨_, _, heq, hex⟩
  obtain ⟨dir, name, rfl, hend⟩ := hnodeIn
  simp only [ThresholdNode.paths, List.mem_cons, List.mem_append, Option.mem_toList] at hp
  rcases hp with rfl | hp | hp
  · exact hend
  · simp only [nodeIn] at hp
    split at hp
    · rename_i hex
      cases hp
      exact hex
    · cases hp
  · simp only [nodeIn] at hp
    split at hp
    · rename_i hex
      cases hp
      exact hex
    · cases hp

theorem ThresholdWrite.subsystem_mem {t : Tree} {w : Write Actor} (h : ThresholdWrite t w) :
    subsystem w.path = .powerSupply ∨ subsystem w.path = .platformDevice := by
  cases h with
  | node hnode hp => exact subsystem_of_mem_discover hnode hp

theorem ThresholdWrite.pathExists {t : Tree} {w : Write Actor} (h : ThresholdWrite t w) :
    t.pathExists w.path = true := by
  cases h with
  | node hnode hp => exact pathExists_of_mem_discover hnode hp

theorem fsWrite_eq (s : SysfsRoot) (p : Path) (v : String) :
    ThresholdHost.fsWrite s p v = (s.write .wattwarden p v,
      if s.tree.writable p then .ok () else .error (noFile s.tree p)) := rfl

theorem readToString_eq (s : SysfsRoot) (p : Path) :
    ThresholdHost.readToString s p = match s.tree.content p with
      | some content => .ok content
      | none => .error (noFile s.tree p) := rfl

theorem writeSysfsU64_fst (s : SysfsRoot) (p : Path) (n : ℕ) :
    (writeSysfsU64 s p n).1 = s.write .wattwarden p (decimal n) := by
  rw [writeSysfsU64, fsWrite_eq]
  cases s.tree.writable p <;> rfl

theorem writeSysfsU64_ok {s : SysfsRoot} {p : Path} (h : s.tree.isFile p = true) (n : ℕ) :
    writeSysfsU64 s p n = (s.write .wattwarden p (decimal n), .ok ()) := by
  rw [writeSysfsU64, fsWrite_eq, if_pos (Tree.writable_of_isFile h)]

/-- Reading a number from the tree. -/
theorem readSysfsU64_toOption (s : SysfsRoot) (p : Path) :
    (readSysfsU64 s p).toOption = SysfsRoot.readU64 s.tree p := by
  rw [readSysfsU64, readToString_eq, SysfsRoot.readU64, SysfsRoot.read]
  cases s.tree.content p with
  | none =>
    have hempty : parseUnsigned (2 ^ 64) "" = none := by decide
    exact hempty.symm
  | some content =>
    simp only [Option.map_some, Option.getD_some]
    cases parseUnsigned (2 ^ 64) (trim content) <;> rfl

section Extends

variable {P : Write Actor → Prop} {s₀ s : SysfsRoot}

theorem selectCustom_extends {p : Path} (hP : ∀ v, P ⟨.wattwarden, p, v⟩) (h : Extends P s₀ s) :
    Extends P s₀ (selectCustom s p) := by
  rw [selectCustom, fsWrite_eq]
  simp only
  generalize contains _ "[Custom]" = selected
  cases selected with
  | true => exact h
  | false => exact h.write (hP _)

theorem lowerStart_extends {p : Path} (hP : ∀ v, P ⟨.wattwarden, p, v⟩) (h : Extends P s₀ s)
    (value : ℕ) : Extends P s₀ (lowerStart s p value) := by
  rw [lowerStart]
  split
  · split
    · rw [writeSysfsU64_fst]
      exact h.write (hP _)
    · exact h
  · exact h

/-- The first step of `write_node`. -/
theorem mode_extends {types : Option Path} (hP : ∀ p ∈ types, ∀ v, P ⟨.wattwarden, p, v⟩)
    (h : Extends P s₀ s) : Extends P s₀ (types.elim s (selectCustom s)) := by
  cases types with
  | none => exact h
  | some p => exact selectCustom_extends (hP p rfl) h

/-- The second step of `write_node`. -/
theorem room_extends {start : Option Path} (hP : ∀ p ∈ start, ∀ v, P ⟨.wattwarden, p, v⟩)
    (h : Extends P s₀ s) (value : ℕ) : Extends P s₀ (start.elim s (lowerStart s · value)) := by
  cases start with
  | none => exact h
  | some p => exact lowerStart_extends (hP p rfl) h value

/-- The three steps of `write_node` before the read-back. -/
theorem writeNode_fst (s : SysfsRoot) (node : ThresholdNode) (value : ℕ) :
    (writeNode s node value).1
      = (let s := node.types.elim s (selectCustom s)
         let s := node.start.elim s (lowerStart s · value)
         s.write .wattwarden node.endPath (decimal value)) := by
  rw [writeNode]
  simp only
  generalize hs : node.start.elim _ _ = s'
  have hfst := writeSysfsU64_fst s' node.endPath value
  rcases hwrite : writeSysfsU64 s' node.endPath value with ⟨s'', e | u⟩
  · rw [hwrite] at hfst
    exact hfst
  · rw [hwrite] at hfst
    simp only
    split
    · exact hfst
    · split <;> exact hfst

theorem writeNode_extends {node : ThresholdNode}
    (hP : ∀ p ∈ node.paths, ∀ v, P ⟨.wattwarden, p, v⟩) (h : Extends P s₀ s) (value : ℕ) :
    Extends P s₀ (writeNode s node value).1 := by
  have htypes : ∀ p ∈ node.types, p ∈ node.paths := by
    intro p hp
    simp [ThresholdNode.paths, Option.mem_def.mp hp]
  have hstart : ∀ p ∈ node.start, p ∈ node.paths := by
    intro p hp
    simp [ThresholdNode.paths, Option.mem_def.mp hp]
  have hmode := mode_extends (fun p hp => hP p (htypes p hp)) h
  have hroom := room_extends (fun p hp => hP p (hstart p hp)) hmode value
  rw [writeNode_fst]
  exact hroom.write (hP _ (by simp [ThresholdNode.paths]) _)

theorem applyNodes_extends {nodes : List ThresholdNode}
    (hP : ∀ node ∈ nodes, ∀ p ∈ node.paths, ∀ v, P ⟨.wattwarden, p, v⟩) (value : ℕ)
    (acc : SysfsRoot × ℕ × Option WattWardenError) (h : Extends P s₀ acc.1) :
    Extends P s₀ (nodes.foldl (applyNode value) acc).1 := by
  induction nodes generalizing acc with
  | nil => exact h
  | cons node nodes ih =>
    apply ih fun node' hnode' => hP node' (List.mem_cons_of_mem _ hnode')
    have hone : (applyNode value acc node).1 = (writeNode acc.1 node value).1 := by
      rw [applyNode]
      rcases writeNode acc.1 node value with ⟨s', e | n⟩ <;> rfl
    rw [hone]
    exact writeNode_extends (hP node (by simp)) h value

theorem setChargeThreshold_fst (s : SysfsRoot) (threshold : ℕ) :
    (setChargeThreshold s threshold).1
      = ((discover s.tree).foldl (applyNode (clamp 20 100 threshold)) (s, 0, none)).1 := by
  rw [setChargeThreshold]
  show (if (discover s.tree).isEmpty = true then _ else _ :
    SysfsRoot × Except WattWardenError Unit).1 = _
  split
  · rename_i hempty
    rw [List.isEmpty_iff.mp hempty]
    rfl
  · simp only
    split <;> rfl

theorem setChargeThreshold_extends {t : Tree} (hP : ∀ w, ThresholdWrite t w → P w)
    (hs : SameSupplies t s.tree) (h : Extends P s₀ s) (threshold : ℕ) :
    Extends P s₀ (setChargeThreshold s threshold).1 := by
  rw [setChargeThreshold_fst, discover_congr hs]
  exact applyNodes_extends (fun node hnode p hp v => hP _ (.node hnode hp)) _ _ h

end Extends

/-! ### A set call where the nodes are regular files -/

/-- The selector is at `Custom`: bracketed in the list of modes, or alone. -/
def CustomSelected (t : Tree) (types : Path) : Prop :=
  contains (SysfsRoot.read t types) "[Custom]" = true ∨ SysfsRoot.read t types = "Custom"

instance (t : Tree) (types : Path) : Decidable (CustomSelected t types) :=
  inferInstanceAs (Decidable (_ ∨ _))

/-- The ceiling `value` is in force on one battery. -/
structure InForce (value : ℕ) (t : Tree) (node : ThresholdNode) : Prop where
  end_eq : SysfsRoot.readU64 t node.endPath = some value
  custom : ∀ types ∈ node.types, CustomSelected t types

theorem InForce.congr {value : ℕ} {t t' : Tree} {node : ThresholdNode}
    (hcontent : ∀ p ∈ node.paths, t'.content p = t.content p) (h : InForce value t node) :
    InForce value t' node where
  end_eq := by
    rw [SysfsRoot.readU64_congr (hcontent node.endPath (by simp [ThresholdNode.paths]))]
    exact h.end_eq
  custom types htypes := by
    have hmem : types ∈ node.paths := by
      simp only [Option.mem_def] at htypes
      simp [ThresholdNode.paths, htypes]
    rw [CustomSelected, SysfsRoot.read_congr (hcontent types hmem)]
    exact h.custom types htypes

theorem readU64_decimal {t : Tree} {p : Path} {n : ℕ} (h : t.content p = some (decimal n))
    (hn : n < 2 ^ 64) : SysfsRoot.readU64 t p = some n := by
  rw [SysfsRoot.readU64, SysfsRoot.read, h]
  exact (congrArg (parseUnsigned (2 ^ 64)) (trim_decimal n)).trans (parseUnsigned_decimal hn)

theorem selectCustom_selected {s : SysfsRoot} {types : Path} (h : s.tree.isFile types = true) :
    CustomSelected (selectCustom s types).tree types := by
  obtain ⟨content, hcontent⟩ := Tree.isFile_iff.mp h
  have hread : SysfsRoot.read s.tree types = trim content := by rw [SysfsRoot.read, hcontent]; rfl
  rw [selectCustom, readToString_eq, fsWrite_eq, hcontent]
  show CustomSelected (if contains (trim content) "[Custom]" = true then s
    else s.write .wattwarden types "Custom").tree types
  split
  · rename_i hsel
    exact .inl (by rw [hread]; exact hsel)
  · right
    rw [SysfsRoot.read, Journal.tree_write, Tree.content_write_self _ (Tree.writable_of_isFile h)]
    decide

/-- **One node.**  Where its files are regular, `write_node` succeeds and puts the value in
force. -/
theorem writeNode_spec {s : SysfsRoot} {node : ThresholdNode} (hwf : WellFormed node)
    (hfile : ∀ p ∈ node.paths, s.tree.isFile p = true) {value : ℕ} (hvalue : value < 2 ^ 64) :
    (writeNode s node value).2 = .ok value ∧
      InForce value (writeNode s node value).1.tree node := by
  have hend : node.endPath ∈ node.paths := by simp [ThresholdNode.paths]
  -- the state after the mode selection, and after making room
  obtain ⟨s₁, hs₁⟩ : ∃ s₁, node.types.elim s (selectCustom s) = s₁ := ⟨_, rfl⟩
  obtain ⟨s₂, hs₂⟩ : ∃ s₂, node.start.elim s₁ (lowerStart s₁ · value) = s₂ := ⟨_, rfl⟩
  have hext₁ : Extends (fun w => ∃ p ∈ node.types, w.path = p) s s₁ :=
    hs₁ ▸ mode_extends (fun p hp _ => ⟨p, hp, rfl⟩) (Extends.refl _ s)
  have hext₂ : Extends (fun w => ∃ p ∈ node.start, w.path = p) s₁ s₂ :=
    hs₂ ▸ room_extends (fun p hp _ => ⟨p, hp, rfl⟩) (Extends.refl _ s₁) value
  have hfile₂ : s₂.tree.isFile node.endPath = true :=
    hext₂.isFile_mono (hext₁.isFile_mono (hfile _ hend))
  have hcontent : (s₂.write .wattwarden node.endPath (decimal value)).tree.content node.endPath
      = some (decimal value) := by
    rw [Journal.tree_write, Tree.content_write_self _ (Tree.writable_of_isFile hfile₂)]
  have hread := readU64_decimal hcontent hvalue
  have hwrite : writeNode s node value
      = (s₂.write .wattwarden node.endPath (decimal value), .ok value) := by
    have hback : readSysfsU64 (s₂.write .wattwarden node.endPath (decimal value)) node.endPath
        = .ok value := by
      rw [← toOption_eq_some, readSysfsU64_toOption]
      exact hread
    rw [writeNode]
    simp only [hs₁, hs₂, writeSysfsU64_ok hfile₂, hback, ne_eq, not_true_eq_false, if_false]
  rw [hwrite]
  refine ⟨rfl, hread, ?_⟩
  intro types htypes
  have hsel : CustomSelected s₁.tree types := by
    rw [← hs₁, Option.mem_def.mp htypes]
    exact selectCustom_selected
      (hfile types (by simp [ThresholdNode.paths, Option.mem_def.mp htypes]))
  -- neither the start nor the end threshold is the mode selector
  have hstart : s₂.tree.content types = s₁.tree.content types := by
    apply hext₂.content_eq
    intro w hw hpath
    obtain ⟨p, hp, hwp⟩ := hw
    exact types_ne_start hwf htypes hp (hpath.symm.trans hwp)
  have hkeep : (s₂.write .wattwarden node.endPath (decimal value)).tree.content types
      = s₁.tree.content types := by
    rw [Journal.tree_write, Tree.content_write_ne _ (types_ne_endPath hwf htypes), hstart]
  rw [CustomSelected, SysfsRoot.read_congr hkeep]
  exact hsel

/-- **The write loop.**  Every node of a list of nodes apart from each other ends in force. -/
theorem applyNodes_inForce {nodes : List ThresholdNode} {value : ℕ} (hvalue : value < 2 ^ 64)
    (hwf : ∀ node ∈ nodes, WellFormed node)
    (hapart : nodes.Pairwise fun a b => ∀ p ∈ a.paths, p ∉ b.paths) :
    ∀ acc : SysfsRoot × ℕ × Option WattWardenError,
      (∀ node ∈ nodes, ∀ p ∈ node.paths, acc.1.tree.isFile p = true) →
      (∀ node ∈ nodes, InForce value (nodes.foldl (applyNode value) acc).1.tree node) ∧
        (nodes.foldl (applyNode value) acc).2.1 = acc.2.1 + nodes.length := by
  induction nodes with
  | nil => exact fun acc _ => ⟨by simp, rfl⟩
  | cons node nodes ih =>
    intro acc hfile
    rw [List.pairwise_cons] at hapart
    have hone := writeNode_spec (hwf node (by simp)) (hfile node (by simp)) hvalue
    have hext : Extends (fun w => w.path ∈ node.paths) acc.1 (writeNode acc.1 node value).1 :=
      writeNode_extends (fun p hp v => hp) (Extends.refl _ acc.1) value
    have hacc : applyNode value acc node
        = ((writeNode acc.1 node value).1, acc.2.1 + 1, acc.2.2) := by
      rw [applyNode]
      rw [← Prod.eta (writeNode acc.1 node value), hone.1]
    have hfile' : ∀ node' ∈ nodes, ∀ p ∈ node'.paths,
        (applyNode value acc node).1.tree.isFile p = true := by
      intro node' hnode' p hp
      rw [hacc]
      exact hext.isFile_mono (hfile node' (List.mem_cons_of_mem _ hnode') p hp)
    obtain ⟨hrest, hcount⟩ := ih (fun n hn => hwf n (List.mem_cons_of_mem _ hn)) hapart.2 _ hfile'
    refine ⟨?_, ?_⟩
    · intro node' hnode'
      rcases List.mem_cons.mp hnode' with rfl | hnode'
      · -- the later rounds write files of other nodes
        have hlater : Extends (fun w => ∃ n ∈ nodes, w.path ∈ n.paths)
            (applyNode value acc node').1
            (nodes.foldl (applyNode value) (applyNode value acc node')).1 :=
          applyNodes_extends (fun n hn p hp v => ⟨n, hn, hp⟩) value _ (Extends.refl _ _)
        rw [List.foldl_cons]
        apply InForce.congr (t := (applyNode value acc node').1.tree)
        · intro p hp
          apply hlater.content_eq
          intro w hw hpath
          obtain ⟨n, hn, hwn⟩ := hw
          exact hapart.1 n hn p hp (hpath ▸ hwn)
        · rw [hacc]
          exact hone.2
      · exact hrest node' hnode'
    · rw [List.foldl_cons, hcount, hacc, List.length_cons]
      show acc.2.1 + 1 + nodes.length = acc.2.1 + (nodes.length + 1)
      omega

/-- Every file of every discovered node is a regular file: it accepts and stores writes. -/
def AllRegular (t : Tree) : Prop := ∀ node ∈ discover t, ∀ p ∈ node.paths, t.isFile p = true

instance (t : Tree) : Decidable (AllRegular t) := inferInstanceAs (Decidable (∀ _ ∈ _, ∀ _ ∈ _, _))

/-- **A set call.**  Where the nodes are regular files and there is one, the call returns `Ok` and
its clamped value is in force on every battery. -/
theorem setChargeThreshold_inForce {s : SysfsRoot} (hreg : AllRegular s.tree) (threshold : ℕ) :
    (∀ node ∈ discover s.tree,
      InForce (clamp 20 100 threshold) (setChargeThreshold s threshold).1.tree node) ∧
    (discover s.tree ≠ [] → (setChargeThreshold s threshold).2 = .ok ()) := by
  have hle : clamp 20 100 threshold ≤ 100 := clamp_le (by omega)
  have hlt : clamp 20 100 threshold < 2 ^ 64 := by omega
  obtain ⟨hforce, hcount⟩ := applyNodes_inForce hlt (fun _ h => discover_wellFormed h)
    (discover_pairwise s.tree) (s, 0, none) hreg
  rw [setChargeThreshold_fst]
  refine ⟨hforce, ?_⟩
  intro hne
  have hpos : 0 < (discover s.tree).length := List.length_pos_iff.mpr hne
  have hnonempty : (discover s.tree).isEmpty = false := by simpa using hne
  rw [setChargeThreshold]
  show (if (discover s.tree).isEmpty = true then _ else _ :
    SysfsRoot × Except WattWardenError Unit).2 = _
  rw [if_neg (by simp [hnonempty])]
  show (if 0 < (List.foldl (applyNode (clamp 20 100 threshold)) (s, 0, none)
    (discover s.tree)).2.1 then _ else _ : SysfsRoot × Except WattWardenError Unit).2 = _
  rw [hcount, if_pos (by omega)]

/-- A set call keeps the list of nodes and their being regular files. -/
theorem sameSupplies_setChargeThreshold (s : SysfsRoot) (hreg : AllRegular s.tree)
    (threshold : ℕ) : SameSupplies s.tree (setChargeThreshold s threshold).1.tree := by
  intro p _
  have hext := setChargeThreshold_extends (t := s.tree) (fun w hw => hw) (fun _ _ => rfl)
    (Extends.refl _ s) threshold
  apply hext.pathExists_eq_of_exists
  intro w hw hpath
  obtain ⟨hnode, hp⟩ := hw
  subst hpath
  rw [Tree.pathExists, hreg _ hnode _ hp, Bool.true_or]

theorem allRegular_setChargeThreshold {s : SysfsRoot} (hreg : AllRegular s.tree)
    (threshold : ℕ) : AllRegular (setChargeThreshold s threshold).1.tree := by
  have hext := setChargeThreshold_extends (t := s.tree) (fun w hw => hw) (fun _ _ => rfl)
    (Extends.refl _ s) threshold
  intro node hnode p hp
  rw [discover_congr (sameSupplies_setChargeThreshold s hreg threshold)] at hnode
  exact hext.isFile_mono (hreg node hnode p hp)

end Threshold

end WattWarden
