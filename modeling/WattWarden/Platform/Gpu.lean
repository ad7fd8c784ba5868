import WattWarden.Platform.Sysfs

/-!
# Integrated GPU frequency

`LinuxGpu`: the first DRM card exposing `gt_max_freq_mhz`, at the card root or under its `device`
link, and limits clamped inside the card's immutable `gt_RPn`/`gt_RP0` range.

* `orderedCards` / `discover` / `discoveredGpuBounds` / `setGpuFreq` — translated from the source;
* `GpuWrite gpu t` — every write of the controller on a machine that `t` describes;
* `gpu_bounds_spec` — **PROVED**: a discovered range is what `gt_RPn_freq_mhz` and `gt_RP0_freq_mhz`
  read, and not empty;
* `setGpuFreq_extends` — **PROVED**: the setter writes `GpuWrite`s only.
-/

namespace WattWarden

open Library.FileTree Library.Journaling Library.Numerals

def drmBase : Path := ["sys", "class", "drm"]

def gtMaxFreq : String := "gt_max_freq_mhz"

/-- A DRM card directory (`card0`, `card1`, …), not one of its connectors. -/
def isCardDir (name : String) : Bool :=
  match name.toList with
  | 'c' :: 'a' :: 'r' :: 'd' :: digits => !digits.isEmpty && digits.all Char.isDigit
  | _ => false

/-- Where the frequency nodes of a card are: at its root, or under `device`. -/
inductive CardLayout where
  | root
  | device
  deriving DecidableEq, Repr

/-- The controller: the card it drives and where the card's nodes are. -/
structure LinuxGpu where
  name : String
  layout : CardLayout
  deriving DecidableEq, Repr

namespace LinuxGpu

/-- The directory of the frequency nodes. -/
def card (gpu : LinuxGpu) : Path :=
  match gpu.layout with
  | .root => drmBase ++ [gpu.name]
  | .device => drmBase ++ [gpu.name, "device"]

/-- A node of the card. -/
def node (gpu : LinuxGpu) (name : String) : Path := gpu.card ++ [name]

/-- `card1` and `card0` first, then every other card in sorted order. -/
def orderedCards (t : Tree) : List String :=
  let cards := (t.names drmBase).filter isCardDir
  let preferred := ["card1", "card0"].filter (· ∈ cards)
  preferred ++ cards.filter (· ∉ preferred)

/-- The first card exposing a writable frequency node, its root before its `device` link. -/
def discover (t : Tree) : Option LinuxGpu :=
  (orderedCards t).findSome? fun name =>
    [LinuxGpu.mk name .root, LinuxGpu.mk name .device].find? fun gpu =>
      t.pathExists (gpu.node gtMaxFreq)

def withRoot (t : Tree) : Option LinuxGpu := discover t

/-- `card_read`. -/
def cardRead (gpu : LinuxGpu) (t : Tree) (name : String) : Option ℕ :=
  let raw := SysfsRoot.read t (gpu.node name)
  if raw = "" then none else parseUnsigned (2 ^ 32) raw

/-- `card_write`: only a node the kernel exposes is touched. -/
def cardWrite (gpu : LinuxGpu) (s : SysfsRoot) (name : String) (value : ℕ) : SysfsRoot :=
  if s.tree.pathExists (gpu.node name) then
    SysfsRoot.writeBestEffort s (gpu.node name) (decimal value)
  else s

/-- `(min, max)` MHz from the immutable nodes; `none` when one is missing or the range is
degenerate. -/
def discoveredGpuBounds (gpu : LinuxGpu) (t : Tree) : Option (ℕ × ℕ) :=
  match gpu.cardRead t "gt_RPn_freq_mhz", gpu.cardRead t "gt_RP0_freq_mhz" with
  | some min, some max => if max ≤ min then none else some (min, max)
  | _, _ => none

/-- `gpu_bounds`: each end from its immutable node, else from the mutable one, else the fallback. -/
def gpuBounds (gpu : LinuxGpu) (t : Tree) : ℕ × ℕ :=
  (((gpu.cardRead t "gt_RPn_freq_mhz").or (gpu.cardRead t "gt_min_freq_mhz")).getD 300,
    ((gpu.cardRead t "gt_RP0_freq_mhz").or (gpu.cardRead t "gt_max_freq_mhz")).getD 1100)

/-- `gpu_freq`: 0 when the limit does not parse. -/
def gpuFreq (gpu : LinuxGpu) (t : Tree) : ℕ := (gpu.cardRead t gtMaxFreq).getD 0

/-- `set_gpu_freq`: the software minimum first, then the limit. -/
def setGpuFreq (gpu : LinuxGpu) (s : SysfsRoot) (mhz : ℕ) : SysfsRoot :=
  match gpu.discoveredGpuBounds s.tree with
  | none => s
  | some (min, max) =>
      let s := gpu.cardWrite s "gt_min_freq_mhz" min
      gpu.cardWrite s "gt_max_freq_mhz" (clamp min max mhz)

end LinuxGpu

/-! ### What the controller can write -/

/-- Every write of the controller, on a machine that `t` describes. -/
inductive GpuWrite (gpu : LinuxGpu) (t : Tree) : Write Actor → Prop
  | gtMin {lo hi : ℕ} : gpu.discoveredGpuBounds t = some (lo, hi) →
      GpuWrite gpu t ⟨.wattwarden, gpu.node "gt_min_freq_mhz", decimal lo⟩
  | gtMax {lo hi mhz : ℕ} : gpu.discoveredGpuBounds t = some (lo, hi) → lo ≤ mhz → mhz ≤ hi →
      GpuWrite gpu t ⟨.wattwarden, gpu.node "gt_max_freq_mhz", decimal mhz⟩

@[simp] theorem subsystem_gpuNode (gpu : LinuxGpu) (name : String) :
    subsystem (gpu.node name) = .drm := by
  obtain ⟨card, layout⟩ := gpu
  cases layout <;> rfl

theorem isRange_gpuNode (gpu : LinuxGpu) (name : String) (h : name ∈ gpuRangeLeaves) :
    IsRange (gpu.node name) :=
  .inr (.inl ⟨subsystem_gpuNode gpu name, by rw [LinuxGpu.node, leaf_append]; exact h⟩)

/-- **No ratchet.**  The discovered range depends on the hardware's description only. -/
theorem discoveredGpuBounds_congr (gpu : LinuxGpu) {t t' : Tree} (h : SameRanges t t') :
    gpu.discoveredGpuBounds t' = gpu.discoveredGpuBounds t := by
  have hread : ∀ name ∈ gpuRangeLeaves, gpu.cardRead t' name = gpu.cardRead t name := by
    intro name hname
    rw [LinuxGpu.cardRead, LinuxGpu.cardRead,
      SysfsRoot.read_congr (h _ (isRange_gpuNode gpu name hname))]
  rw [LinuxGpu.discoveredGpuBounds, LinuxGpu.discoveredGpuBounds,
    hread "gt_RPn_freq_mhz" (by decide), hread "gt_RP0_freq_mhz" (by decide)]

theorem gpu_bounds_spec {gpu : LinuxGpu} {t : Tree} {lo hi : ℕ}
    (h : gpu.discoveredGpuBounds t = some (lo, hi)) :
    gpu.cardRead t "gt_RPn_freq_mhz" = some lo ∧ gpu.cardRead t "gt_RP0_freq_mhz" = some hi ∧
      lo < hi := by
  rw [LinuxGpu.discoveredGpuBounds] at h
  split at h
  · rename_i hmin hmax
    split at h
    · cases h
    · rename_i hlt
      cases h
      exact ⟨hmin, hmax, not_le.mp hlt⟩
  · cases h

theorem GpuWrite.not_isRange {gpu : LinuxGpu} {t : Tree} {w : Write Actor}
    (h : GpuWrite gpu t w) : ¬IsRange w.path := by
  apply not_isRange_of_drm
  · cases h <;> exact subsystem_gpuNode gpu _
  · cases h <;> simp [LinuxGpu.node, gpuRangeLeaves]

/-! ### The setter stays inside `GpuWrite` -/

section Extends

variable {gpu : LinuxGpu} {P : Write Actor → Prop} {s₀ s : SysfsRoot}
variable (hP : ∀ w, GpuWrite gpu s₀.tree w → P w) (hfix : ∀ w, P w → ¬IsRange w.path)

include hP hfix

theorem setGpuFreq_extends (h : Extends P s₀ s) (mhz : ℕ) :
    Extends P s₀ (gpu.setGpuFreq s mhz) := by
  rw [LinuxGpu.setGpuFreq]
  rw [discoveredGpuBounds_congr gpu (sameRanges_of_extends hfix h)]
  split
  · exact h
  · rename_i min max hbounds
    have hle : min ≤ max := (gpu_bounds_spec hbounds).2.2.le
    have hmin : Extends P s₀ (gpu.cardWrite s "gt_min_freq_mhz" min) := by
      rw [LinuxGpu.cardWrite]
      split
      · exact h.write (hP _ (.gtMin hbounds))
      · exact h
    show Extends P s₀ (gpu.cardWrite _ "gt_max_freq_mhz" (clamp min max mhz))
    rw [LinuxGpu.cardWrite]
    split
    · exact hmin.write (hP _ (.gtMax hbounds (le_clamp hle) (clamp_le hle)))
    · exact hmin

end Extends

end WattWarden
