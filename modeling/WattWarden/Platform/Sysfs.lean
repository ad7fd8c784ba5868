import WattWarden.Core.Error
import WattWarden.Library.Journaling
import WattWarden.Library.Numerals

/-!
# The sysfs and procfs access layer

Every read and write of the backend goes through `SysfsRoot`: a journaled tree whose writes are
tagged with who makes them.  Reads are functions of the tree alone.

* `read` / `readU64` / `readI64` — trimmed content, `""` for a missing node, `none` for one that
  does not parse;
* `writeBestEffort` — a write of the program whose failure is swallowed;
* `Subsystem` / `subsystem` — which part of the tree a path lies in, read off its leading
  components.  Two node families in different subsystems are disjoint;
* `IsRange` / `SameRanges` — the nodes that describe the hardware, which discovery reads, and two
  trees that describe the same hardware;
* `IsAmbient` — the nodes whose content changes by itself.
-/

namespace WattWarden

open Library.FileTree Library.Journaling Library.Numerals

/-- Who writes: the program, the external tool it calls, or the rest of the machine. -/
inductive Actor where
  | wattwarden
  | brightnessctl
  | environment
  deriving DecidableEq, Repr

/-- A relocated view of `/sys` and `/proc`, with the journal of the writes made through it. -/
abbrev SysfsRoot := Journal Actor

namespace SysfsRoot

/-- Trimmed content, or `""` when the path is missing. -/
def read (t : Tree) (p : Path) : String := ((t.content p).map trim).getD ""

def readU64 (t : Tree) (p : Path) : Option ℕ := parseUnsigned (2 ^ 64) (read t p)

def readI64 (t : Tree) (p : Path) : Option ℤ := parseSigned (2 ^ 63) (read t p)

/-- Best-effort write: errors are swallowed. -/
def writeBestEffort (s : SysfsRoot) (p : Path) (v : String) : SysfsRoot := s.write .wattwarden p v

theorem read_congr {t₁ t₂ : Tree} {p : Path} (h : t₁.content p = t₂.content p) :
    read t₁ p = read t₂ p := by
  rw [read, read, h]

theorem readU64_congr {t₁ t₂ : Tree} {p : Path} (h : t₁.content p = t₂.content p) :
    readU64 t₁ p = readU64 t₂ p := by
  rw [readU64, readU64, read_congr h]

theorem readI64_congr {t₁ t₂ : Tree} {p : Path} (h : t₁.content p = t₂.content p) :
    readI64 t₁ p = readI64 t₂ p := by
  rw [readI64, readI64, read_congr h]

end SysfsRoot

/-! ### Which part of the tree a path lies in -/

inductive Subsystem where
  | cpu
  | platformDevice
  | powercap
  | drm
  | backlight
  | leds
  | powerSupply
  | module
  | bus
  | proc
  | elsewhere
  deriving DecidableEq, Repr

/-- The subsystem of a path, from its leading components. -/
def subsystem : Path → Subsystem
  | "sys" :: "devices" :: "system" :: "cpu" :: _ => .cpu
  | "sys" :: "devices" :: "platform" :: _ => .platformDevice
  | "sys" :: "class" :: "powercap" :: _ => .powercap
  | "sys" :: "class" :: "drm" :: _ => .drm
  | "sys" :: "class" :: "backlight" :: _ => .backlight
  | "sys" :: "class" :: "leds" :: _ => .leds
  | "sys" :: "class" :: "power_supply" :: _ => .powerSupply
  | "sys" :: "module" :: _ => .module
  | "sys" :: "bus" :: _ => .bus
  | "proc" :: _ => .proc
  | _ => .elsewhere

/-- The last component of a path. -/
def leaf (p : Path) : String := p.getLastD ""

@[simp] theorem leaf_append (p : Path) (n : String) : leaf (p ++ [n]) = n := by
  simp [leaf]

theorem ne_of_subsystem_ne {p q : Path} (h : subsystem p ≠ subsystem q) : p ≠ q :=
  fun hpq => h (congrArg subsystem hpq)

theorem ne_of_leaf_ne {p q : Path} (h : leaf p ≠ leaf q) : p ≠ q :=
  fun hpq => h (congrArg leaf hpq)

/-! ### The nodes that describe the hardware -/

/-- The range of a CPU and the preferences and governors it advertises. -/
def cpuRangeLeaves : List String :=
  ["cpuinfo_min_freq", "cpuinfo_max_freq", "energy_performance_available_preferences",
    "scaling_available_governors"]

def gpuRangeLeaves : List String := ["gt_RPn_freq_mhz", "gt_RP0_freq_mhz"]

/-- A constraint's name and range, after the slot number. -/
def raplRangeSuffixes : List String := ["_name", "_min_power_uw", "_max_power_uw"]

/-- `constraint_{i}{suffix}` -/
def constraintLeaf (i : ℕ) (suffix : String) : String := "constraint_" ++ decimal i ++ suffix

/-- A node discovery reads a range, a name or an advertised list from. -/
def IsRange (p : Path) : Prop :=
  (subsystem p = .cpu ∧ leaf p ∈ cpuRangeLeaves) ∨
  (subsystem p = .drm ∧ leaf p ∈ gpuRangeLeaves) ∨
  (subsystem p = .powercap ∧ ∃ i, ∃ suffix ∈ raplRangeSuffixes, leaf p = constraintLeaf i suffix)

/-- Under the CPU directory only the listed leaves are descriptions. -/
theorem not_isRange_of_cpu {p : Path} (hsub : subsystem p = .cpu)
    (hleaf : leaf p ∉ cpuRangeLeaves) : ¬IsRange p := by
  intro h
  rcases h with ⟨-, hmem⟩ | ⟨hdrm, -⟩ | ⟨hcap, -⟩
  · exact hleaf hmem
  · rw [hsub] at hdrm
    cases hdrm
  · rw [hsub] at hcap
    cases hcap

/-- On a DRM card only the listed leaves are descriptions. -/
theorem not_isRange_of_drm {p : Path} (hsub : subsystem p = .drm)
    (hleaf : leaf p ∉ gpuRangeLeaves) : ¬IsRange p := by
  intro h
  rcases h with ⟨hcpu, -⟩ | ⟨-, hmem⟩ | ⟨hcap, -⟩
  · rw [hsub] at hcpu
    cases hcpu
  · exact hleaf hmem
  · rw [hsub] at hcap
    cases hcap

/-- Two trees that describe the same hardware. -/
def SameRanges (t t' : Tree) : Prop := ∀ p, IsRange p → t'.content p = t.content p

theorem SameRanges.refl (t : Tree) : SameRanges t t := fun _ _ => rfl

/-- Writes that leave the descriptions alone lead to trees that describe the same hardware. -/
theorem sameRanges_of_extends {P : Write Actor → Prop} {s₀ s : SysfsRoot}
    (hfix : ∀ w, P w → ¬IsRange w.path) (h : Extends P s₀ s) : SameRanges s₀.tree s.tree :=
  fun _ hp => h.content_eq_on hfix hp

/-- The last four characters of a name. -/
def ending (s : String) : List Char := s.toList.reverse.take 4

theorem ending_constraintLeaf (i : ℕ) {suffix : String} (h : 4 ≤ suffix.toList.length) :
    ending (constraintLeaf i suffix) = ending suffix := by
  have hlen : 4 ≤ suffix.toList.reverse.length := by rwa [List.length_reverse]
  rw [ending, constraintLeaf, String.toList_append, List.reverse_append,
    List.take_append_of_le_length hlen, ending]

/-! ### What happens outside -/

def loadavgPath : Path := ["proc", "loadavg"]

/-- The nodes whose content the machine changes by itself: the load and the power supplies. -/
def IsAmbient (p : Path) : Prop := p = loadavgPath ∨ subsystem p = .powerSupply

instance (p : Path) : Decidable (IsAmbient p) := inferInstanceAs (Decidable (_ ∨ _))

end WattWarden
