import Mathlib.Data.List.Dedup
import Mathlib.Data.List.Sort
import Mathlib.Data.String.Basic

/-!
# A tree of small text files

A file system seen as a finite map from path to content together with a set of directories.
Paths are component lists, so a file name can never smuggle a separator in, and nothing here
depends on what the files mean.

* `Tree.content` / `Tree.isDir` / `Tree.pathExists` — look-up;
* `Tree.write` — open-truncate-write: an existing file is replaced, a missing file in an
  existing directory is created, anything else fails and changes nothing;
* `Tree.names` — the sorted entry names of a directory;
* `Tree.content_write`, `Tree.writable_write`, `Tree.isDir_write` — what one write can change:
  the content of its own path, and nothing about which paths can be written;
* `Tree.names_congr` — a directory listing depends only on which paths exist.
-/

namespace Library.FileTree

/-- A path, outermost component first. -/
abbrev Path := List String

/-- A finite map from path to content and a list of directories. -/
structure Tree where
  files : List (Path × String)
  dirs : List Path
  deriving DecidableEq

namespace Tree

/-- The content of a regular file. -/
def content (t : Tree) (p : Path) : Option String := t.files.lookup p

def isFile (t : Tree) (p : Path) : Bool := (t.content p).isSome

def isDir (t : Tree) (p : Path) : Bool := decide (p ∈ t.dirs)

/-- `Path::exists`: a file or a directory. -/
def pathExists (t : Tree) (p : Path) : Bool := t.isFile p || t.isDir p

/-- A write to `p` lands: `p` is a file, or it is free and its parent is a directory. -/
def writable (t : Tree) (p : Path) : Bool := t.isFile p || (!t.isDir p && t.isDir p.dropLast)

/-- Replace the content stored under `p`. -/
def replace (p : Path) (v : String) (files : List (Path × String)) : List (Path × String) :=
  files.map fun e => if e.1 = p then (p, v) else e

/-- `fs::write`: create or truncate, then write.  A write that cannot land changes nothing. -/
def write (t : Tree) (p : Path) (v : String) : Tree :=
  if t.isFile p then { t with files := replace p v t.files }
  else if t.writable p then { t with files := t.files ++ [(p, v)] }
  else t

/-- The tree of some files and the directories they need. -/
def ofFiles (files : List (Path × String)) : Tree :=
  ⟨files, (files.flatMap fun e => e.1.inits.dropLast).dedup⟩

/-- Every path of the tree. -/
def paths (t : Tree) : List Path := t.files.map Prod.fst ++ t.dirs

/-- The name of `p` inside directory `d`, when `p` is an entry of `d`. -/
def entryName (d p : Path) : Option String := if p.dropLast = d then p.getLast? else none

/-- Sorted entry names of a directory. -/
def names (t : Tree) (d : Path) : List String :=
  (t.paths.filterMap (entryName d)).dedup.insertionSort (· ≤ ·)

/-! ### Look-up after a replacement -/

theorem lookup_replace (p q : Path) (v : String) (files : List (Path × String)) :
    (replace p v files).lookup q
      = if q = p then (files.lookup p).map fun _ => v else files.lookup q := by
  induction files with
  | nil => by_cases h : q = p <;> simp [replace, h]
  | cons e files ih =>
    obtain ⟨r, w⟩ := e
    simp only [replace, List.map_cons] at ih ⊢
    by_cases hq : q = p
    · subst hq
      by_cases hr : r = q
      · subst hr
        simp
      · have hne : (q == r) = false := beq_eq_false_iff_ne.mpr (Ne.symm hr)
        simpa [hr, List.lookup_cons, hne] using ih
    · by_cases hr : r = p
      · subst hr
        have hne : (q == r) = false := beq_eq_false_iff_ne.mpr hq
        simpa [List.lookup_cons, hne, hq] using ih
      · by_cases hqr : q = r
        · subst hqr
          simp [hr]
        · have hne : (q == r) = false := beq_eq_false_iff_ne.mpr hqr
          simpa [hr, List.lookup_cons, hne, hq] using ih

theorem lookup_append_of_none {p : Path} {files : List (Path × String)} (v : String)
    (h : files.lookup p = none) (q : Path) :
    (files ++ [(p, v)]).lookup q = if q = p then some v else files.lookup q := by
  induction files with
  | nil =>
    by_cases hq : q = p
    · simp [hq]
    · have hne : (q == p) = false := beq_eq_false_iff_ne.mpr hq
      simp [List.lookup_cons, hne, hq]
  | cons e files ih =>
    obtain ⟨r, w⟩ := e
    by_cases hpr : p = r
    · subst hpr
      simp at h
    · have hne : (p == r) = false := beq_eq_false_iff_ne.mpr hpr
      rw [List.lookup_cons, hne] at h
      by_cases hqr : q = r
      · subst hqr
        simp [Ne.symm hpr]
      · have hne' : (q == r) = false := beq_eq_false_iff_ne.mpr hqr
        simpa [List.lookup_cons, hne'] using ih h

/-! ### What one write changes -/

theorem isFile_iff {t : Tree} {p : Path} : t.isFile p = true ↔ ∃ v, t.content p = some v := by
  rw [isFile, Option.isSome_iff_exists]

theorem content_of_isFile_false {t : Tree} {p : Path} (h : t.isFile p = false) :
    t.content p = none := by
  simpa [isFile] using h

theorem writable_of_isFile {t : Tree} {p : Path} (h : t.isFile p = true) : t.writable p = true := by
  simp [writable, h]

/-- **The effect of a write.**  A write that lands stores its value under its own path. -/
theorem content_write (t : Tree) (p q : Path) (v : String) :
    (t.write p v).content q = if q = p ∧ t.writable p = true then some v else t.content q := by
  rw [write]
  cases hfile : t.isFile p with
  | true =>
    obtain ⟨w, hw⟩ := isFile_iff.mp hfile
    have hlook : t.files.lookup p = some w := hw
    simp [content, lookup_replace, hlook, writable_of_isFile hfile]
  | false =>
    have hnone : t.files.lookup p = none := content_of_isFile_false hfile
    cases hwr : t.writable p with
    | true => simp [content, lookup_append_of_none v hnone]
    | false => simp

theorem content_write_ne {t : Tree} {p q : Path} (v : String) (h : q ≠ p) :
    (t.write p v).content q = t.content q := by
  rw [content_write, if_neg fun hq => h hq.1]

theorem content_write_self {t : Tree} {p : Path} (v : String) (h : t.writable p = true) :
    (t.write p v).content p = some v := by
  rw [content_write, if_pos ⟨rfl, h⟩]

@[simp] theorem dirs_write (t : Tree) (p : Path) (v : String) : (t.write p v).dirs = t.dirs := by
  rw [write]
  split
  · rfl
  · split <;> rfl

@[simp] theorem isDir_write (t : Tree) (p q : Path) (v : String) :
    (t.write p v).isDir q = t.isDir q := by
  rw [isDir, dirs_write, isDir]

theorem isFile_write (t : Tree) (p q : Path) (v : String) :
    (t.write p v).isFile q = (t.isFile q || (decide (q = p) && t.writable p)) := by
  rw [isFile, content_write]
  by_cases hq : q = p
  · subst hq
    cases hw : t.writable q with
    | true => simp
    | false =>
      have hfile : t.isFile q = false := by
        cases hf : t.isFile q with
        | false => rfl
        | true => rw [writable_of_isFile hf] at hw; cases hw
      simp [content_of_isFile_false hfile, hfile]
  · simp [hq, isFile]

/-- Writing a file that exists creates nothing. -/
theorem isFile_write_of_isFile {t : Tree} {p q : Path} (v : String) (h : t.isFile p = true) :
    (t.write p v).isFile q = t.isFile q := by
  rw [isFile_write]
  by_cases hq : q = p
  · rw [hq, h, Bool.true_or]
  · simp [hq]

/-- Which paths can be written never changes. -/
@[simp] theorem writable_write (t : Tree) (p q : Path) (v : String) :
    (t.write p v).writable q = t.writable q := by
  simp only [writable, isDir_write, isFile_write]
  by_cases hq : q = p
  · subst hq
    cases t.isFile q <;> cases t.isDir q <;> cases t.isDir q.dropLast <;> simp
  · simp [hq]

theorem mem_paths {t : Tree} {p : Path} : p ∈ t.paths ↔ t.pathExists p = true := by
  have hlook : ∀ files : List (Path × String),
      p ∈ files.map Prod.fst ↔ (files.lookup p).isSome = true := by
    intro files
    induction files with
    | nil => simp
    | cons e files ih =>
      obtain ⟨r, w⟩ := e
      by_cases hr : p = r
      · subst hr
        simp
      · have hne : (p == r) = false := beq_eq_false_iff_ne.mpr hr
        rw [List.lookup_cons, hne, List.map_cons, List.mem_cons, ih]
        simp [hr]
  rw [paths, List.mem_append, hlook]
  simp [pathExists, isFile, content, isDir]

/-! ### Directory listings -/

theorem entryName_eq_some {d p : Path} {n : String} : entryName d p = some n ↔ p = d ++ [n] := by
  rw [entryName]
  constructor
  · intro h
    split at h
    · rename_i hd
      obtain ⟨hne, hlast⟩ := List.getLast?_eq_some_iff.mp h
      rw [hlast, List.dropLast_concat] at hd
      rw [hlast, hd]
    · cases h
  · intro heq
    subst heq
    simp

/-- The listing of `d` is exactly the set of its entries. -/
theorem mem_names {t : Tree} {d : Path} {n : String} :
    n ∈ t.names d ↔ t.pathExists (d ++ [n]) = true := by
  rw [names, List.mem_insertionSort, List.mem_dedup, List.mem_filterMap, ← mem_paths]
  constructor
  · intro h
    obtain ⟨p, hp, hn⟩ := h
    rwa [← entryName_eq_some.mp hn]
  · intro h
    exact ⟨_, h, entryName_eq_some.mpr rfl⟩

theorem names_nodup (t : Tree) (d : Path) : (t.names d).Nodup :=
  (List.perm_insertionSort _ _).nodup_iff.mpr (List.nodup_dedup _)

/-- **A listing depends only on which entries exist.** -/
theorem names_congr {t₁ t₂ : Tree} {d : Path}
    (h : ∀ n, t₁.pathExists (d ++ [n]) = t₂.pathExists (d ++ [n])) : t₁.names d = t₂.names d := by
  have hperm : (t₁.names d).Perm (t₂.names d) := by
    rw [List.perm_ext_iff_of_nodup (names_nodup t₁ d) (names_nodup t₂ d)]
    intro n
    rw [mem_names, mem_names, h]
  exact hperm.eq_of_pairwise' (List.pairwise_insertionSort _ _) (List.pairwise_insertionSort _ _)

end Tree

end Library.FileTree
