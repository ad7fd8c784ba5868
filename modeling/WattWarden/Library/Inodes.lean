import Mathlib.Data.List.Basic
import Mathlib.Logic.Function.Basic

/-!
# Names and inodes

A directory maps names to inodes, and an inode holds bytes and a mode.  An open file keeps its inode
whatever becomes of the name; a rename moves the name and leaves the inodes alone.

* `Disk` — no inode has two names, and the ones from `fresh` on have none;
* `create`, `writeAt`, `setMode`, `remove`, `rename` — the calls that replace a file;
* `look_create`, `look_writeAt`, `look_rename`, … — **PROVED**: what each call makes of a name;
* `Kept` — an inode that was let go of; `Kept.create`, … — **PROVED**: no call goes to it.
-/

namespace Library.Inodes

/-- What an inode holds. -/
structure Content (β : Type*) where
  bytes : List β
  mode : ℕ
deriving DecidableEq

structure Disk (ν β : Type*) where
  entry : ν → Option ℕ
  content : ℕ → Content β
  /-- The next inode that is handed out. -/
  fresh : ℕ
  entry_lt : ∀ n i, entry n = some i → i < fresh
  entry_inj : ∀ m n i, entry m = some i → entry n = some i → m = n

section Entries

variable {ν : Type*} [DecidableEq ν] {entry : ν → Option ℕ} {n : ν} {x : Option ℕ} {fresh : ℕ}

theorem update_lt (h : ∀ m i, entry m = some i → i < fresh) (hx : ∀ i, x = some i → i < fresh) :
    ∀ m i, Function.update entry n x m = some i → i < fresh := by
  intro m i hm
  by_cases hmn : m = n
  · rw [hmn, Function.update_self] at hm
    exact hx i hm
  · rw [Function.update_of_ne hmn] at hm
    exact h m i hm

/-- A name for an inode that no other name has. -/
theorem update_inj (h : ∀ m m' i, entry m = some i → entry m' = some i → m = m')
    (hx : ∀ m i, x = some i → entry m ≠ some i) :
    ∀ m m' i, Function.update entry n x m = some i → Function.update entry n x m' = some i →
      m = m' := by
  intro m m' i hm hm'
  by_cases hmn : m = n <;> by_cases hmn' : m' = n
  · rw [hmn, hmn']
  · rw [hmn, Function.update_self] at hm
    rw [Function.update_of_ne hmn'] at hm'
    exact absurd hm' (hx m' i hm)
  · rw [hmn', Function.update_self] at hm'
    rw [Function.update_of_ne hmn] at hm
    exact absurd hm (hx m i hm')
  · rw [Function.update_of_ne hmn] at hm
    rw [Function.update_of_ne hmn'] at hm'
    exact h m m' i hm hm'

end Entries

namespace Disk

variable {ν β : Type*} {d d' : Disk ν β} {m n : ν} {i : ℕ}

/-- No file at all. -/
def empty : Disk ν β where
  entry := fun _ => none
  content := fun _ => ⟨[], 0⟩
  fresh := 0
  entry_lt := fun _ _ h => nomatch h
  entry_inj := fun _ _ _ h => nomatch h

/-! ### Calls that keep the names -/

/-- What a reader finds under a name. -/
def look (d : Disk ν β) (n : ν) : Option (Content β) := (d.entry n).map d.content

/-- The inode `i` holds something else. -/
def put (d : Disk ν β) (i : ℕ) (c : Content β) : Disk ν β :=
  { d with content := Function.update d.content i c }

@[simp] theorem entry_put (d : Disk ν β) (i : ℕ) (c : Content β) : (d.put i c).entry = d.entry := rfl

@[simp] theorem fresh_put (d : Disk ν β) (i : ℕ) (c : Content β) : (d.put i c).fresh = d.fresh := rfl

@[simp] theorem content_put (d : Disk ν β) (i : ℕ) (c : Content β) :
    (d.put i c).content i = c := Function.update_self ..

theorem content_put_of_ne {j : ℕ} (h : j ≠ i) (c : Content β) :
    (d.put i c).content j = d.content j := Function.update_of_ne h ..

theorem look_of_entry (h : d.entry n = some i) : d.look n = some (d.content i) := by
  rw [look, h]
  rfl

/-- What goes to the inode of another name is not seen. -/
theorem look_put_of_ne (h : d.entry n ≠ some i) (c : Content β) : (d.put i c).look n = d.look n := by
  rw [look, look, entry_put]
  cases hn : d.entry n with
  | none => rfl
  | some j =>
    have hj : j ≠ i := by
      intro hji
      rw [hn, hji] at h
      exact h rfl
    show some ((d.put i c).content j) = some (d.content j)
    rw [content_put_of_ne hj]

/-- `write` at an offset of an open file; a gap before it reads as zeros. -/
def writeAt [Zero β] (d : Disk ν β) (i off : ℕ) (chunk : List β) : Disk ν β :=
  let bytes := (d.content i).bytes
  let start := (bytes ++ List.replicate (off - bytes.length) 0).take off
  d.put i ⟨start ++ chunk ++ bytes.drop (off + chunk.length), (d.content i).mode⟩

/-- Written at its end, a file grows. -/
theorem bytes_writeAt_length [Zero β] (d : Disk ν β) (i : ℕ) (chunk : List β) :
    ((d.writeAt i (d.content i).bytes.length chunk).content i).bytes
      = (d.content i).bytes ++ chunk := by
  rw [writeAt, content_put, Nat.sub_self, List.replicate_zero, List.append_nil, List.take_length,
    List.drop_eq_nil_of_le (Nat.le_add_right ..), List.append_nil]

theorem look_writeAt [Zero β] (h : d.entry m ≠ some i) (off : ℕ) (chunk : List β) :
    (d.writeAt i off chunk).look m = d.look m := look_put_of_ne h _

/-- `chmod`. -/
def setMode (d : Disk ν β) (n : ν) (mode : ℕ) : Option (Disk ν β) :=
  (d.entry n).map fun i => d.put i ⟨(d.content i).bytes, mode⟩

theorem look_setMode {mode : ℕ} (hd : d.setMode n mode = some d') :
    d'.look n = (d.look n).map fun c => ⟨c.bytes, mode⟩ := by
  obtain ⟨i, hi, rfl⟩ := Option.map_eq_some_iff.mp hd
  rw [look_of_entry hi, look_of_entry (show (d.put i _).entry n = some i from hi), content_put]
  rfl

theorem look_setMode_of_ne {mode : ℕ} (h : m ≠ n) (hd : d.setMode n mode = some d') :
    d'.look m = d.look m := by
  obtain ⟨i, hi, rfl⟩ := Option.map_eq_some_iff.mp hd
  apply look_put_of_ne
  intro hm
  exact h (d.entry_inj m n i hm hi)

/-! ### Inodes a name has let go of -/

/-- The inode holds `c`, and `n` does not name it. -/
structure Kept (n : ν) (i : ℕ) (c : Content β) (d : Disk ν β) : Prop where
  lt : i < d.fresh
  ne : d.entry n ≠ some i
  content_eq : d.content i = c

variable {c : Content β}

theorem Kept.put (h : Kept n i c d) {j : ℕ} (hj : j ≠ i) (c' : Content β) :
    Kept n i c (d.put j c') where
  lt := h.lt
  ne := h.ne
  content_eq := by rw [content_put_of_ne hj.symm, h.content_eq]

theorem Kept.writeAt [Zero β] (h : Kept n i c d) {j : ℕ} (hj : d.entry n = some j) (off : ℕ)
    (chunk : List β) : Kept n i c (d.writeAt j off chunk) := by
  apply h.put
  rintro rfl
  exact h.ne hj

theorem Kept.setMode (h : Kept n i c d) {mode : ℕ} (hd : d.setMode n mode = some d') :
    Kept n i c d' := by
  obtain ⟨j, hj, rfl⟩ := Option.map_eq_some_iff.mp hd
  apply h.put
  rintro rfl
  exact h.ne hj

/-! ### Calls that change names -/

variable [DecidableEq ν]

/-- `unlink`; a name that is missing stays missing. -/
def remove (d : Disk ν β) (n : ν) : Disk ν β where
  entry := Function.update d.entry n none
  content := d.content
  fresh := d.fresh
  entry_lt := update_lt d.entry_lt fun _ h => nomatch h
  entry_inj := update_inj d.entry_inj fun _ _ h => nomatch h

/-- A new inode under the name. -/
def link (d : Disk ν β) (n : ν) (c : Content β) : Disk ν β where
  entry := Function.update d.entry n (some d.fresh)
  content := Function.update d.content d.fresh c
  fresh := d.fresh + 1
  entry_lt := by
    apply update_lt
    · intro m i hm
      exact Nat.lt_succ_of_lt (d.entry_lt m i hm)
    · intro i hi
      cases hi
      exact Nat.lt_succ_self _
  entry_inj := by
    apply update_inj d.entry_inj
    intro m i hi hm
    cases hi
    exact Nat.lt_irrefl _ (d.entry_lt m _ hm)

/-- The name `new` for the inode that `old` names; what `new` named has no name. -/
def relink (d : Disk ν β) (old new : ν) (i : ℕ) (hi : d.entry old = some i) : Disk ν β where
  entry := Function.update (d.remove old).entry new (some i)
  content := d.content
  fresh := d.fresh
  entry_lt := by
    apply update_lt (d.remove old).entry_lt
    intro j hj
    cases hj
    exact d.entry_lt old _ hi
  entry_inj := by
    apply update_inj (d.remove old).entry_inj
    intro m j hj hm
    cases hj
    change Function.update d.entry old none m = some i at hm
    by_cases hmo : m = old
    · rw [hmo, Function.update_self] at hm
      cases hm
    · rw [Function.update_of_ne hmo] at hm
      exact hmo (d.entry_inj m old i hm hi)

/-- `open` for writing: what is there is truncated, what is not gets a new inode of the mode. -/
def create (d : Disk ν β) (n : ν) (mode : ℕ) : Disk ν β × ℕ :=
  match d.entry n with
  | some i => (d.put i ⟨[], (d.content i).mode⟩, i)
  | none => (d.link n ⟨[], mode⟩, d.fresh)

/-- `rename`, in one step. -/
def rename (d : Disk ν β) (old new : ν) : Option (Disk ν β) :=
  match h : d.entry old with
  | none => none
  | some i => some (d.relink old new i h)

/-! ### What the calls make of a name -/

theorem look_remove (h : m ≠ n) : (d.remove n).look m = d.look m := by
  show (Function.update d.entry n none m).map d.content = _
  rw [Function.update_of_ne h]
  rfl

theorem look_link (h : m ≠ n) (c : Content β) : (d.link n c).look m = d.look m := by
  show (Function.update d.entry n (some d.fresh) m).map (d.link n c).content = (d.entry m).map _
  rw [Function.update_of_ne h]
  cases hm : d.entry m with
  | none => rfl
  | some i =>
    have hi : i ≠ d.fresh := Nat.ne_of_lt (d.entry_lt m i hm)
    show some (Function.update d.content d.fresh c i) = some (d.content i)
    rw [Function.update_of_ne hi]

/-- A truncated or new file is empty; its inode has the name. -/
theorem entry_create (d : Disk ν β) (n : ν) (mode : ℕ) :
    (d.create n mode).1.entry n = some (d.create n mode).2 ∧
      ((d.create n mode).1.content (d.create n mode).2).bytes = [] := by
  rw [create]
  split
  · rename_i i hi
    refine ⟨hi, ?_⟩
    show ((d.put i _).content i).bytes = []
    rw [content_put]
  · refine ⟨Function.update_self .., ?_⟩
    show (Function.update d.content d.fresh _ d.fresh).bytes = []
    rw [Function.update_self]

theorem look_create (h : m ≠ n) (mode : ℕ) : (d.create n mode).1.look m = d.look m := by
  rw [create]
  split
  · rename_i i hi
    apply look_put_of_ne
    intro hm
    exact h (d.entry_inj m n i hm hi)
  · exact look_link h _

/-- A name that is there stays there. -/
theorem isSome_create (h : (d.entry m).isSome = true) (mode : ℕ) :
    ((d.create n mode).1.entry m).isSome = true := by
  rw [create]
  split
  · exact h
  · show (Function.update d.entry n (some d.fresh) m).isSome = true
    by_cases hm : m = n
    · rw [hm, Function.update_self]
      rfl
    · rwa [Function.update_of_ne hm]

/-- A rename that is not refused found the old name, and gives the new one its inode. -/
theorem rename_eq_some {old new : ν} (hd : d.rename old new = some d') :
    ∃ i, ∃ hi : d.entry old = some i, d' = d.relink old new i hi := by
  rw [rename] at hd
  split at hd
  · cases hd
  · rename_i i hi
    exact ⟨i, hi, (Option.some.inj hd).symm⟩

theorem look_rename {old new : ν} (hd : d.rename old new = some d') : d'.look new = d.look old := by
  obtain ⟨i, hi, rfl⟩ := rename_eq_some hd
  have hnew : (d.relink old new i hi).entry new = some i := Function.update_self ..
  rw [look_of_entry hnew, look_of_entry hi]
  rfl

theorem Kept.create (h : Kept n i c d) (mode : ℕ) : Kept n i c (d.create n mode).1 := by
  rw [Disk.create]
  split
  · rename_i j hj
    apply h.put
    rintro rfl
    exact h.ne hj
  · refine ⟨Nat.lt_succ_of_lt h.lt, ?_, ?_⟩
    · show Function.update d.entry n (some d.fresh) n ≠ some i
      rw [Function.update_self]
      intro hi
      exact Nat.ne_of_lt h.lt (Option.some.inj hi).symm
    · show Function.update d.content d.fresh _ i = c
      rw [Function.update_of_ne (Nat.ne_of_lt h.lt), h.content_eq]

theorem Kept.remove (h : Kept n i c d) : Kept n i c (d.remove n) where
  lt := h.lt
  ne := by
    show Function.update d.entry n none n ≠ some i
    rw [Function.update_self]
    exact Option.some_ne_none _ ∘ Eq.symm
  content_eq := h.content_eq

theorem Kept.rename (h : Kept n i c d) {new : ν} (hnew : new ≠ n) (hd : d.rename n new = some d') :
    Kept n i c d' := by
  obtain ⟨j, hj, rfl⟩ := rename_eq_some hd
  refine ⟨h.lt, ?_, h.content_eq⟩
  show Function.update (Function.update d.entry n none) new (some j) n ≠ some i
  rw [Function.update_of_ne hnew.symm, Function.update_self]
  exact Option.some_ne_none _ ∘ Eq.symm

end Disk

end Library.Inodes
