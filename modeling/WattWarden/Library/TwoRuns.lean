import WattWarden.Library.Journaling

/-!
# Two runs of one program on two file trees

Relations between two journaled trees that a program drives side by side, for statements of the
form "the outcome does not depend on ...".  Three families of paths are parameters: `C`, which may
exist on one side only; `F`, on which the newest writes must agree; `R`, the inputs, whose content
is the same on both sides and never written.

* `SameShape C` — the same directories, the same writable paths, the same files outside `C`;
* `Twin C F R` — the invariant of two runs; its rules are `write` for the same write on both
  sides, `writeIf` for a write guarded by the existence of its target, `foldl` for the same loop,
  and `left` / `right` for writes of one side only;
* `Twin.insert` — the same write on both sides brings its path into `F`, whatever was there before;
* `Twin.content_eq` — **PROVED**: a path of `F` that was written holds the same content on both
  sides;
* `Twin.settled` — **PROVED**: a run started where the other one ended changes nothing on `F`.
-/

namespace Library.TwoRuns

open Library.FileTree Library.Journaling

variable {α β : Type*}

/-! ### Trees on which the same writes land -/

/-- The same directories, the same writable paths, and the same files outside `C`. -/
structure SameShape (C : Path → Prop) (t₁ t₂ : Tree) : Prop where
  isDir_eq : ∀ p, t₁.isDir p = t₂.isDir p
  writable_eq : ∀ p, t₁.writable p = t₂.writable p
  isFile_eq : ∀ p, ¬C p → t₁.isFile p = t₂.isFile p

namespace SameShape

variable {C : Path → Prop} {t t₁ t₂ : Tree}

theorem refl (C : Path → Prop) (t : Tree) : SameShape C t t :=
  ⟨fun _ => rfl, fun _ => rfl, fun _ _ => rfl⟩

theorem symm (h : SameShape C t₁ t₂) : SameShape C t₂ t₁ :=
  ⟨fun p => (h.isDir_eq p).symm, fun p => (h.writable_eq p).symm,
    fun p hp => (h.isFile_eq p hp).symm⟩

/-- Two trees with the same files and the same directories. -/
theorem of_eq (C : Path → Prop) (hfile : ∀ p, t₁.isFile p = t₂.isFile p)
    (hdir : ∀ p, t₁.isDir p = t₂.isDir p) : SameShape C t₁ t₂ where
  isDir_eq := hdir
  writable_eq p := by rw [Tree.writable, Tree.writable, hfile, hdir, hdir]
  isFile_eq p _ := hfile p

theorem pathExists_eq (h : SameShape C t₁ t₂) {p : Path} (hp : ¬C p) :
    t₁.pathExists p = t₂.pathExists p := by
  rw [Tree.pathExists, Tree.pathExists, h.isFile_eq p hp, h.isDir_eq]

/-- Writing one path on both sides, with any two values. -/
theorem write_both (h : SameShape C t₁ t₂) (p : Path) (v₁ v₂ : String) :
    SameShape C (t₁.write p v₁) (t₂.write p v₂) where
  isDir_eq q := by rw [Tree.isDir_write, Tree.isDir_write, h.isDir_eq]
  writable_eq q := by rw [Tree.writable_write, Tree.writable_write, h.writable_eq]
  isFile_eq q hq := by rw [Tree.isFile_write, Tree.isFile_write, h.isFile_eq q hq, h.writable_eq]

/-- Writing a path of `C` on one side only. -/
theorem write_right (h : SameShape C t₁ t₂) {p : Path} (hp : C p) (v : String) :
    SameShape C t₁ (t₂.write p v) where
  isDir_eq q := by rw [Tree.isDir_write, h.isDir_eq]
  writable_eq q := by rw [Tree.writable_write, h.writable_eq]
  isFile_eq q hq := by
    have hne : q ≠ p := by
      intro heq
      subst heq
      exact hq hp
    rw [Tree.isFile_write, h.isFile_eq q hq]
    simp [hne]

/-- Writing an existing path on one side only. -/
theorem write_existing (h : SameShape C t₁ t₂) {p : Path} (hp : t₂.pathExists p = true)
    (v : String) : SameShape C t₁ (t₂.write p v) where
  isDir_eq q := by rw [Tree.isDir_write, h.isDir_eq]
  writable_eq q := by rw [Tree.writable_write, h.writable_eq]
  isFile_eq q hq := by
    rw [Tree.isFile_write, h.isFile_eq q hq]
    by_cases hqp : q = p
    · subst hqp
      cases hfile : t₂.isFile q with
      | true => rfl
      | false =>
        -- an existing path that is no file is a directory, where no write lands
        have hdir : t₂.isDir q = true := by simpa [Tree.pathExists, hfile] using hp
        simp [Tree.writable, hfile, hdir]
    · simp [hqp]

variable {s s' : Journal α}

/-- A write guarded by the existence of its target. -/
theorem writeIf (h : SameShape C t s.tree) (a : α) (p : Path) (v : String) :
    SameShape C t (if s.tree.pathExists p then s.write a p v else s).tree := by
  split
  · rename_i hp
    exact h.write_existing hp v
  · exact h

theorem of_extends {P : Write α → Prop} (h : SameShape C t s.tree) (hext : Extends P s s')
    (hP : ∀ w, P w → C w.path) : SameShape C t s'.tree := by
  apply hext.induction (Q := fun s => SameShape C t s.tree) h
  intro s w hs hw
  exact hs.write_right (hP w hw) w.value

theorem foldl {l : List β} {f : Journal α → β → Journal α} (h : SameShape C t s.tree)
    (hf : ∀ b ∈ l, ∀ s, SameShape C t s.tree → SameShape C t (f s b).tree) :
    SameShape C t (l.foldl f s).tree := by
  induction l generalizing s with
  | nil => exact h
  | cons b l ih =>
    exact ih (hf b (by simp) s h) fun b' hb' => hf b' (List.mem_cons_of_mem _ hb')

end SameShape

/-! ### The invariant of two runs -/

/-- Two runs agree: in shape outside `C`, in the newest writes on `F`, and in content on `R`. -/
structure Twin (C F R : Path → Prop) (s₁ s₂ : Journal α) : Prop where
  shape : SameShape C s₁.tree s₂.tree
  last : ∀ p, F p → lastWrite s₁.log p = lastWrite s₂.log p
  same : ∀ p, R p → s₁.tree.content p = s₂.tree.content p

namespace Twin

variable {C F F' R : Path → Prop} {s₁ s₂ s₁' s₂' : Journal α}

theorem symm (h : Twin C F R s₁ s₂) : Twin C F R s₂ s₁ :=
  ⟨h.shape.symm, fun p hp => (h.last p hp).symm, fun p hp => (h.same p hp).symm⟩

theorem mono (h : Twin C F R s₁ s₂) (hF : ∀ p, F' p → F p) : Twin C F' R s₁ s₂ :=
  ⟨h.shape, fun p hp => h.last p (hF p hp), h.same⟩

/-- The same write on both sides brings its path into `F`. -/
theorem insert (h : Twin C F R s₁ s₂) {p : Path} (hR : ¬R p) (a : α) (v : String) :
    Twin C (fun q => F q ∨ q = p) R (s₁.write a p v) (s₂.write a p v) where
  shape := h.shape.write_both p v v
  last q hq := by
    rw [Journal.log_write, Journal.log_write, lastWrite_cons, lastWrite_cons]
    split
    · rfl
    · rename_i hne
      rcases hq with hq | rfl
      · exact h.last q hq
      · exact absurd rfl hne
  same q hq := by
    have hne : q ≠ p := by
      intro heq
      subst heq
      exact hR hq
    rw [Journal.tree_write, Journal.tree_write, Tree.content_write_ne v hne,
      Tree.content_write_ne v hne, h.same q hq]

/-- The same write on both sides. -/
theorem write (h : Twin C F R s₁ s₂) {p : Path} (hR : ¬R p) (a : α) (v : String) :
    Twin C F R (s₁.write a p v) (s₂.write a p v) :=
  (h.insert hR a v).mono fun _ hq => .inl hq

/-- The same write on both sides, guarded by the existence of its target. -/
theorem writeIf (h : Twin C F R s₁ s₂) {p : Path} (hC : ¬C p) (hR : ¬R p) (a : α) (v : String) :
    Twin C F R (if s₁.tree.pathExists p then s₁.write a p v else s₁)
      (if s₂.tree.pathExists p then s₂.write a p v else s₂) := by
  rw [h.shape.pathExists_eq hC]
  split
  · exact h.write hR a v
  · exact h

/-- The same loop on both sides. -/
theorem foldl {l : List β} {f₁ f₂ : Journal α → β → Journal α} (h : Twin C F R s₁ s₂)
    (hf : ∀ b ∈ l, ∀ s₁ s₂, Twin C F R s₁ s₂ → Twin C F R (f₁ s₁ b) (f₂ s₂ b)) :
    Twin C F R (l.foldl f₁ s₁) (l.foldl f₂ s₂) := by
  induction l generalizing s₁ s₂ with
  | nil => exact h
  | cons b l ih =>
    exact ih (hf b (by simp) s₁ s₂ h) fun b' hb' => hf b' (List.mem_cons_of_mem _ hb')

/-- Writes of the left side only, to paths of `C` outside `F` and `R`. -/
theorem left {P : Write α → Prop} (h : Twin C F R s₁ s₂) (hext : Extends P s₁ s₁')
    (hP : ∀ w, P w → C w.path ∧ ¬F w.path ∧ ¬R w.path) : Twin C F R s₁' s₂ := by
  apply hext.induction (Q := fun s => Twin C F R s s₂) h
  intro s w hs hw
  obtain ⟨hC, hF, hR⟩ := hP w hw
  constructor
  · exact (hs.shape.symm.write_right hC w.value).symm
  · intro p hp
    have hne : w.path ≠ p := by
      intro heq
      subst heq
      exact hF hp
    rw [Journal.log_write, lastWrite_cons, if_neg hne]
    exact hs.last p hp
  · intro p hp
    have hne : p ≠ w.path := by
      intro heq
      subst heq
      exact hR hp
    rw [Journal.tree_write, Tree.content_write_ne _ hne]
    exact hs.same p hp

theorem right {P : Write α → Prop} (h : Twin C F R s₁ s₂) (hext : Extends P s₂ s₂')
    (hP : ∀ w, P w → C w.path ∧ ¬F w.path ∧ ¬R w.path) : Twin C F R s₁ s₂' :=
  (h.symm.left hext hP).symm

/-- **Same newest write, same content.** -/
theorem content_eq (h : Twin C F R s₁ s₂) {p : Path} (hp : F p) {v : String}
    (hw : lastWrite s₁.log p = some v) : s₁.tree.content p = s₂.tree.content p := by
  have hw₂ : lastWrite s₂.log p = some v := (h.last p hp).symm.trans hw
  have hwritable : s₁.initial.writable p = s₂.initial.writable p := by
    rw [← s₁.writable_tree, ← s₂.writable_tree, h.shape.writable_eq]
  have hnone : ∀ t : Tree, t.writable p = false → t.content p = none := by
    intro t ht
    apply Tree.content_of_isFile_false
    cases hfile : t.isFile p with
    | false => rfl
    | true =>
      rw [Tree.writable_of_isFile hfile] at ht
      cases ht
  rw [s₁.content_tree, s₂.content_tree, hw, hw₂, ← hwritable]
  cases hwr : s₁.initial.writable p with
  | true => rfl
  | false => simp [hnone _ hwr, hnone _ (hwritable.symm.trans hwr)]

/-- **A settled run.**  A second run, started on the tree the first one left, that agrees with it on
`F` changes nothing there. -/
theorem settled (h : Twin C F R s₁ s₂) (hinitial : s₂.initial = s₁.tree) {p : Path} (hp : F p) :
    s₂.tree.content p = s₁.tree.content p := by
  cases hlast : lastWrite s₂.log p with
  | some v => exact h.symm.content_eq hp hlast
  | none => rw [s₂.content_tree, hlast, hinitial]

end Twin

end Library.TwoRuns
