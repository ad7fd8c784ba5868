import WattWarden.Library.FileTree

/-!
# Journaled file trees

A file tree together with the journal of every write attempted on it, newest first.  The
journal is what makes *effects* a subject of statements: which paths a program may write, with
which values, and what the tree looks like afterwards.

* `Journal` — the tree is a field, and so is the proof that it is the replay of the journal;
* `Journal.content_tree` — **PROVED**: the content of a path is its newest journaled value when
  the path can be written, and its initial content when the journal never names it;
* `Extends P s₀ s` — `s` is reached from `s₀` by writes satisfying `P`, with its rules
  (`refl`, `trans`, `mono`, `write`, `foldl`) and its frame rule `Extends.content_eq`;
* `replayOf who s` — what the writes of some of the actors alone would have made of the tree.
-/

namespace Library.Journaling

open Library.FileTree

variable {α β : Type*}

/-- One attempted write: who, where, what. -/
structure Write (α : Type*) where
  actor : α
  path : Path
  value : String

/-- The tree after the writes of a journal, newest first. -/
def replay (t : Tree) (log : List (Write α)) : Tree :=
  log.foldr (fun w t => t.write w.path w.value) t

/-- A file tree, the journal of the writes attempted on it, and the proof that they agree. -/
structure Journal (α : Type*) where
  initial : Tree
  log : List (Write α)
  tree : Tree
  tree_eq : tree = replay initial log

/-- The newest value written to `p`. -/
def lastWrite (log : List (Write α)) (p : Path) : Option String :=
  (log.find? fun w => decide (w.path = p)).map Write.value

namespace Journal

/-- A tree nothing was written to yet. -/
def start (t : Tree) : Journal α := ⟨t, [], t, rfl⟩

/-- Attempt one write. -/
def write (s : Journal α) (a : α) (p : Path) (v : String) : Journal α where
  initial := s.initial
  log := ⟨a, p, v⟩ :: s.log
  tree := s.tree.write p v
  tree_eq := by rw [s.tree_eq]; rfl

@[simp] theorem initial_start (t : Tree) : (start t : Journal α).initial = t := rfl

@[simp] theorem log_start (t : Tree) : (start t : Journal α).log = [] := rfl

@[simp] theorem tree_start (t : Tree) : (start t : Journal α).tree = t := rfl

@[simp] theorem initial_write (s : Journal α) (a : α) (p : Path) (v : String) :
    (s.write a p v).initial = s.initial := rfl

@[simp] theorem log_write (s : Journal α) (a : α) (p : Path) (v : String) :
    (s.write a p v).log = ⟨a, p, v⟩ :: s.log := rfl

@[simp] theorem tree_write (s : Journal α) (a : α) (p : Path) (v : String) :
    (s.write a p v).tree = s.tree.write p v := rfl

end Journal

/-! ### Reading the tree off the journal -/

/-- A journal is determined by where it started and what was written. -/
theorem Journal.ext_log {s₁ s₂ : Journal α} (hi : s₁.initial = s₂.initial)
    (hlog : s₁.log = s₂.log) : s₁ = s₂ := by
  obtain ⟨i₁, log₁, t₁, ht₁⟩ := s₁
  obtain ⟨i₂, log₂, t₂, ht₂⟩ := s₂
  simp only at hi hlog
  subst hi hlog ht₁ ht₂
  rfl

@[simp] theorem lastWrite_nil (p : Path) : lastWrite ([] : List (Write α)) p = none := rfl

theorem lastWrite_cons (w : Write α) (log : List (Write α)) (p : Path) :
    lastWrite (w :: log) p = if w.path = p then some w.value else lastWrite log p := by
  by_cases h : w.path = p <;> simp [lastWrite, h]

theorem lastWrite_isSome_of_mem {log : List (Write α)} {w : Write α} (h : w ∈ log) :
    (lastWrite log w.path).isSome = true := by
  induction log with
  | nil => cases h
  | cons w' log ih =>
    rw [lastWrite_cons]
    split
    · rfl
    · rename_i hne
      rcases List.mem_cons.mp h with rfl | hmem
      · exact absurd rfl hne
      · exact ih hmem

theorem isDir_replay (t : Tree) (log : List (Write α)) (p : Path) :
    (replay t log).isDir p = t.isDir p := by
  induction log with
  | nil => rfl
  | cons w log ih => rw [replay, List.foldr_cons, Tree.isDir_write]; exact ih

theorem writable_replay (t : Tree) (log : List (Write α)) (p : Path) :
    (replay t log).writable p = t.writable p := by
  induction log with
  | nil => rfl
  | cons w log ih => rw [replay, List.foldr_cons, Tree.writable_write]; exact ih

theorem content_replay (t : Tree) (log : List (Write α)) (p : Path) :
    (replay t log).content p = match lastWrite log p with
      | some v => if t.writable p = true then some v else t.content p
      | none => t.content p := by
  induction log with
  | nil => rfl
  | cons w log ih =>
    have hwr : (replay t log).writable w.path = t.writable w.path := writable_replay t log w.path
    rw [replay, List.foldr_cons, Tree.content_write, lastWrite_cons]
    change (if p = w.path ∧ (replay t log).writable w.path = true then _
      else (replay t log).content p) = _
    rw [hwr]
    by_cases hp : w.path = p
    · subst hp
      cases hw : t.writable w.path with
      | true => simp
      | false =>
        rw [ih]
        cases lastWrite log w.path <;> simp [hw]
    · simpa [hp, Ne.symm hp] using ih

namespace Journal

@[simp] theorem isDir_tree (s : Journal α) (p : Path) : s.tree.isDir p = s.initial.isDir p := by
  rw [s.tree_eq, isDir_replay]

@[simp] theorem writable_tree (s : Journal α) (p : Path) :
    s.tree.writable p = s.initial.writable p := by
  rw [s.tree_eq, writable_replay]

/-- **The tree is its journal.**  The newest write that can land decides the content. -/
theorem content_tree (s : Journal α) (p : Path) :
    s.tree.content p = match lastWrite s.log p with
      | some v => if s.initial.writable p = true then some v else s.initial.content p
      | none => s.initial.content p := by
  rw [s.tree_eq, content_replay]

end Journal

/-! ### Extending a journal by writes of a given kind -/

/-- `s` is reached from `s₀` by writes that all satisfy `P`. -/
structure Extends (P : Write α → Prop) (s₀ s : Journal α) : Prop where
  initial_eq : s.initial = s₀.initial
  log_eq : ∃ ws, s.log = ws ++ s₀.log ∧ ∀ w ∈ ws, P w

namespace Extends

variable {P Q : Write α → Prop} {s₀ s₁ s₂ : Journal α}

theorem refl (P : Write α → Prop) (s : Journal α) : Extends P s s := ⟨rfl, [], rfl, by simp⟩

theorem trans (h₁ : Extends P s₀ s₁) (h₂ : Extends P s₁ s₂) : Extends P s₀ s₂ := by
  obtain ⟨hi₁, ws₁, hlog₁, hP₁⟩ := h₁
  obtain ⟨hi₂, ws₂, hlog₂, hP₂⟩ := h₂
  refine ⟨hi₂.trans hi₁, ws₂ ++ ws₁, ?_, ?_⟩
  · rw [hlog₂, hlog₁, List.append_assoc]
  · intro w hw
    rcases List.mem_append.mp hw with hw | hw
    · exact hP₂ w hw
    · exact hP₁ w hw

theorem mono (hPQ : ∀ w, P w → Q w) (h : Extends P s₀ s₁) : Extends Q s₀ s₁ := by
  obtain ⟨hi, ws, hlog, hP⟩ := h
  exact ⟨hi, ws, hlog, fun w hw => hPQ w (hP w hw)⟩

/-- The write rule. -/
theorem write {a : α} {p : Path} {v : String} (h : Extends P s₀ s₁) (hw : P ⟨a, p, v⟩) :
    Extends P s₀ (s₁.write a p v) := by
  obtain ⟨hi, ws, hlog, hP⟩ := h
  refine ⟨hi, ⟨a, p, v⟩ :: ws, ?_, ?_⟩
  · rw [Journal.log_write, hlog, List.cons_append]
  · intro w hmem
    rcases List.mem_cons.mp hmem with rfl | hmem
    · exact hw
    · exact hP w hmem

/-- The loop rule: a loop whose body extends by `P` extends by `P`. -/
theorem foldl {l : List β} {f : Journal α → β → Journal α} (h : Extends P s₀ s₁)
    (hf : ∀ b ∈ l, ∀ s, Extends P s₀ s → Extends P s₀ (f s b)) :
    Extends P s₀ (l.foldl f s₁) := by
  induction l generalizing s₁ with
  | nil => exact h
  | cons b l ih =>
    exact ih (hf b (by simp) s₁ h) fun b' hb' => hf b' (List.mem_cons_of_mem _ hb')

/-- The induction rule: what holds of `s₀` and is kept by every write of `P` holds of `s`. -/
theorem induction {Q : Journal α → Prop} (h : Extends P s₀ s₁) (h₀ : Q s₀)
    (hstep : ∀ s w, Q s → P w → Q (s.write w.actor w.path w.value)) : Q s₁ := by
  obtain ⟨hi, ws, hlog, hP⟩ := h
  induction ws generalizing s₁ with
  | nil => exact Journal.ext_log hi (by simpa using hlog) ▸ h₀
  | cons w ws ih =>
    have hprev : Q ⟨s₀.initial, ws ++ s₀.log, replay s₀.initial (ws ++ s₀.log), rfl⟩ :=
      ih rfl rfl fun w' hw' => hP w' (List.mem_cons_of_mem _ hw')
    have hlast := hstep _ w hprev (hP w (by simp))
    have heq : s₁ = Journal.write ⟨s₀.initial, ws ++ s₀.log, replay s₀.initial (ws ++ s₀.log), rfl⟩
        w.actor w.path w.value := Journal.ext_log hi hlog
    rw [heq]
    exact hlast

/-- **The frame rule.**  A path no write names keeps its content. -/
theorem content_eq {p : Path} (h : Extends P s₀ s₁) (hp : ∀ w, P w → w.path ≠ p) :
    s₁.tree.content p = s₀.tree.content p := by
  obtain ⟨hi, ws, hlog, hP⟩ := h
  have hlast : ∀ ws' : List (Write α), (∀ w ∈ ws', P w) →
      lastWrite (ws' ++ s₀.log) p = lastWrite s₀.log p := by
    intro ws' hws'
    induction ws' with
    | nil => rfl
    | cons w ws' ih =>
      rw [List.cons_append, lastWrite_cons, if_neg (hp w (hws' w (by simp)))]
      exact ih fun w' hw' => hws' w' (List.mem_cons_of_mem _ hw')
  rw [s₁.content_tree, s₀.content_tree, hi, hlog, hlast ws hP]

/-- The frame rule for a family of paths that the writes stay out of. -/
theorem content_eq_on {R : Path → Prop} {p : Path} (h : Extends P s₀ s₁)
    (hR : ∀ w, P w → ¬R w.path) (hp : R p) : s₁.tree.content p = s₀.tree.content p := by
  apply h.content_eq
  intro w hw hpath
  apply hR w hw
  rw [hpath]
  exact hp

/-- The frame rule for existence. -/
theorem pathExists_eq {p : Path} (h : Extends P s₀ s₁) (hp : ∀ w, P w → w.path ≠ p) :
    s₁.tree.pathExists p = s₀.tree.pathExists p := by
  simp only [Tree.pathExists, Tree.isFile, h.content_eq hp, Journal.isDir_tree, h.initial_eq]

/-- No write removes a file. -/
theorem isFile_mono {p : Path} (h : Extends P s₀ s₁) (hp : s₀.tree.isFile p = true) :
    s₁.tree.isFile p = true := by
  apply h.induction (Q := fun s => s.tree.isFile p = true) hp
  intro s w hs _
  rw [Journal.tree_write, Tree.isFile_write, hs, Bool.true_or]

/-- No write removes a path. -/
theorem pathExists_mono {p : Path} (h : Extends P s₀ s₁) (hp : s₀.tree.pathExists p = true) :
    s₁.tree.pathExists p = true := by
  apply h.induction (Q := fun s => s.tree.pathExists p = true) hp
  intro s w hs _
  simp only [Tree.pathExists, Journal.tree_write, Tree.isFile_write, Tree.isDir_write,
    Bool.or_eq_true] at hs ⊢
  tauto

/-- Writes to `p` on a tree that has `p` already do not change whether `p` exists. -/
theorem pathExists_eq_of_exists {p : Path} (h : Extends P s₀ s₁)
    (hp : ∀ w, P w → w.path = p → s₀.tree.pathExists p = true) :
    s₁.tree.pathExists p = s₀.tree.pathExists p := by
  cases hex : s₀.tree.pathExists p with
  | true => exact h.pathExists_mono hex
  | false =>
    rw [← hex]
    apply h.pathExists_eq
    intro w hw hpath
    rw [hp w hw hpath] at hex
    cases hex

/-- Everything written since a tree nothing was written to satisfies `P`. -/
theorem forall_log {t : Tree} (h : Extends P (Journal.start t) s₁) : ∀ w ∈ s₁.log, P w := by
  obtain ⟨-, ws, hlog, hP⟩ := h
  rw [hlog, Journal.log_start, List.append_nil]
  exact hP

end Extends

/-! ### What some of the actors did -/

/-- The tree the writes of the actors `who` alone produce. -/
def replayOf (who : α → Bool) (s : Journal α) : Tree :=
  replay s.initial (s.log.filter fun w => who w.actor)

/-- Where nobody else wrote, the content is what `who` left. -/
theorem content_replayOf {who : α → Bool} {s : Journal α} {p : Path}
    (h : ∀ w ∈ s.log, who w.actor = false → w.path ≠ p) :
    s.tree.content p = (replayOf who s).content p := by
  have hlast : ∀ log : List (Write α), (∀ w ∈ log, who w.actor = false → w.path ≠ p) →
      lastWrite log p = lastWrite (log.filter fun w => who w.actor) p := by
    intro log
    induction log with
    | nil => exact fun _ => rfl
    | cons w log ih =>
      intro hlog
      have hrest := ih fun w' hw' => hlog w' (List.mem_cons_of_mem _ hw')
      cases hwho : who w.actor with
      | true => simp only [List.filter_cons, hwho, if_true, lastWrite_cons, hrest]
      | false =>
        simp only [List.filter_cons, hwho, Bool.false_eq_true, if_false, lastWrite_cons,
          if_neg (hlog w (by simp) hwho), hrest]
  rw [replayOf, content_replay, s.content_tree, hlast s.log h]

end Library.Journaling
