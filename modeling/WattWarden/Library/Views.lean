import WattWarden.Library.Journaling
import WattWarden.Library.Runs

/-!
# What one part of a file tree sees of a run

A view is a set of paths.  Two trees look alike to it when they have the same directories and the
same content there, and then the same program does the same to what it sees of both.

* `Agree S t₁ t₂` — the two trees look alike on `S`;
* `Agree.write_both`, `Agree.writeIf`, `Agree.foldl` — the same on both sides; `Agree.left`,
  `Agree.right` — writes of one side that the view does not see;
* `run_purge` — **PROVED**: where an event that does not concern a view leaves it alone, and one
  that does treats like states alike, a run looks like the run of the events that concern it.
-/

namespace Library.Views

open Library.FileTree Library.Journaling Library.Runs

/-! ### Trees that look alike -/

/-- The same directories, and the same content on `S`. -/
structure Agree (S : Path → Prop) (t₁ t₂ : Tree) : Prop where
  isDir_eq : ∀ p, t₁.isDir p = t₂.isDir p
  content_eq : ∀ p, S p → t₁.content p = t₂.content p

namespace Agree

variable {α β : Type*} {S : Path → Prop} {t₁ t₂ : Tree} {s₁ s₂ s₁' s₂' : Journal α}

theorem refl (S : Path → Prop) (t : Tree) : Agree S t t := ⟨fun _ => rfl, fun _ _ => rfl⟩

theorem symm (h : Agree S t₁ t₂) : Agree S t₂ t₁ :=
  ⟨fun p => (h.isDir_eq p).symm, fun p hp => (h.content_eq p hp).symm⟩

theorem isFile_eq (h : Agree S t₁ t₂) {p : Path} (hp : S p) : t₁.isFile p = t₂.isFile p := by
  rw [Tree.isFile, Tree.isFile, h.content_eq p hp]

theorem pathExists_eq (h : Agree S t₁ t₂) {p : Path} (hp : S p) :
    t₁.pathExists p = t₂.pathExists p := by
  rw [Tree.pathExists, Tree.pathExists, h.isFile_eq hp, h.isDir_eq]

theorem writable_eq (h : Agree S t₁ t₂) {p : Path} (hp : S p) :
    t₁.writable p = t₂.writable p := by
  rw [Tree.writable, Tree.writable, h.isFile_eq hp, h.isDir_eq, h.isDir_eq]

/-- A listing whose entries are in view. -/
theorem names_eq (h : Agree S t₁ t₂) {d : Path} (hd : ∀ n, S (d ++ [n])) :
    t₁.names d = t₂.names d :=
  Tree.names_congr fun n => h.pathExists_eq (hd n)

/-- The same write on both sides, in view or not. -/
theorem write_both (h : Agree S t₁ t₂) (p : Path) (v : String) :
    Agree S (t₁.write p v) (t₂.write p v) where
  isDir_eq q := by rw [Tree.isDir_write, Tree.isDir_write, h.isDir_eq]
  content_eq q hq := by
    rw [Tree.content_write, Tree.content_write, h.content_eq q hq]
    by_cases hqp : q = p
    · rw [← hqp, h.writable_eq hq]
    · rw [if_neg fun hand => hqp hand.1, if_neg fun hand => hqp hand.1]

/-- The same write on both sides, guarded by the existence of its target. -/
theorem writeIf (h : Agree S s₁.tree s₂.tree) {p : Path} (hp : S p) (a : α) (v : String) :
    Agree S (if s₁.tree.pathExists p then s₁.write a p v else s₁).tree
      (if s₂.tree.pathExists p then s₂.write a p v else s₂).tree := by
  rw [h.pathExists_eq hp]
  split
  · exact h.write_both p v
  · exact h

/-- The same loop on both sides. -/
theorem foldl {l : List β} {f₁ f₂ : Journal α → β → Journal α} (h : Agree S s₁.tree s₂.tree)
    (hf : ∀ b ∈ l, ∀ s₁ s₂, Agree S s₁.tree s₂.tree → Agree S (f₁ s₁ b).tree (f₂ s₂ b).tree) :
    Agree S (l.foldl f₁ s₁).tree (l.foldl f₂ s₂).tree := by
  induction l generalizing s₁ s₂ with
  | nil => exact h
  | cons b l ih =>
    exact ih (hf b (by simp) s₁ s₂ h) fun b' hb' => hf b' (List.mem_cons_of_mem _ hb')

/-- Writes of the left side that the view does not see. -/
theorem left {P : Write α → Prop} (h : Agree S s₁.tree s₂.tree) (hext : Extends P s₁ s₁')
    (hP : ∀ w, P w → ¬S w.path) : Agree S s₁'.tree s₂.tree := by
  apply hext.induction (Q := fun s => Agree S s.tree s₂.tree) h
  intro s w hs hw
  constructor
  · intro p
    rw [Journal.tree_write, Tree.isDir_write, hs.isDir_eq]
  · intro p hp
    have hne : p ≠ w.path := by
      intro heq
      subst heq
      exact hP w hw hp
    rw [Journal.tree_write, Tree.content_write_ne _ hne, hs.content_eq p hp]

theorem right {P : Write α → Prop} (h : Agree S s₁.tree s₂.tree) (hext : Extends P s₂ s₂')
    (hP : ∀ w, P w → ¬S w.path) : Agree S s₁.tree s₂'.tree :=
  (h.symm.left hext hP).symm

end Agree

/-! ### The events that concern a view -/

section Purge

variable {σ ε γ : Type*} {step : σ → ε → σ} {Sim : σ → σ → Prop} {concerns : ε → Bool}
  {out : σ → ε → γ}

/-- **Purging.**  Dropping the events that do not concern a view changes neither what it sees at the
end nor what the others put out on the way. -/
theorem run_purge
    (hown : ∀ s₁ s₂ e, concerns e = true → Sim s₁ s₂ →
      Sim (step s₁ e) (step s₂ e) ∧ out s₁ e = out s₂ e)
    (hother : ∀ s₁ s₂ e, concerns e = false → Sim s₁ s₂ → Sim (step s₁ e) s₂) (es : List ε) :
    ∀ {s₁ s₂ : σ}, Sim s₁ s₂ →
      Sim (run step s₁ es) (run step s₂ (es.filter concerns)) ∧
      ((visits step s₁ es).filter fun v => concerns v.2).map (fun v => out v.1 v.2)
        = (visits step s₂ (es.filter concerns)).map fun v => out v.1 v.2 := by
  induction es with
  | nil => exact fun h => ⟨h, rfl⟩
  | cons e es ih =>
    intro s₁ s₂ h
    cases he : concerns e with
    | true =>
      obtain ⟨hsim, hout⟩ := hown s₁ s₂ e he h
      obtain ⟨hend, houts⟩ := ih hsim
      simp only [visits, List.filter_cons, he, if_true, List.map_cons]
      exact ⟨hend, congrArg₂ List.cons hout houts⟩
    | false =>
      obtain ⟨hend, houts⟩ := ih (hother s₁ s₂ e he h)
      simp only [visits, List.filter_cons, he, Bool.false_eq_true, if_false]
      exact ⟨hend, houts⟩

end Purge

end Library.Views
