import WattWarden.Library.Journaling

/-!
# Write plans

An operation whose writes can be listed before it starts: running it is attempting the writes of
the list, first to last.  What it leaves behind is then a question about the list.

* `Journal.writeAll` — attempt a list of writes, with its rules for `++` and for the journal;
* `content_writeAll` — **PROVED**: a path ends with the last value listed for it when it can be
  written, and keeps its content otherwise;
* `written` — the paths a plan lists; `planned_append_of_subset` — **PROVED**: a plan absorbs one
  before it that lists no other paths;
* `isFile_writeAll` — **PROVED**: a path is a file afterwards exactly when it was one or can be
  written and is listed;
* `foldl_eq_writeAll` — **PROVED**: a loop follows the concatenation of the plans of its rounds, made
  on a reference tree, as long as the writes leave alone what the plans look at;
* `Quiet` — a path that a write cannot create; a plan of quiet paths creates nothing;
* `cutShort` — the first writes of some work; `Extends.cutShort` — **PROVED**: they are of its kind.
-/

namespace Library.Journaling

open Library.FileTree

variable {α β : Type*}

namespace Journal

/-- Attempt a list of writes, first to last. -/
def writeAll (s : Journal α) (ws : List (Write α)) : Journal α :=
  ws.foldl (fun s w => s.write w.actor w.path w.value) s

@[simp] theorem writeAll_nil (s : Journal α) : s.writeAll [] = s := rfl

@[simp] theorem writeAll_cons (s : Journal α) (w : Write α) (ws : List (Write α)) :
    s.writeAll (w :: ws) = (s.write w.actor w.path w.value).writeAll ws := rfl

theorem writeAll_append (s : Journal α) (ws ws' : List (Write α)) :
    s.writeAll (ws ++ ws') = (s.writeAll ws).writeAll ws' := by
  rw [writeAll, writeAll, writeAll, List.foldl_append]

@[simp] theorem initial_writeAll (s : Journal α) (ws : List (Write α)) :
    (s.writeAll ws).initial = s.initial := by
  induction ws generalizing s with
  | nil => rfl
  | cons w ws ih => exact ih (s.write w.actor w.path w.value)

theorem log_writeAll (s : Journal α) (ws : List (Write α)) :
    (s.writeAll ws).log = ws.reverse ++ s.log := by
  induction ws generalizing s with
  | nil => rfl
  | cons w ws ih =>
    rw [writeAll_cons, ih, log_write, List.reverse_cons, List.append_assoc]
    rfl

/-- The journal of a run that follows a plan is the plan. -/
theorem mem_log_writeAll {t : Tree} {ws : List (Write α)} {w : Write α} :
    w ∈ ((start t).writeAll ws).log ↔ w ∈ ws := by
  rw [log_writeAll, log_start, List.append_nil, List.mem_reverse]

end Journal

/-! ### What a plan leaves behind -/

/-- The last value a plan lists for `p`. -/
def planned (ws : List (Write α)) (p : Path) : Option String := lastWrite ws.reverse p

@[simp] theorem planned_nil (p : Path) : planned ([] : List (Write α)) p = none := rfl

theorem lastWrite_append (l l' : List (Write α)) (p : Path) :
    lastWrite (l ++ l') p = (lastWrite l p).or (lastWrite l' p) := by
  induction l with
  | nil => rfl
  | cons w l ih =>
    rw [List.cons_append, lastWrite_cons, lastWrite_cons, ih]
    split <;> rfl

theorem planned_append (ws ws' : List (Write α)) (p : Path) :
    planned (ws ++ ws') p = (planned ws' p).or (planned ws p) := by
  rw [planned, planned, planned, List.reverse_append, lastWrite_append]

theorem planned_cons (w : Write α) (ws : List (Write α)) (p : Path) :
    planned (w :: ws) p = (planned ws p).or (if w.path = p then some w.value else none) := by
  rw [← List.singleton_append, planned_append, planned, planned, List.reverse_singleton,
    lastWrite_cons, lastWrite_nil]

theorem planned_eq_none {ws : List (Write α)} {p : Path} :
    planned ws p = none ↔ ∀ w ∈ ws, w.path ≠ p := by
  induction ws with
  | nil => simp
  | cons w ws ih =>
    rw [planned_cons, Option.or_eq_none_iff, ih, List.forall_mem_cons]
    by_cases h : w.path = p <;> simp [h]

theorem planned_isSome {ws : List (Write α)} {p : Path} :
    (planned ws p).isSome = true ↔ ∃ w ∈ ws, w.path = p := by
  rw [Option.isSome_iff_ne_none, ne_eq, planned_eq_none]
  push Not
  rfl

/-- The paths a plan lists. -/
def written (ws : List (Write α)) : List Path := ws.map Write.path

@[simp] theorem written_nil : written ([] : List (Write α)) = [] := rfl

@[simp] theorem written_append (ws ws' : List (Write α)) :
    written (ws ++ ws') = written ws ++ written ws' := by
  rw [written, List.map_append]
  rfl

@[simp] theorem written_flatMap (l : List β) (plan : β → List (Write α)) :
    written (l.flatMap plan) = l.flatMap fun b => written (plan b) := by
  rw [written, List.map_flatMap]
  rfl

theorem mem_written {ws : List (Write α)} {p : Path} : p ∈ written ws ↔ ∃ w ∈ ws, w.path = p := by
  rw [written, List.mem_map]

theorem planned_eq_none_iff {ws : List (Write α)} {p : Path} :
    planned ws p = none ↔ p ∉ written ws := by
  rw [planned_eq_none, mem_written]
  push Not
  rfl

/-- **A plan absorbs what it writes again.** -/
theorem planned_append_of_subset {ws ws' : List (Write α)} (h : written ws ⊆ written ws')
    (p : Path) : planned (ws ++ ws') p = planned ws' p := by
  rw [planned_append]
  cases hp : planned ws' p with
  | some v => rfl
  | none =>
    rw [Option.none_or, planned_eq_none_iff]
    exact fun hmem => planned_eq_none_iff.mp hp (h hmem)

/-- What a plan lists for `p` is a value it writes there. -/
theorem planned_mem {ws : List (Write α)} {p : Path} {v : String} (h : planned ws p = some v) :
    ∃ w ∈ ws, w.path = p ∧ w.value = v := by
  induction ws with
  | nil => cases h
  | cons w ws ih =>
    rw [planned_cons] at h
    cases htail : planned ws p with
    | some v' =>
      rw [htail, Option.some_or] at h
      obtain ⟨w', hw', hspec⟩ := ih (htail.trans h)
      exact ⟨w', List.mem_cons_of_mem _ hw', hspec⟩
    | none =>
      rw [htail, Option.none_or] at h
      by_cases hp : w.path = p
      · rw [if_pos hp] at h
        exact ⟨w, List.mem_cons_self .., hp, Option.some.inj h⟩
      · rw [if_neg hp] at h
        cases h

/-- A plan that lists one value for a path leaves that value. -/
theorem planned_eq_some {ws : List (Write α)} {p : Path} {v : String} (hmem : ∃ w ∈ ws, w.path = p)
    (hall : ∀ w ∈ ws, w.path = p → w.value = v) : planned ws p = some v := by
  obtain ⟨v', hv'⟩ := Option.isSome_iff_exists.mp (planned_isSome.mpr hmem)
  obtain ⟨w, hw, hpath, hvalue⟩ := planned_mem hv'
  rw [hv', ← hvalue, hall w hw hpath]

namespace Journal

@[simp] theorem writable_writeAll (s : Journal α) (ws : List (Write α)) (p : Path) :
    (s.writeAll ws).tree.writable p = s.tree.writable p := by
  rw [writable_tree, initial_writeAll, writable_tree]

@[simp] theorem isDir_writeAll (s : Journal α) (ws : List (Write α)) (p : Path) :
    (s.writeAll ws).tree.isDir p = s.tree.isDir p := by
  rw [isDir_tree, initial_writeAll, isDir_tree]

/-- **The outcome of a plan.** -/
theorem content_writeAll (s : Journal α) (ws : List (Write α)) (p : Path) :
    (s.writeAll ws).tree.content p = match planned ws p with
      | some v => if s.tree.writable p = true then some v else s.tree.content p
      | none => s.tree.content p := by
  induction ws generalizing s with
  | nil => rfl
  | cons w ws ih =>
    rw [writeAll_cons, ih, planned_cons, tree_write, Tree.writable_write, Tree.content_write]
    cases planned ws p with
    | some v =>
      rw [Option.some_or]
      dsimp only
      by_cases hw : s.tree.writable p = true
      · rw [if_pos hw, if_pos hw]
      · have hother : ¬(p = w.path ∧ s.tree.writable w.path = true) := fun h => hw (h.1 ▸ h.2)
        rw [if_neg hw, if_neg hw, if_neg hother]
    | none =>
      rw [Option.none_or]
      by_cases hp : w.path = p
      · subst hp
        simp
      · simp [hp, Ne.symm hp]

/-- A path whose writes do not land keeps its content. -/
theorem content_writeAll_of_refused {s : Journal α} {ws : List (Write α)} {p : Path}
    (h : ∀ w ∈ ws, w.path = p → ¬s.tree.writable p = true) :
    (s.writeAll ws).tree.content p = s.tree.content p := by
  rw [content_writeAll]
  cases hplanned : planned ws p with
  | none => rfl
  | some v =>
    obtain ⟨w, hw, hpath, -⟩ := planned_mem hplanned
    exact if_neg (h w hw hpath)

/-- A path a plan does not list keeps its content. -/
theorem content_writeAll_of_not_mem {s : Journal α} {ws : List (Write α)} {p : Path}
    (h : ∀ w ∈ ws, w.path ≠ p) : (s.writeAll ws).tree.content p = s.tree.content p :=
  content_writeAll_of_refused fun w hw hpath => absurd hpath (h w hw)

theorem isFile_writeAll (s : Journal α) (ws : List (Write α)) (p : Path) :
    (s.writeAll ws).tree.isFile p = true ↔
      s.tree.isFile p = true ∨ (s.tree.writable p = true ∧ ∃ w ∈ ws, w.path = p) := by
  rw [Tree.isFile, content_writeAll, ← planned_isSome]
  cases planned ws p with
  | none => simp [Tree.isFile]
  | some v =>
    by_cases hw : s.tree.writable p = true <;> simp [hw, Tree.isFile]

/-- A plan is a sequence of its writes. -/
theorem writeAll_extends {P : Write α → Prop} {s₀ s : Journal α} (h : Extends P s₀ s)
    {ws : List (Write α)} (hP : ∀ w ∈ ws, P w) : Extends P s₀ (s.writeAll ws) :=
  h.foldl fun w hw _ hs => hs.write (hP w hw)

end Journal

/-! ### Loops that follow a plan -/

/-- **The loop rule.**  `R` is what the plans of the rounds look at: while it holds of the reference
tree and the current one, each round follows its plan, and the writes of a plan keep it. -/
theorem foldl_eq_writeAll {R : Tree → Prop} {l : List β} {f : Journal α → β → Journal α}
    {plan : β → List (Write α)}
    (hf : ∀ b ∈ l, ∀ s : Journal α, R s.tree → f s b = s.writeAll (plan b))
    (hR : ∀ b ∈ l, ∀ s : Journal α, R s.tree → R (s.writeAll (plan b)).tree)
    (s : Journal α) (hs : R s.tree) : l.foldl f s = s.writeAll (l.flatMap plan) := by
  induction l generalizing s with
  | nil => rfl
  | cons b l ih =>
    rw [List.foldl_cons, hf b (by simp) s hs, List.flatMap_cons, Journal.writeAll_append]
    exact ih (fun b' hb' => hf b' (List.mem_cons_of_mem _ hb'))
      (fun b' hb' => hR b' (List.mem_cons_of_mem _ hb')) _ (hR b (by simp) s hs)

/-! ### Plans that create nothing -/

/-- A write to `p` does not create it. -/
def Quiet (t : Tree) (p : Path) : Prop := t.writable p = true → t.isFile p = true

instance (t : Tree) (p : Path) : Decidable (Quiet t p) := inferInstanceAs (Decidable (_ → _))

theorem quiet_of_pathExists {t : Tree} {p : Path} (h : t.pathExists p = true) : Quiet t p := by
  intro hw
  rw [Tree.pathExists, Bool.or_eq_true] at h
  rw [Tree.writable, Bool.or_eq_true] at hw
  rcases h with hfile | hdir
  · exact hfile
  · rcases hw with hfile | hfree
    · exact hfile
    · simp [hdir] at hfree

/-- **Exactly the loud paths are created.** -/
theorem pathExists_writeAll_iff (s : Journal α) (ws : List (Write α)) :
    (∀ p, (s.writeAll ws).tree.pathExists p = s.tree.pathExists p) ↔
      ∀ w ∈ ws, Quiet s.tree w.path := by
  constructor
  · intro h w hw hwritable
    have hfile : (s.writeAll ws).tree.isFile w.path = true :=
      (s.isFile_writeAll ws w.path).mpr (.inr ⟨hwritable, w, hw, rfl⟩)
    have hexists : s.tree.pathExists w.path = true := by
      rw [← h, Tree.pathExists, hfile, Bool.true_or]
    exact quiet_of_pathExists hexists hwritable
  · intro h p
    have hfile : (s.writeAll ws).tree.isFile p = s.tree.isFile p := by
      rw [Bool.eq_iff_iff, s.isFile_writeAll]
      constructor
      · intro hp
        rcases hp with hp | ⟨hwritable, w, hw, rfl⟩
        · exact hp
        · exact h w hw hwritable
      · exact .inl
    rw [Tree.pathExists, Tree.pathExists, hfile, s.isDir_writeAll]

/-! ### Work that is cut off -/

/-- Of the writes between two journals, the first `n`. -/
def cutShort (before after : Journal α) (n : ℕ) : Journal α :=
  before.writeAll ((after.log.take (after.log.length - before.log.length)).reverse.take n)

section CutShort

variable {P : Write α → Prop} {before after : Journal α} {n : ℕ}

/-- **What is cut off has made writes of the same kind.** -/
theorem Extends.cutShort (h : Extends P before after) (n : ℕ) :
    Extends P before (cutShort before after n) := by
  obtain ⟨-, ws, hlog, hP⟩ := h
  rw [Journaling.cutShort, hlog, List.length_append, Nat.add_sub_cancel, List.take_left]
  apply (Extends.refl P before).foldl
  intro w hw s hs
  exact hs.write (hP w (List.mem_reverse.mp (List.mem_of_mem_take hw)))

end CutShort

end Library.Journaling
