import WattWarden.Library.Runs
import Mathlib.Order.Nat

/-!
# Two observations in order

A recogniser for "an `A`, and strictly later a `B`": it waits for an `A`, then it is armed and waits
for a `B`, and then it has fired for good.  One observation moves it by one stage at most.

* `Stage` / `next A B` — the recogniser;
* `InOrder A B l` — some observation of `l` is an `A` and a strictly later one is a `B`;
* `run_next_fired`, `run_next_armed`, `run_next_waiting` — **PROVED**: where it is after a list of
  observations, read off the list;
* `rank_le_run` — **PROVED**: it never goes back.
-/

namespace Library.Stages

open Library.Runs

inductive Stage where
  | waiting
  | armed
  | fired
  deriving DecidableEq, Repr

/-- How far the recogniser has come. -/
def Stage.rank : Stage → ℕ
  | waiting => 0
  | armed => 1
  | fired => 2

variable {ω : Type*} (A B : ω → Prop)

open Classical in
/-- One observation. -/
noncomputable def next : Stage → ω → Stage
  | .waiting, o => if A o then .armed else .waiting
  | .armed, o => if B o then .fired else .armed
  | .fired, _ => .fired

/-- Some observation is an `A` and a strictly later one is a `B`. -/
def InOrder (l : List ω) : Prop := ∃ a b, A a ∧ B b ∧ [a, b].Sublist l

variable {A B}

@[simp] theorem inOrder_nil : ¬InOrder A B [] := by
  intro h
  obtain ⟨a, b, -, -, hsub⟩ := h
  cases hsub

theorem inOrder_cons {o : ω} {l : List ω} :
    InOrder A B (o :: l) ↔ InOrder A B l ∨ (A o ∧ ∃ b ∈ l, B b) := by
  constructor
  · intro h
    obtain ⟨a, b, ha, hb, hsub⟩ := h
    rcases List.cons_sublist_cons'.mp hsub with hrest | ⟨rfl, hlater⟩
    · exact .inl ⟨a, b, ha, hb, hrest⟩
    · exact .inr ⟨ha, b, List.singleton_sublist.mp hlater, hb⟩
  · intro h
    obtain ⟨a, b, ha, hb, hsub⟩ | ⟨ho, b, hmem, hb⟩ := h
    · exact ⟨a, b, ha, hb, hsub.cons o⟩
    · exact ⟨o, b, ho, hb, (List.singleton_sublist.mpr hmem).cons_cons o⟩

theorem run_next_fired_of_fired (l : List ω) : run (next A B) .fired l = .fired := by
  induction l with
  | nil => rfl
  | cons o l ih => exact ih

/-- Once armed, it fires at the first `B`. -/
theorem run_next_of_armed (l : List ω) :
    (run (next A B) .armed l = .fired ∧ ∃ b ∈ l, B b) ∨
      (run (next A B) .armed l = .armed ∧ ¬∃ b ∈ l, B b) := by
  induction l with
  | nil => exact .inr ⟨rfl, by simp⟩
  | cons o l ih =>
    rw [run_cons, next, List.exists_mem_cons_iff]
    by_cases ho : B o
    · rw [if_pos ho]
      exact .inl ⟨run_next_fired_of_fired l, .inl ho⟩
    · rw [if_neg ho, or_iff_right ho]
      exact ih

/-- **Where the recogniser is after the observations `l`.** -/
theorem run_next_cases (l : List ω) :
    (run (next A B) .waiting l = .waiting ∧ (¬∃ a ∈ l, A a) ∧ ¬InOrder A B l) ∨
      (run (next A B) .waiting l = .armed ∧ (∃ a ∈ l, A a) ∧ ¬InOrder A B l) ∨
      (run (next A B) .waiting l = .fired ∧ (∃ a ∈ l, A a) ∧ InOrder A B l) := by
  induction l with
  | nil => exact .inl ⟨rfl, by simp, by simp⟩
  | cons o l ih =>
    rw [run_cons, next, List.exists_mem_cons_iff, inOrder_cons]
    by_cases ho : A o
    · -- what comes later only has to bring a `B`
      rw [if_pos ho, or_iff_right_of_imp (a := InOrder A B l)]
      · rcases run_next_of_armed l with ⟨hrun, hb⟩ | ⟨hrun, hb⟩
        · exact .inr (.inr ⟨hrun, .inl ho, ho, hb⟩)
        · exact .inr (.inl ⟨hrun, .inl ho, fun h => hb h.2⟩)
      · intro hgiven
        obtain ⟨a, b, -, hb, hsub⟩ := hgiven
        exact ⟨ho, b, hsub.subset (by simp), hb⟩
    · rw [if_neg ho, or_iff_right ho, or_iff_left fun h : A o ∧ _ => ho h.1]
      exact ih

theorem run_next_fired (l : List ω) : run (next A B) .waiting l = .fired ↔ InOrder A B l := by
  rcases run_next_cases (A := A) (B := B) l with ⟨h, -, hno⟩ | ⟨h, -, hno⟩ | ⟨h, -, hyes⟩
  · simp [h, hno]
  · simp [h, hno]
  · simp [h, hyes]

theorem run_next_armed (l : List ω) :
    run (next A B) .waiting l = .armed ↔ (∃ a ∈ l, A a) ∧ ¬InOrder A B l := by
  rcases run_next_cases (A := A) (B := B) l with ⟨h, hnone, -⟩ | ⟨h, hsome, hno⟩ | ⟨h, -, hyes⟩
  · exact iff_of_false (by simp [h]) fun hboth => hnone hboth.1
  · exact iff_of_true h ⟨hsome, hno⟩
  · exact iff_of_false (by simp [h]) fun hboth => hboth.2 hyes

theorem run_next_waiting (l : List ω) :
    run (next A B) .waiting l = .waiting ↔ ¬∃ a ∈ l, A a := by
  rcases run_next_cases (A := A) (B := B) l with ⟨h, hnone, -⟩ | ⟨h, hsome, -⟩ | ⟨h, hsome, -⟩
  · exact iff_of_true h hnone
  · exact iff_of_false (by simp [h]) fun hnone => hnone hsome
  · exact iff_of_false (by simp [h]) fun hnone => hnone hsome

/-- **It never goes back.** -/
theorem rank_le_run (s : Stage) (l : List ω) : s.rank ≤ (run (next A B) s l).rank := by
  apply le_run Stage.rank
  intro s o
  cases s with
  | waiting =>
    rw [next]
    split <;> decide
  | armed =>
    rw [next]
    split <;> decide
  | fired => rfl

end Library.Stages
