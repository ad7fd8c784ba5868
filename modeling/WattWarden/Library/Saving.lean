import Mathlib.Data.List.Basic

/-!
# Saving, step by step

A save is a list of steps on a state.  A reader may look, and the saver may die, after any number of
them; what it finds is the state cut off there.

* `cut steps n s` — the state after the first `n` steps;
* `OldOrNew obs steps s n` — what is observed at the cut is what was observed before the save, or
  what is observed after all of it;
* `oldOrNew_inPlace_iff` — **PROVED**: a file overwritten in place, torn between truncation and
  write, is old or new exactly outside that window, or where the torn file passes for one of them.
-/

namespace Library.Saving

variable {σ β : Type*}

/-- The state after the first `n` steps. -/
def cut (steps : List (σ → σ)) (n : ℕ) (s : σ) : σ := (steps.take n).foldl (fun s f => f s) s

/-- The state after all of them. -/
def completed (steps : List (σ → σ)) (s : σ) : σ := cut steps steps.length s

/-- What is observed at the cut is what was observed before the save or what is observed after. -/
def OldOrNew (obs : σ → β) (steps : List (σ → σ)) (s : σ) (n : ℕ) : Prop :=
  obs (cut steps n s) = obs s ∨ obs (cut steps n s) = obs (completed steps s)

theorem cut_of_length_le {steps : List (σ → σ)} {n : ℕ} (h : steps.length ≤ n) (s : σ) :
    cut steps n s = completed steps s := by
  rw [cut, completed, cut, List.take_of_length_le h, List.take_length]

/-- `fs::write` on an existing file: truncate, then write. -/
def inPlace (torn new : σ) : List (σ → σ) := [fun _ => torn, fun _ => new]

@[simp] theorem completed_inPlace (torn new s : σ) : completed (inPlace torn new) s = new := rfl

@[simp] theorem cut_inPlace_zero (torn new s : σ) : cut (inPlace torn new) 0 s = s := rfl

@[simp] theorem cut_inPlace_one (torn new s : σ) : cut (inPlace torn new) 1 s = torn := rfl

theorem cut_inPlace_of_two_le (torn new s : σ) {n : ℕ} (h : 2 ≤ n) :
    cut (inPlace torn new) n s = new := cut_of_length_le h s

/-- **The window of an overwrite in place.** -/
theorem oldOrNew_inPlace_iff (obs : σ → β) (torn new s : σ) (n : ℕ) :
    OldOrNew obs (inPlace torn new) s n ↔ n ≠ 1 ∨ obs torn = obs s ∨ obs torn = obs new := by
  rw [OldOrNew, completed_inPlace]
  rcases (show n = 0 ∨ n = 1 ∨ 2 ≤ n from by omega) with rfl | rfl | hn
  · simp
  · simp
  · rw [cut_inPlace_of_two_le torn new s hn]
    exact iff_of_true (.inr rfl) (.inl (by omega))

end Library.Saving
