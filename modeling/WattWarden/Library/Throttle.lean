import Mathlib.Data.List.Chain
import Mathlib.Data.Int.Notation
import Mathlib.Tactic.Ring

/-!
# Rate limits with one memory cell

A limiter lets a request through when none has passed yet, or when the last one that passed is at
least `gap` back, and all it remembers is the time of that one; the memory 0 stands for never.  The
clock may jump in either direction.

* `due` / `passed` / `memory` — one decision, the requests that pass, the memory they leave;
* `passed_apart` — **PROVED**: consecutive passes are `gap` apart, but for one at time 0;
* `refused_recent` — **PROVED**: what is refused comes less than `gap` after the last pass, or before
  it, the clock having been set back;
* `passed_window` — **PROVED**: a window of time holds at most one pass for each `gap`, and one more.
-/

namespace Library.Throttle

variable {α : Type*} {gap last : ℤ}

/-- Nothing passed yet, or the last pass is `gap` back. -/
def due (gap last now : ℤ) : Bool := decide (last = 0) || decide (gap ≤ now - last)

/-- The requests that pass, each with its time. -/
def passed (gap : ℤ) : ℤ → List (ℤ × α) → List (ℤ × α)
  | _, [] => []
  | last, request :: rest =>
      if due gap last request.1 then request :: passed gap request.1 rest
      else passed gap last rest

/-- What is remembered after the requests. -/
def memory (gap last : ℤ) (requests : List (ℤ × α)) : ℤ :=
  requests.foldl (fun last request => if due gap last request.1 then request.1 else last) last

/-- Two consecutive passes: the second is `gap` after the first, or the first was taken for never. -/
def FarEnough (gap first second : ℤ) : Prop := first = 0 ∨ gap ≤ second - first

theorem due_iff {now : ℤ} : due gap last now = true ↔ FarEnough gap last now := by
  rw [due, Bool.or_eq_true, decide_eq_true_eq, decide_eq_true_eq, FarEnough]

/-! ### Passes in a row -/

theorem passed_sublist (gap last : ℤ) (requests : List (ℤ × α)) :
    (passed gap last requests).Sublist requests := by
  induction requests generalizing last with
  | nil => exact List.Sublist.slnil
  | cons request rest ih =>
    rw [passed]
    split
    · exact (ih request.1).cons_cons request
    · exact (ih last).cons request

/-- **Spacing.**  The memory the limiter starts with counts as a pass. -/
theorem passed_apart_cons (gap last : ℤ) (requests : List (ℤ × α)) :
    (last :: (passed gap last requests).map Prod.fst).IsChain (FarEnough gap) := by
  induction requests generalizing last with
  | nil => exact List.isChain_singleton last
  | cons request rest ih =>
    rw [passed]
    split
    · rename_i hdue
      rw [List.map_cons, List.isChain_cons_cons]
      exact ⟨due_iff.mp hdue, ih request.1⟩
    · exact ih last

theorem passed_apart (gap last : ℤ) (requests : List (ℤ × α)) :
    ((passed gap last requests).map Prod.fst).IsChain (FarEnough gap) :=
  (passed_apart_cons gap last requests).tail

/-- The memory is the time of the last pass. -/
theorem memory_eq (gap last : ℤ) (requests : List (ℤ × α)) :
    memory gap last requests = ((passed gap last requests).map Prod.fst).getLast?.getD last := by
  induction requests generalizing last with
  | nil => rfl
  | cons request rest ih =>
    rw [memory, List.foldl_cons, passed]
    split
    · rw [List.map_cons, List.getLast?_cons, Option.getD_some]
      exact ih request.1
    · exact ih last

/-- **Nothing is refused without a recent pass.**  From the memory 0, a request that does not pass
comes less than `gap` after the last one that did, which was not at 0. -/
theorem refused_recent {before : List (ℤ × α)} {now : ℤ}
    (h : due gap (memory gap 0 before) now = false) :
    ∃ time, ((passed gap 0 before).map Prod.fst).getLast? = some time ∧ time ≠ 0 ∧
      now - time < gap := by
  have hnot : ¬FarEnough gap (memory gap 0 before) now := fun hapart => by
    rw [due_iff.mpr hapart] at h
    exact Bool.noConfusion h
  rw [FarEnough, not_or, not_le] at hnot
  obtain ⟨hmemory, hrecent⟩ := hnot
  rw [memory_eq] at hmemory hrecent
  cases hlast : ((passed gap 0 before).map Prod.fst).getLast? with
  | none =>
    rw [hlast] at hmemory
    exact absurd rfl hmemory
  | some time =>
    rw [hlast] at hmemory hrecent
    exact ⟨time, rfl, hmemory, hrecent⟩

/-! ### Passes in a window -/

/-- On a clock that is never negative, passes are pairwise apart: only the first ones are at 0. -/
theorem pairwise_of_apart {times : List ℤ} (hgap : 0 < gap) (h : times.IsChain (FarEnough gap))
    (hnonneg : ∀ time ∈ times, 0 ≤ time) : times.Pairwise (FarEnough gap) := by
  have hchain : times.IsChain fun first second => 0 ≤ first ∧ FarEnough gap first second :=
    List.IsChain.imp_of_mem_imp (fun first _ hfirst _ hapart => ⟨hnonneg first hfirst, hapart⟩) h
  have htrans : Trans (α := ℤ) (fun first second => 0 ≤ first ∧ FarEnough gap first second)
      (fun first second => 0 ≤ first ∧ FarEnough gap first second)
      (fun first second => 0 ≤ first ∧ FarEnough gap first second) := by
    constructor
    intro a b c hab hbc
    obtain ⟨ha, hab⟩ := hab
    obtain ⟨-, hbc⟩ := hbc
    refine ⟨ha, ?_⟩
    rw [FarEnough] at hab hbc ⊢
    omega
  exact (List.isChain_iff_pairwise.mp hchain).imp fun hapart => hapart.2

/-- As many as fit: `n` times pairwise `gap` apart cover `n - 1` gaps. -/
theorem length_mul_le {times : List ℤ} {lo hi : ℤ}
    (h : times.Pairwise fun first second => gap ≤ second - first)
    (hlo : ∀ time ∈ times, lo ≤ time) (hhi : ∀ time ∈ times, time ≤ hi) (hne : times ≠ []) :
    (times.length - 1) * gap ≤ hi - lo := by
  induction times generalizing lo with
  | nil => exact absurd rfl hne
  | cons time rest ih =>
    have hfirst : lo ≤ time := hlo time List.mem_cons_self
    rw [List.pairwise_cons] at h
    rw [List.length_cons, Nat.cast_succ, add_sub_cancel_right]
    by_cases hrest : rest = []
    · subst hrest
      have hlast := hhi time List.mem_cons_self
      rw [List.length_nil, Nat.cast_zero, zero_mul]
      omega
    · have hstart : ∀ t ∈ rest, time + gap ≤ t := by
        intro t ht
        have hapart := h.1 t ht
        omega
      have hafter := ih h.2 hstart (fun t ht => hhi t (List.mem_cons_of_mem _ ht)) hrest
      have hsplit : (rest.length : ℤ) * gap = (rest.length - 1) * gap + gap := by ring
      rw [hsplit]
      omega

/-- **A window of time.**  Of the passes in the `n` seconds after `lo` there is at most one for each
`gap`, and one more. -/
theorem passed_window {requests : List (ℤ × α)} (hgap : 0 < gap)
    (hnonneg : ∀ request ∈ requests, 0 ≤ request.1) (lo n : ℕ) :
    ((((passed gap last requests).map Prod.fst).filter fun time =>
      decide ((lo : ℤ) < time ∧ time ≤ lo + n)).length : ℤ) ≤ n / gap + 1 := by
  have hpositive : ∀ time ∈ (passed gap last requests).map Prod.fst, 0 ≤ time := by
    intro time htime
    obtain ⟨request, hrequest, rfl⟩ := List.mem_map.mp htime
    exact hnonneg request ((passed_sublist gap last requests).subset hrequest)
  have hpairs := pairwise_of_apart hgap (passed_apart gap last requests) hpositive
  generalize (passed gap last requests).map Prod.fst = times at hpairs
  generalize hinside : times.filter (fun time => decide ((lo : ℤ) < time ∧ time ≤ lo + n)) = inside
  have hbounds : ∀ time ∈ inside, (lo : ℤ) < time ∧ time ≤ lo + n := by
    intro time htime
    rw [← hinside, List.mem_filter, decide_eq_true_eq] at htime
    exact htime.2
  have hapart : inside.Pairwise fun first second => gap ≤ second - first := by
    have hsub : inside.Pairwise (FarEnough gap) := hinside ▸ hpairs.filter _
    refine hsub.imp_of_mem fun {first _} hfirst _ hapart => ?_
    rcases hapart with hzero | hgap
    · have hpos := (hbounds first hfirst).1
      omega
    · exact hgap
  by_cases hne : inside = []
  · rw [hne, List.length_nil]
    have hnn : 0 ≤ (n : ℤ) / gap := Int.ediv_nonneg (Int.natCast_nonneg n) hgap.le
    omega
  · have hcount := length_mul_le hapart (fun t ht => (hbounds t ht).1.le)
      (fun t ht => (hbounds t ht).2) hne
    rw [add_sub_cancel_left] at hcount
    have hdiv := (Int.le_ediv_iff_mul_le hgap).mpr hcount
    omega

end Library.Throttle
