import Mathlib.Data.List.Basic
import Mathlib.Order.Basic

/-!
# Runs of a labelled state machine

A total step function `step : σ → ε → σ` and the runs it produces from a list of events.  The
interleavings of several parties are the lists of their events, so a statement about every list
is a statement about every interleaving.

* `run` / `visits` — the state after a list of events, and the state each event is taken in;
* `StepsMeet ok step s es` — every event of the run satisfies `ok` in the state it is taken in;
* `Always P step s es` — `P` holds in every state the run visits;
* `StepsMeet.run_inv`, `always_of_inv` — **PROVED**: an invariant kept by every admitted step holds
  at the end, resp. everywhere, of a run whose steps are all admitted;
* `StepsMeet.visit_inv`, `StepsMeet.run_inv_from` — **PROVED**: the same at, resp. from, a visit;
* `run_eq_iff_stepsMeet` — **PROVED**: an observation that steps only increase is back where it
  started exactly when no step increased it;
* `stepsMeet_iff`, `always_iff_stepsMeet` — the two-way forms: when, under the invariant, one
  step is admitted exactly when it is good, whole runs are admitted exactly when they are good.
-/

namespace Library.Runs

variable {σ ε : Type*} {step : σ → ε → σ}

/-- The state after the events `es`, taken from `s`. -/
def run (step : σ → ε → σ) (s : σ) (es : List ε) : σ := es.foldl step s

/-- Every event of the run is admitted by `ok` in the state it is taken in. -/
def StepsMeet (ok : σ → ε → Prop) (step : σ → ε → σ) : σ → List ε → Prop
  | _, [] => True
  | s, e :: es => ok s e ∧ StepsMeet ok step (step s e) es

/-- `P` holds in every state of the run, the first and the last included. -/
def Always (P : σ → Prop) (step : σ → ε → σ) : σ → List ε → Prop
  | s, [] => P s
  | s, e :: es => P s ∧ Always P step (step s e) es

@[simp] theorem run_nil (s : σ) : run step s [] = s := rfl

@[simp] theorem run_cons (s : σ) (e : ε) (es : List ε) :
    run step s (e :: es) = run step (step s e) es := rfl

theorem run_concat (s : σ) (es : List ε) (e : ε) : run step s (es ++ [e]) = step (run step s es) e := by
  rw [run, List.foldl_append]
  rfl

/-- The events of a run, each with the state it is taken in. -/
def visits (step : σ → ε → σ) : σ → List ε → List (σ × ε)
  | _, [] => []
  | s, e :: es => (s, e) :: visits step (step s e) es

theorem visits_concat (s : σ) (es : List ε) (e : ε) :
    visits step s (es ++ [e]) = visits step s es ++ [(run step s es, e)] := by
  induction es generalizing s with
  | nil => rfl
  | cons e' es ih =>
    rw [List.cons_append, visits, visits, ih]
    rfl

/-- A visit splits its run. -/
theorem visits_split {s : σ} {es : List ε} {before after : List (σ × ε)} {v : σ × ε}
    (h : visits step s es = before ++ v :: after) :
    ∃ es₁ es₂, es = es₁ ++ v.2 :: es₂ ∧ v.1 = run step s es₁ ∧
      v :: after = visits step v.1 (v.2 :: es₂) := by
  induction before generalizing s es with
  | nil =>
    cases es with
    | nil => cases h
    | cons e es =>
      obtain ⟨rfl, rfl⟩ := List.cons.inj h
      exact ⟨[], es, rfl, rfl, rfl⟩
  | cons w before ih =>
    cases es with
    | nil => cases h
    | cons e es =>
      obtain ⟨-, hrest⟩ := List.cons.inj h
      obtain ⟨es₁, es₂, rfl, hstate, hafter⟩ := ih hrest
      exact ⟨e :: es₁, es₂, rfl, hstate, hafter⟩

variable {ok good : σ → ε → Prop} {P : σ → Prop} {s : σ} {es : List ε}

@[simp] theorem stepsMeet_nil : StepsMeet ok step s [] := trivial

@[simp] theorem stepsMeet_cons {e : ε} :
    StepsMeet ok step s (e :: es) ↔ ok s e ∧ StepsMeet ok step (step s e) es := Iff.rfl

theorem Always.head (h : Always P step s es) : P s := by
  cases es with
  | nil => exact h
  | cons e es => exact h.1

/-- What always holds, holds at the end. -/
theorem Always.run (h : Always P step s es) : P (run step s es) := by
  induction es generalizing s with
  | nil => exact h
  | cons e es ih => exact ih h.2

/-- **The invariant rule.**  Kept by every admitted step, kept by the run. -/
theorem StepsMeet.run_inv (Inv : σ → Prop) (hinit : Inv s)
    (hstep : ∀ s e, Inv s → ok s e → Inv (step s e)) (h : StepsMeet ok step s es) :
    Inv (run step s es) := by
  induction es generalizing s with
  | nil => exact hinit
  | cons e es ih => exact ih (hstep s e hinit h.1) h.2

/-- The invariant rule when no event needs a guard. -/
theorem run_inv (Inv : σ → Prop) (hinit : Inv s) (hstep : ∀ s e, Inv s → Inv (step s e))
    (es : List ε) : Inv (run step s es) := by
  induction es generalizing s with
  | nil => exact hinit
  | cons e es ih => exact ih (hstep s e hinit)

theorem stepsMeet_iff_visits : StepsMeet ok step s es ↔ ∀ v ∈ visits step s es, ok v.1 v.2 := by
  induction es generalizing s with
  | nil => exact iff_of_true trivial fun v hv => nomatch hv
  | cons e es ih =>
    rw [stepsMeet_cons, visits, List.forall_mem_cons, ih]

/-- The invariant rule, at a visit. -/
theorem StepsMeet.visit_inv (Inv : σ → Prop) (hinit : Inv s)
    (hstep : ∀ s e, Inv s → ok s e → Inv (step s e)) (h : StepsMeet ok step s es) :
    ∀ v ∈ visits step s es, Inv v.1 := by
  induction es generalizing s with
  | nil => exact fun v hv => nomatch hv
  | cons e es ih =>
    rw [visits, List.forall_mem_cons]
    exact ⟨hinit, ih (hstep s e hinit h.1) h.2⟩

/-- The invariant rule, from a visit on. -/
theorem StepsMeet.run_inv_from (Inv : σ → Prop) (hstep : ∀ s e, Inv s → ok s e → Inv (step s e))
    (h : StepsMeet ok step s es) {v : σ × ε} (hv : v ∈ visits step s es) (hinit : Inv v.1) :
    Inv (run step s es) := by
  induction es generalizing s with
  | nil => cases hv
  | cons e es ih =>
    rw [visits, List.mem_cons] at hv
    rcases hv with rfl | hv
    · exact h.run_inv Inv hinit hstep
    · exact ih h.2 hv

/-- What steps only increase, runs only increase. -/
theorem le_run {β : Type*} [Preorder β] (f : σ → β) (hmono : ∀ s e, f s ≤ f (step s e)) (s : σ)
    (es : List ε) : f s ≤ f (run step s es) := by
  induction es generalizing s with
  | nil => exact le_rfl
  | cons e es ih => exact (hmono s e).trans (ih (step s e))

/-- **Nothing gained is nothing gained at any step.** -/
theorem run_eq_iff_stepsMeet {β : Type*} [PartialOrder β] (f : σ → β)
    (hmono : ∀ s e, f s ≤ f (step s e)) :
    f (run step s es) = f s ↔ StepsMeet (fun s e => f (step s e) = f s) step s es := by
  induction es generalizing s with
  | nil => simp
  | cons e es ih =>
    have hfirst : f s ≤ f (step s e) := hmono s e
    have hrest : f (step s e) ≤ f (run step (step s e) es) := le_run f hmono _ es
    rw [run_cons, stepsMeet_cons, ← ih]
    constructor
    · intro h
      have hstep : f (step s e) = f s := le_antisymm (hrest.trans h.le) hfirst
      exact ⟨hstep, h.trans hstep.symm⟩
    · intro hgiven
      obtain ⟨hstep, hrun⟩ := hgiven
      exact hrun.trans hstep

/-- An invariant holds in every state of an admitted run, and so does what follows from it. -/
theorem always_of_inv (Inv : σ → Prop) (hinit : Inv s)
    (hstep : ∀ s e, Inv s → ok s e → Inv (step s e))
    (hP : ∀ s, Inv s → P s) (h : StepsMeet ok step s es) : Always P step s es := by
  induction es generalizing s with
  | nil => exact hP s hinit
  | cons e es ih => exact ⟨hP s hinit, ih (hstep s e hinit h.1) h.2⟩

/-- **Two-way form for steps.**  Where one step is good exactly when it is admitted, every step
of a run is good exactly when every step is admitted. -/
theorem stepsMeet_iff (Inv : σ → Prop) (hinit : Inv s) (hstep : ∀ s e, Inv s → Inv (step s e))
    (hgood : ∀ s e, Inv s → (good s e ↔ ok s e)) :
    StepsMeet good step s es ↔ StepsMeet ok step s es := by
  induction es generalizing s with
  | nil => exact Iff.rfl
  | cons e es ih =>
    rw [stepsMeet_cons, stepsMeet_cons, hgood s e hinit, ih (hstep s e hinit)]

/-- **Two-way form for states.**  In a run whose steps are all possible: where, under the invariant,
a possible step out of a good state ends in a good state exactly when it is admitted, the run
stays good exactly when all its steps are admitted. -/
theorem StepsMeet.always_iff {possible : σ → ε → Prop} (hrun : StepsMeet possible step s es)
    (Inv : σ → Prop) (hinit : Inv s) (hkeep : ∀ s e, Inv s → possible s e → Inv (step s e))
    (hs : P s) (hstep : ∀ s e, Inv s → possible s e → P s → (P (step s e) ↔ ok s e)) :
    Always P step s es ↔ StepsMeet ok step s es := by
  induction es generalizing s with
  | nil => exact iff_of_true hs trivial
  | cons e es ih =>
    rw [stepsMeet_cons]
    have hnext : P (step s e) → (Always P step (step s e) es ↔ StepsMeet ok step (step s e) es) :=
      ih hrun.2 (hkeep s e hinit hrun.1)
    constructor
    · intro h
      have hgood : P (step s e) := h.2.head
      exact ⟨(hstep s e hinit hrun.1 hs).mp hgood, (hnext hgood).mp h.2⟩
    · intro h
      have hgood : P (step s e) := (hstep s e hinit hrun.1 hs).mpr h.1
      exact ⟨hs, (hnext hgood).mpr h.2⟩

/-- Events that are admitted in any state make an admitted run. -/
theorem stepsMeet_of_forall (h : ∀ e ∈ es, ∀ s, ok s e) : StepsMeet ok step s es := by
  induction es generalizing s with
  | nil => trivial
  | cons e es ih =>
    rw [List.forall_mem_cons] at h
    exact ⟨h.1 s, ih h.2⟩

theorem stepsMeet_true : StepsMeet (fun _ _ => True) step s es :=
  stepsMeet_of_forall fun _ _ _ => trivial

/-- The two-way form when every step is possible. -/
theorem always_iff_stepsMeet (Inv : σ → Prop) (hinit : Inv s)
    (hkeep : ∀ s e, Inv s → Inv (step s e)) (hs : P s)
    (hstep : ∀ s e, Inv s → P s → (P (step s e) ↔ ok s e)) :
    Always P step s es ↔ StepsMeet ok step s es :=
  stepsMeet_true.always_iff Inv hinit (fun s e h _ => hkeep s e h) hs
    fun s e h _ => hstep s e h

end Library.Runs
