import Mathlib.Data.List.Basic
import WattWarden.Library.Runs

/-!
# Runs that stand for runs of another machine

A machine whose events each amount to some events of another, possibly none, in the state they are
taken in.  The other machine refuses what it does not allow, so that being one of its histories says
something.

* `emitted` — the history of the other machine that a run amounts to;
* `history` — the state of a partial machine after a history, if it allows it;
* `refines_run` — **PROVED**: where single events keep to a relation between the states, the history
  of a whole run is allowed, and the final states are related.
-/

namespace Library.Refinement

open Library.Runs

variable {σ τ ε ζ : Type*} {step : σ → ε → σ} {allowed : τ → ζ → Option τ}

/-- The events of the other machine that a run amounts to. -/
def emitted (step : σ → ε → σ) (emit : σ → ε → List ζ) : σ → List ε → List ζ
  | _, [] => []
  | s, e :: es => emit s e ++ emitted step emit (step s e) es

/-- The state of a partial machine after a history. -/
def history (allowed : τ → ζ → Option τ) : τ → List ζ → Option τ
  | t, [] => some t
  | t, z :: zs => (allowed t z).bind fun t' => history allowed t' zs

@[simp] theorem history_nil (t : τ) : history allowed t [] = some t := rfl

theorem history_cons (t : τ) (z : ζ) (zs : List ζ) :
    history allowed t (z :: zs) = (allowed t z).bind fun t' => history allowed t' zs := rfl

theorem history_append (t : τ) (zs zs' : List ζ) : history allowed t (zs ++ zs')
    = (history allowed t zs).bind fun t' => history allowed t' zs' := by
  induction zs generalizing t with
  | nil => rfl
  | cons z zs ih =>
    rw [List.cons_append, history_cons, history_cons, Option.bind_assoc]
    congr 1
    funext t'
    exact ih t'

/-- One event is refined: what it emits is allowed, and leads to a related state. -/
def Refines (R : σ → τ → Prop) (step : σ → ε → σ) (allowed : τ → ζ → Option τ)
    (emit : σ → ε → List ζ) : Prop :=
  ∀ s t e, R s t → ∃ t', history allowed t (emit s e) = some t' ∧ R (step s e) t'

/-- **From events to runs.** -/
theorem refines_run {R : σ → τ → Prop} {emit : σ → ε → List ζ}
    (h : Refines R step allowed emit) {s : σ} {t : τ} (hst : R s t) (es : List ε) :
    ∃ t', history allowed t (emitted step emit s es) = some t' ∧ R (run step s es) t' := by
  induction es generalizing s t with
  | nil => exact ⟨t, rfl, hst⟩
  | cons e es ih =>
    obtain ⟨t₁, hfirst, hrelated⟩ := h s t e hst
    obtain ⟨t', hrest, hfinal⟩ := ih hrelated
    refine ⟨t', ?_, hfinal⟩
    show history allowed t (emit s e ++ emitted step emit (step s e) es) = some t'
    rw [history_append, hfirst]
    exact hrest

end Library.Refinement
