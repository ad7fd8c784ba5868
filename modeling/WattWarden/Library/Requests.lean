import Mathlib.Data.List.Basic

/-!
# Programs that make requests

A program as a tree: it is done with a value, or makes a request and goes on with the answer, whose
type depends on the request.  The surroundings answer requests however they like, with a memory
of their own, so a statement about every run of a program holds for all of them.

* `Program` — the tree, a monad; `ask` — one request;
* `exec env p s` — the run of a program among given surroundings: what was exchanged and the value;
* `Meets Q p` — every run of `p`, whatever the answers, ends with an exchange and a value in `Q`;
* `meets_bind`, `Meets.mono`, `Meets.forM` — its rules for sequencing, weakening and loops;
* `meets_exec` — **PROVED**: what a program meets, its runs among any surroundings have;
* `result` — the value and the memory of a run alone; `result_bind`, `result_congr` — **PROVED**: its rules.
-/

namespace Library.Requests

variable {R : Type} {A : R → Type} {α β : Type}

/-- A program that makes requests `r : R`, each answered in `A r`. -/
inductive Program (R : Type) (A : R → Type) (α : Type) where
  | done (value : α)
  | request (r : R) (next : A r → Program R A α)

/-- A request and its answer. -/
structure Exchange (R : Type) (A : R → Type) where
  request : R
  answer : A request

namespace Program

/-- One request. -/
def ask (r : R) : Program R A (A r) := .request r .done

protected def bind : Program R A α → (α → Program R A β) → Program R A β
  | .done a, f => f a
  | .request r next, f => .request r fun x => (next x).bind f

instance : Monad (Program R A) where
  pure := .done
  bind := Program.bind

@[simp] theorem done_bind (a : α) (f : α → Program R A β) : (.done a >>= f) = f a := rfl

@[simp] theorem request_bind (r : R) (next : A r → Program R A α) (f : α → Program R A β) :
    (.request r next >>= f) = .request r fun x => next x >>= f := rfl

theorem pure_eq (a : α) : (pure a : Program R A α) = .done a := rfl

/-- The surroundings of a program, with a memory in `σ`. -/
abbrev Surroundings (R : Type) (A : R → Type) (σ : Type) := (r : R) → σ → A r × σ

/-- What a run leaves: the exchanges, the value and the memory of the surroundings. -/
structure Outcome (R : Type) (A : R → Type) (σ α : Type) where
  trace : List (Exchange R A)
  value : α
  memory : σ

/-- The run of a program. -/
def exec {σ : Type} (env : Surroundings R A σ) : Program R A α → σ → Outcome R A σ α
  | .done a, s => ⟨[], a, s⟩
  | .request r next, s =>
      let rest := exec env (next (env r s).1) (env r s).2
      { rest with trace := ⟨r, (env r s).1⟩ :: rest.trace }

end Program

open Program

/-- Whatever the answers, the exchanges and the value of a run are in `Q`. -/
def Meets (Q : List (Exchange R A) → α → Prop) : Program R A α → Prop
  | .done a => Q [] a
  | .request r next => ∀ x, Meets (fun trace a => Q (⟨r, x⟩ :: trace) a) (next x)

variable {Q Q' : List (Exchange R A) → α → Prop}

@[simp] theorem meets_done {a : α} : Meets Q (.done a) ↔ Q [] a := Iff.rfl

@[simp] theorem meets_request {r : R} {next : A r → Program R A α} : Meets Q (.request r next) ↔
    ∀ x, Meets (fun trace a => Q (⟨r, x⟩ :: trace) a) (next x) := Iff.rfl

@[simp] theorem meets_ask {r : R} {Q : List (Exchange R A) → A r → Prop} :
    Meets Q (ask r) ↔ ∀ x, Q [⟨r, x⟩] x := Iff.rfl

theorem Meets.mono {p : Program R A α} (h : Meets Q p) (hQ : ∀ trace a, Q trace a → Q' trace a) :
    Meets Q' p := by
  induction p generalizing Q Q' with
  | done a => exact hQ [] a h
  | request r next ih =>
    intro x
    exact ih x (h x) fun trace a => hQ (⟨r, x⟩ :: trace) a

/-- **The rule of sequencing.** -/
theorem meets_bind {p : Program R A α} {f : α → Program R A β}
    {Q : List (Exchange R A) → β → Prop} :
    Meets Q (p >>= f) ↔ Meets (fun trace a => Meets (fun rest b => Q (trace ++ rest) b) (f a)) p := by
  induction p generalizing Q with
  | done a => exact Iff.rfl
  | request r next ih => exact forall_congr' fun x => ih x

/-- **Runs among any surroundings.** -/
theorem meets_exec {σ : Type} {p : Program R A α} (h : Meets Q p) (env : Surroundings R A σ)
    (s : σ) : Q (p.exec env s).trace (p.exec env s).value := by
  induction p generalizing Q s with
  | done a => exact h
  | request r next ih => exact ih (env r s).1 (h (env r s).1) (env r s).2

/-- The answers of a run are the surroundings'. -/
theorem answers_exec {σ : Type} {I : Exchange R A → Prop} {env : Surroundings R A σ}
    (hI : ∀ r s, I ⟨r, (env r s).1⟩) (p : Program R A α) (s : σ) :
    ∀ e ∈ (p.exec env s).trace, I e := by
  induction p generalizing s with
  | done a => simp [exec]
  | request r next ih =>
    rw [exec, List.forall_mem_cons]
    exact ⟨hI r s, ih _ _⟩

/-- A program all of whose exchanges are in `I`, whatever it returns. -/
def Exchanges (I : Exchange R A → Prop) (p : Program R A α) : Prop :=
  Meets (fun trace _ => ∀ e ∈ trace, I e) p

/-- The loop rule: a loop of such programs is one. -/
theorem Exchanges.forM {I : Exchange R A → Prop} {l : List β} {f : β → Program R A PUnit}
    (h : ∀ b ∈ l, Exchanges I (f b)) : Exchanges I (forM l f) := by
  induction l with
  | nil => simp [Exchanges, pure_eq]
  | cons b l ih =>
    rw [List.forM_cons, Exchanges, meets_bind]
    refine (h b (by simp)).mono fun trace _ htrace => ?_
    refine (ih fun b' hb' => h b' (List.mem_cons_of_mem _ hb')).mono fun rest _ hrest => ?_
    exact List.forall_mem_append.mpr ⟨htrace, hrest⟩

/-! ### What a run returns and leaves -/

section Result

variable {σ : Type} {env env' : Surroundings R A σ}

/-- The value of a run and the memory it leaves, without the exchanges. -/
def result (env : Surroundings R A σ) (p : Program R A α) (s : σ) : α × σ :=
  ((p.exec env s).value, (p.exec env s).memory)

@[simp] theorem result_done (a : α) (s : σ) : result env (.done a) s = (a, s) := rfl

@[simp] theorem result_pure (a : α) (s : σ) :
    result env (pure a : Program R A α) s = (a, s) := rfl

@[simp] theorem result_request (r : R) (next : A r → Program R A α) (s : σ) :
    result env (.request r next) s = result env (next (env r s).1) (env r s).2 := rfl

@[simp] theorem result_ask (r : R) (s : σ) : result env (ask r) s = env r s := rfl

/-- **The rule of sequencing for runs.** -/
theorem result_bind (p : Program R A α) (f : α → Program R A β) (s : σ) :
    result env (p >>= f) s = result env (f (result env p s).1) (result env p s).2 := by
  induction p generalizing s with
  | done a => rfl
  | request r next ih =>
    rw [request_bind, result_request, result_request]
    exact ih (env r s).1 (env r s).2

/-- Requests that leave the memory alone leave it to the end. -/
theorem result_memory {calm : R → Prop} (hcalm : ∀ r s, calm r → (env r s).2 = s)
    {p : Program R A α} (h : Exchanges (fun e => calm e.request) p) (s : σ) :
    (result env p s).2 = s := by
  induction p generalizing s with
  | done a => rfl
  | request r next ih =>
    have hfirst : ∀ x, Exchanges (fun e => calm e.request) (next x) := fun x =>
      (h x).mono fun trace _ htrace e he => htrace e (List.mem_cons_of_mem _ he)
    have hr : calm r := by
      have htrace := meets_exec h env s
      exact htrace ⟨r, (env r s).1⟩ (List.mem_cons_self ..)
    rw [result_request, hcalm r s hr]
    exact ih _ (hfirst _) s

/-- **Surroundings that answer alike.**  A program that only makes requests on which two surroundings
agree runs alike in both. -/
theorem result_congr {same : R → Prop} (hsame : ∀ r s, same r → env r s = env' r s)
    {p : Program R A α} (h : Exchanges (fun e => same e.request) p) (s : σ) :
    result env p s = result env' p s := by
  induction p generalizing s with
  | done a => rfl
  | request r next ih =>
    have hrest : ∀ x, Exchanges (fun e => same e.request) (next x) := fun x =>
      (h x).mono fun trace _ htrace e he => htrace e (List.mem_cons_of_mem _ he)
    have hr : same r := by
      have htrace := meets_exec h env s
      exact htrace ⟨r, (env r s).1⟩ (List.mem_cons_self ..)
    rw [result_request, result_request, hsame r s hr]
    exact ih _ (hrest _) _

end Result

end Library.Requests
