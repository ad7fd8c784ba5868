import Mathlib.Data.Option.Basic

/-!
# An exclusive, non-blocking advisory lock

The kernel's view of one `flock` anchor: at most one open file description holds it, an attempt
never waits, and the lock goes away with its holder.  Owners are open file descriptions, so two
descriptions of one process exclude each other like two processes do.

* `Flock.tryLock` — `LOCK_EX | LOCK_NB`: takes a free lock, fails on a held one;
* `Flock.drop` — the guard of an owner goes away, by `drop` or at process end;
* `tryLock_err_iff`, `holder_tryLock`, `holder_drop` — who holds the lock afterwards.
-/

namespace Library.Locking

variable {κ : Type*}

/-- The lock of one anchor file. -/
structure Flock (κ : Type*) where
  holder : Option κ
  deriving DecidableEq

namespace Flock

/-- Nobody holds the lock. -/
def free : Flock κ := ⟨none⟩

/-- One attempt: the new lock, and whether the attempt succeeded. -/
def tryLock (l : Flock κ) (k : κ) : Flock κ × Bool :=
  match l.holder with
  | none => (⟨some k⟩, true)
  | some _ => (l, false)

/-- Every lock `gone` held is freed. -/
def drop (l : Flock κ) (gone : κ → Bool) : Flock κ := ⟨l.holder.filter fun k => !gone k⟩

theorem tryLock_err_iff (l : Flock κ) (k : κ) :
    (l.tryLock k).2 = false ↔ ∃ k', l.holder = some k' := by
  rw [tryLock]
  cases l.holder <;> simp

theorem holder_tryLock (l : Flock κ) (k : κ) :
    (l.tryLock k).1.holder = some (l.holder.getD k) := by
  rw [tryLock]
  cases h : l.holder <;> simp [h]

theorem holder_drop (l : Flock κ) (gone : κ → Bool) (k : κ) :
    (l.drop gone).holder = some k ↔ l.holder = some k ∧ gone k = false := by
  simp [drop, Option.filter_eq_some_iff]

end Flock

end Library.Locking
