import Mathlib.Data.Int.Notation
import Mathlib.Data.List.Induction

/-!
# Values kept for a while

A value computed from something that changes behind its back, kept until it is old or until somebody
says that it may no longer hold.  The clock may stand still and may jump.

* `Cache.refresh` / `Cache.spoil` — a look, and a warning that the value may no longer hold;
* `Use` / `Cache.step` — a look or none, then a warning or none;
* `Since` — the look a value comes from, and what happened since;
* `since_run` — **PROVED**: every value of a run comes from one of its looks;
* `shown_fresh` — **PROVED**: a value that is looked at is computed for that look, or was computed
  less than the time to live before, and nobody warned since.
-/

namespace Library.Caching

variable {α β : Type*}

/-- A value, when it was computed, and whether it may no longer hold. -/
structure Cache (β : Type*) where
  value : β
  checked : ℤ
  spoiled : Bool
  deriving DecidableEq, Repr

/-- What a user of a cache does in one go: a look, at a time and at a state of the world, and then
perhaps something that changes the world. -/
structure Use (α : Type*) where
  look : Option (ℤ × α)
  spoils : Bool

namespace Cache

/-- The value is used as it is. -/
def holds (ttl now : ℤ) (c : Cache β) : Bool := !c.spoiled && decide (now - c.checked < ttl)

/-- A look: the value is computed again when it may not hold or is old. -/
def refresh (ttl : ℤ) (compute : α → β) (now : ℤ) (world : α) (c : Cache β) : Cache β :=
  if c.holds ttl now then c else ⟨compute world, now, false⟩

def spoil (c : Cache β) : Cache β := { c with spoiled := true }

variable (ttl : ℤ) (compute : α → β)

def step (c : Cache β) (u : Use α) : Cache β :=
  let c := u.look.elim c fun l => c.refresh ttl compute l.1 l.2
  if u.spoils then c.spoil else c

def after (c : Cache β) (uses : List (Use α)) : Cache β := uses.foldl (step ttl compute) c

theorem after_concat (c : Cache β) (uses : List (Use α)) (u : Use α) :
    c.after ttl compute (uses ++ [u]) = (c.after ttl compute uses).step ttl compute u := by
  rw [after, List.foldl_append]
  rfl

end Cache

variable (ttl : ℤ) (compute : α → β)

/-- The value was computed at the look of `u`; it is spoiled exactly when somebody warned since. -/
structure Since (before : List (Use α)) (u : Use α) (since uses : List (Use α)) (c : Cache β) (now : ℤ)
    (world : α) : Prop where
  uses_eq : uses = before ++ u :: since
  look_eq : u.look = some (now, world)
  value_eq : c.value = compute world
  checked_eq : c.checked = now
  spoiled_iff : c.spoiled = true ↔ ∃ v ∈ u :: since, v.spoils = true

variable {ttl compute} {before since uses : List (Use α)} {u : Use α} {c : Cache β} {now : ℤ} {world : α}

/-- A use that keeps the value. -/
theorem Since.concat (h : Since compute before u since uses c now world) {v : Use α} {c' : Cache β}
    (hvalue : c'.value = c.value) (hchecked : c'.checked = c.checked)
    (hspoiled : c'.spoiled = (c.spoiled || v.spoils)) :
    Since compute before u (since ++ [v]) (uses ++ [v]) c' now world := by
  refine ⟨?_, h.look_eq, hvalue.trans h.value_eq, hchecked.trans h.checked_eq, ?_⟩
  · rw [h.uses_eq, List.append_assoc, List.cons_append]
  · rw [hspoiled, Bool.or_eq_true, h.spoiled_iff, ← List.cons_append]
    simp [or_and_right, exists_or, or_assoc]

/-- **Where a value comes from.**  A cache that was spoiled from the start is still that, or holds a
value of the run. -/
theorem since_run (hstart : c.spoiled = true) (uses : List (Use α)) :
    (c.after ttl compute uses).spoiled = true ∨
      ∃ before u since now world,
        Since compute before u since uses (c.after ttl compute uses) now world := by
  induction uses using List.reverseRecOn with
  | nil => exact .inl hstart
  | append_singleton uses v ih =>
    rw [Cache.after_concat]
    obtain ⟨kept, hkept⟩ : ∃ kept, kept = c.after ttl compute uses := ⟨_, rfl⟩
    rw [← hkept] at ih ⊢
    cases hspoils : v.spoils with
    | true =>
      left
      rw [Cache.step, hspoils]
      rfl
    | false =>
      have hstep : kept.step ttl compute v
          = v.look.elim kept fun l => kept.refresh ttl compute l.1 l.2 := by
        rw [Cache.step, hspoils]
        rfl
      have hsame : kept.step ttl compute v = kept → (kept.step ttl compute v).spoiled = true ∨
          ∃ before u since now world,
            Since compute before u since (uses ++ [v]) (kept.step ttl compute v) now world := by
        intro heq
        rw [heq]
        rcases ih with hspoiled | ⟨before, u, since, now, world, h⟩
        · exact .inl hspoiled
        · exact .inr ⟨before, u, since ++ [v], now, world, h.concat rfl rfl (by simp [hspoils])⟩
      cases hlook : v.look with
      | none => exact hsame (by rw [hstep, hlook]; rfl)
      | some l =>
        cases hholds : kept.holds ttl l.1 with
        | true => exact hsame (by rw [hstep, hlook]; exact if_pos hholds)
        | false =>
          have hnew : kept.step ttl compute v = ⟨compute l.2, l.1, false⟩ := by
            rw [hstep, hlook]
            exact if_neg (by rw [hholds]; decide)
          right
          rw [hnew]
          exact ⟨uses, v, [], l.1, l.2, rfl, hlook, rfl, rfl, by simp [hspoils]⟩

/-- **What is looked at is fresh.** -/
theorem shown_fresh (hstart : c.spoiled = true) (uses : List (Use α)) (now : ℤ) (world : α) :
    ((c.after ttl compute uses).refresh ttl compute now world).value = compute world ∨
      ∃ before u since computed world',
        Since compute before u since uses (c.after ttl compute uses) computed world' ∧
        ((c.after ttl compute uses).refresh ttl compute now world).value = compute world' ∧
        now - computed < ttl ∧ ∀ v ∈ u :: since, v.spoils = false := by
  rw [Cache.refresh]
  split
  · rename_i hholds
    rw [Cache.holds, Bool.and_eq_true, Bool.not_eq_true', decide_eq_true_eq] at hholds
    obtain ⟨hclean, hyoung⟩ := hholds
    right
    rcases since_run hstart uses with hspoiled | ⟨before, u, since, computed, world', h⟩
    · exact absurd (hclean.symm.trans hspoiled) (by decide)
    · refine ⟨before, u, since, computed, world', h, h.value_eq, by rwa [h.checked_eq] at hyoung, ?_⟩
      intro v hv
      by_contra hspoils
      rw [Bool.not_eq_false] at hspoils
      exact absurd (hclean.symm.trans (h.spoiled_iff.mpr ⟨v, hv, hspoils⟩)) (by decide)
  · exact .inl rfl

end Library.Caching
