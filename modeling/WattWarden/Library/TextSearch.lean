import Mathlib.Data.List.Basic
import Mathlib.Tactic.Push

/-!
# Finding text in text

Searches over lists of characters, each with the declarative statement it answers.

* `afterFirst` — what follows the first occurrence of a pattern;
* `afterFirst_eq_some_iff` / `afterFirst_eq_none_iff` — **PROVED**: the occurrence found is the
  leftmost one, and none is found only when there is none;
* `splitOnce` / `splitOnce_eq_some_iff` — **PROVED**: the text before and after the first of a
  character;
* `lines` — the lines of a text, line ends removed.
-/

namespace Library.TextSearch

variable {α : Type*} {pat text : List α}

/-! ### The first occurrence of a pattern -/

/-- `pat` occurs in the text after `before` and nowhere earlier. -/
structure FirstAt (pat text before after : List α) : Prop where
  eq : text = before ++ (pat ++ after)
  first : ∀ before' after', text = before' ++ (pat ++ after') → before.length ≤ before'.length

theorem FirstAt.unique {before after before' after' : List α} (h : FirstAt pat text before after)
    (h' : FirstAt pat text before' after') : before = before' ∧ after = after' := by
  have hlen : before.length = before'.length :=
    Nat.le_antisymm (h.first _ _ h'.eq) (h'.first _ _ h.eq)
  obtain ⟨hbefore, hrest⟩ := List.append_inj (h.eq.symm.trans h'.eq) hlen
  exact ⟨hbefore, List.append_cancel_left hrest⟩

/-- An occurrence at the front is the first one. -/
theorem firstAt_nil (after : List α) : FirstAt pat (pat ++ after) [] after :=
  ⟨rfl, fun _ _ _ => Nat.zero_le _⟩

/-- Where the pattern does not start, the search goes on with the rest. -/
theorem firstAt_cons_iff {c : α} {cs after : List α} (h : ¬pat <+: c :: cs) :
    (∃ before, FirstAt pat (c :: cs) before after) ↔ ∃ before, FirstAt pat cs before after := by
  constructor
  · intro hgiven
    obtain ⟨before, heq, hfirst⟩ := hgiven
    cases before with
    | nil => exact absurd ⟨after, heq.symm⟩ h
    | cons c' before =>
      obtain ⟨rfl, hrest⟩ := List.cons.inj heq
      refine ⟨before, hrest, fun before' after' heq' => ?_⟩
      have := hfirst (c :: before') after' (by rw [heq', List.cons_append])
      simpa using this
  · intro hgiven
    obtain ⟨before, heq, hfirst⟩ := hgiven
    refine ⟨c :: before, by rw [heq, List.cons_append], fun before' after' heq' => ?_⟩
    cases before' with
    | nil => exact absurd ⟨after', heq'.symm⟩ h
    | cons c' before' =>
      have := hfirst before' after' (List.cons.inj heq').2
      simpa using this

variable [DecidableEq α]

/-- What follows the first occurrence of `pat`. -/
def afterFirst (pat : List α) : List α → Option (List α)
  | [] => if pat = [] then some [] else none
  | c :: cs => if pat <+: c :: cs then some ((c :: cs).drop pat.length) else afterFirst pat cs

theorem afterFirst_eq_some_iff {after : List α} :
    afterFirst pat text = some after ↔ ∃ before, FirstAt pat text before after := by
  induction text with
  | nil =>
    rw [afterFirst]
    split_ifs with hpat
    · subst hpat
      constructor
      · rintro ⟨⟩
        exact ⟨[], firstAt_nil []⟩
      · intro hgiven
        obtain ⟨before, heq, -⟩ := hgiven
        have hempty : before = [] ∧ after = [] := by simpa using heq.symm
        rw [hempty.2]
    · constructor
      · rintro ⟨⟩
      · intro hgiven
        obtain ⟨before, heq, -⟩ := hgiven
        exact absurd (by simpa using heq.symm : before = [] ∧ pat = [] ∧ after = []).2.1 hpat
  | cons c cs ih =>
    rw [afterFirst]
    split_ifs with hpat
    · obtain ⟨rest, hrest⟩ := hpat
      have hfirst : FirstAt pat (c :: cs) [] rest := hrest ▸ firstAt_nil rest
      rw [← hrest, List.drop_left, Option.some_inj, hrest]
      exact ⟨fun h => ⟨[], h ▸ hfirst⟩, fun ⟨_, h⟩ => (hfirst.unique h).2⟩
    · rw [ih, firstAt_cons_iff hpat]

theorem afterFirst_eq_none_iff :
    afterFirst pat text = none ↔ ∀ before after, text ≠ before ++ (pat ++ after) := by
  induction text with
  | nil =>
    rw [afterFirst]
    split_ifs with hpat
    · simp [hpat]
    · simp [hpat]
  | cons c cs ih =>
    rw [afterFirst]
    split_ifs with hpat
    · obtain ⟨rest, hrest⟩ := hpat
      simp only [false_iff]
      exact fun h => h [] rest hrest.symm
    · rw [ih]
      constructor
      · intro h before after heq
        cases before with
        | nil => exact hpat ⟨after, heq.symm⟩
        | cons c' before => exact h before after (List.cons.inj heq).2
      · intro h before after heq
        exact h (c :: before) after (by rw [heq, List.cons_append])

/-! ### The first of a character -/

/-- The text before and after the first `c`. -/
def splitOnce (c : α) : List α → Option (List α × List α)
  | [] => none
  | x :: xs =>
      if x = c then some ([], xs) else (splitOnce c xs).map fun parts => (x :: parts.1, parts.2)

theorem splitOnce_eq_some_iff {c : α} {xs before after : List α} :
    splitOnce c xs = some (before, after) ↔ xs = before ++ c :: after ∧ c ∉ before := by
  induction xs generalizing before with
  | nil => simp [splitOnce]
  | cons x xs ih =>
    rw [splitOnce]
    split_ifs with hx
    · subst hx
      constructor
      · rintro ⟨⟩
        exact ⟨rfl, List.not_mem_nil⟩
      · intro hgiven
        obtain ⟨heq, hnot⟩ := hgiven
        cases before with
        | nil => rw [(List.cons.inj heq).2]
        | cons y before =>
          rw [(List.cons.inj heq).1] at hnot
          exact absurd List.mem_cons_self hnot
    · rw [Option.map_eq_some_iff]
      constructor
      · intro hgiven
        obtain ⟨⟨inner, rest⟩, hparts, hmk⟩ := hgiven
        obtain ⟨rfl, rfl⟩ := Prod.mk.inj hmk
        obtain ⟨rfl, hnot⟩ := ih.mp hparts
        exact ⟨rfl, by simp [hnot, Ne.symm hx]⟩
      · intro hgiven
        obtain ⟨heq, hnot⟩ := hgiven
        cases before with
        | nil => exact absurd (List.cons.inj heq).1 hx
        | cons y before =>
          obtain ⟨rfl, rfl⟩ := List.cons.inj heq
          exact ⟨(before, after), ih.mpr ⟨rfl, fun h => hnot (List.mem_cons_of_mem _ h)⟩, rfl⟩

/-- The index of the first `c` is the length of the text before it. -/
theorem findIdx?_eq_splitOnce (c : α) (xs : List α) :
    xs.findIdx? (· = c) = (splitOnce c xs).map fun parts => parts.1.length := by
  induction xs with
  | nil => rfl
  | cons x xs ih =>
    rw [List.findIdx?_cons, splitOnce, ih]
    by_cases hx : x = c
    · simp [hx]
    · simp [hx, Function.comp_def]

/-! ### Lines -/

/-- `str::lines`, `line` being the line read so far, reversed.  A carriage return before the line
feed belongs to the line end; a last empty line is none. -/
def lines : List Char → List Char → List (List Char)
  | line, [] => if line = [] then [] else [line.reverse]
  | line, c :: cs =>
      if c = '\n' then
        (if line.head? = some '\r' then line.tail.reverse else line.reverse) :: lines [] cs
      else lines (c :: line) cs

end Library.TextSearch
