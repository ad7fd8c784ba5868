import WattWarden.Library.Numerals

/-!
# Runs of digits

The value of a list of decimal digits, from either end.

* `parseUnsigned_of_digits` — **PROVED**: digits parse to their value inside the type;
* `ofDigitChars_concat` — **PROVED**: a further digit at the end;
* `IsDigits` / `run_unique` — **PROVED**: a text begins with one run of digits only.
-/

namespace Library.DigitRuns

open Library.Numerals

/-- A digit is not a sign. -/
theorem ne_plus_of_isDigit {c : Char} (h : c.isDigit = true) : c ≠ '+' := by
  intro heq
  rw [heq] at h
  exact absurd h (by decide)

/-- Digits parse to their value inside the type. -/
theorem parseUnsigned_of_digits {bound : ℕ} {cs : List Char} (hne : cs ≠ [])
    (hdigits : ∀ c ∈ cs, c.isDigit = true) (hlt : Nat.ofDigitChars 10 cs 0 < bound) :
    parseUnsigned bound (String.ofList cs) = some (Nat.ofDigitChars 10 cs 0) := by
  have hparse : parseDigits cs = some (Nat.ofDigitChars 10 cs 0) :=
    if_pos ⟨hne, List.all_eq_true.mpr hdigits⟩
  cases cs with
  | nil => exact absurd rfl hne
  | cons c cs =>
    have hplus : c ≠ '+' := ne_plus_of_isDigit (hdigits c List.mem_cons_self)
    simp [parseUnsigned, hplus, hparse, hlt]

/-- The value of a digit character. -/
def digitValue (c : Char) : ℕ := c.toNat - '0'.toNat

theorem digitValue_le {c : Char} (h : c.isDigit = true) : digitValue c ≤ 9 := by
  have hrange : 48 ≤ c.toNat ∧ c.toNat ≤ 57 := by
    simpa [Char.isDigit, UInt32.le_iff_toNat_le] using h
  show c.toNat - 48 ≤ 9
  omega

/-- A further digit at the end. -/
theorem ofDigitChars_concat (cs : List Char) (c : Char) :
    Nat.ofDigitChars 10 (cs ++ [c]) 0 = 10 * Nat.ofDigitChars 10 cs 0 + digitValue c := by
  rw [Nat.ofDigitChars_append, Nat.ofDigitChars_cons, Nat.ofDigitChars_nil, digitValue]

/-! ### Runs at the front of a text -/

/-- Digits only. -/
def AllDigits (cs : List Char) : Prop := ∀ c ∈ cs, c.isDigit = true

/-- At least one digit and nothing else. -/
def IsDigits (cs : List Char) : Prop := cs ≠ [] ∧ AllDigits cs

theorem IsDigits.head {run : List Char} (h : IsDigits run) :
    ∃ c cs, run = c :: cs ∧ c.isDigit = true ∧ AllDigits cs := by
  obtain ⟨hne, hdigits⟩ := h
  cases run with
  | nil => exact absurd rfl hne
  | cons c cs => exact ⟨c, cs, rfl, List.forall_mem_cons.mp hdigits⟩

/-- The text goes on with something that is not a digit, or ends. -/
def StopsDigits (cs : List Char) : Prop := ∀ c ∈ cs.head?, c.isDigit = false

theorem stopsDigits_cons {c : Char} {cs : List Char} (h : c.isDigit = false) :
    StopsDigits (c :: cs) := by
  rintro _ ⟨⟩
  exact h

theorem takeWhile_run {run rest : List Char} (hrun : AllDigits run) (hrest : StopsDigits rest) :
    (run ++ rest).takeWhile Char.isDigit = run := by
  rw [List.takeWhile_append_of_pos hrun]
  cases rest with
  | nil => simp
  | cons c rest => simp [hrest c rfl]

theorem dropWhile_run {run rest : List Char} (hrun : AllDigits run) (hrest : StopsDigits rest) :
    (run ++ rest).dropWhile Char.isDigit = rest := by
  rw [List.dropWhile_append_of_pos hrun]
  cases rest with
  | nil => rfl
  | cons c rest => simp [hrest c rfl]

/-- A text begins with one maximal run of digits. -/
theorem run_unique {run run' rest rest' : List Char} (hrun : AllDigits run) (hrun' : AllDigits run')
    (hrest : StopsDigits rest) (hrest' : StopsDigits rest') (h : run ++ rest = run' ++ rest') :
    run = run' ∧ rest = rest' := by
  have hsame : run = run' := by
    rw [← takeWhile_run hrun hrest, h, takeWhile_run hrun' hrest']
  subst hsame
  exact ⟨rfl, List.append_cancel_left h⟩

theorem allDigits_takeWhile (cs : List Char) : AllDigits (cs.takeWhile Char.isDigit) :=
  List.all_eq_true.mp List.all_takeWhile

/-- A digit at the front begins a run. -/
theorem isDigits_cons_takeWhile {c : Char} (hc : c.isDigit = true) (cs : List Char) :
    IsDigits (c :: cs.takeWhile Char.isDigit) :=
  ⟨List.cons_ne_nil _ _, List.forall_mem_cons.mpr ⟨hc, allDigits_takeWhile cs⟩⟩

theorem stopsDigits_dropWhile (cs : List Char) : StopsDigits (cs.dropWhile Char.isDigit) := by
  intro c hc
  have hnot := List.head?_dropWhile_not Char.isDigit cs
  rw [hc] at hnot
  simpa using hnot

end Library.DigitRuns
