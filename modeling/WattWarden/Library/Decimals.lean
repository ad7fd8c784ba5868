import Mathlib.Data.List.DropRight
import WattWarden.Library.Tenths

/-!
# Fixed decimals, and their zeros dropped

A number printed with a fixed number of decimals, and the same text without the zeros at its end and
without a point at its end.

* `padded` / `fixedChars` — digits with leading zeros; `{:.places}` of a whole number of units of the
  last place;
* `trimZeros` — the zeros at the end dropped, then the point;
* `trimZeros_eq` — **PROVED**: what is left is a decimal;
* `mem_trimZeros` — **PROVED**: digits and a point are all there is in it;
* `parseDecimal_trimZeros` — **PROVED**: it reads as the same number.
-/

namespace Library.Decimals

open Library.DigitRuns Library.Floats Library.Numerals Library.Tenths

/-- `{n:0width}` of a natural number. -/
def padded (width n : ℕ) : List Char :=
  List.replicate (width - (decimal n).length) '0' ++ (decimal n).toList

/-- `{:.places}` of `n` units of the last place. -/
def fixedChars (places n : ℕ) : List Char :=
  (decimal (n / 10 ^ places)).toList ++ '.' :: padded places (n % 10 ^ places)

/-- The zeros at the end are dropped, and then a point at the end. -/
def trimZeros (cs : List Char) : List Char :=
  let cs := cs.rdropWhile (· = '0')
  if cs.getLast? = some '.' then cs.dropLast else cs

theorem allDigits_padded (width n : ℕ) : AllDigits (padded width n) := by
  intro c hc
  rcases List.mem_append.mp hc with hc | hc
  · rw [List.eq_of_mem_replicate hc]
    rfl
  · exact isDigit_of_mem_decimal hc

theorem ofDigitChars_padded (width n init : ℕ) :
    Nat.ofDigitChars 10 (padded width n) init = 10 ^ (padded width n).length * init + n := by
  have hzero : Nat.ofDigitChars 10 (padded width n) 0 = n := by
    rw [padded, Nat.ofDigitChars_append, Nat.ofDigitChars_replicate_zero, mul_zero,
      ofDigitChars_decimal]
  rw [Nat.ofDigitChars_eq_ofDigitChars_zero, hzero]

theorem length_padded {width n : ℕ} (hpos : 0 < width) (h : n < 10 ^ width) :
    (padded width n).length = width := by
  have hle : (decimal n).length ≤ width := by
    rw [← String.length_toList, toList_decimal]
    exact (Nat.length_toDigits_le_iff (by decide) hpos).mpr h
  rw [padded, List.length_append, List.length_replicate, String.length_toList]
  omega

/-! ### Trailing zeros -/

/-- Digits end in zeros, and those do not count. -/
theorem rdropWhile_zero_spec (cs : List Char) :
    ∃ k, cs = cs.rdropWhile (· = '0') ++ List.replicate k '0' := by
  induction cs using List.reverseRecOn with
  | nil => exact ⟨0, rfl⟩
  | append_singleton cs c ih =>
    by_cases hc : c = '0'
    · obtain ⟨k, hk⟩ := ih
      subst hc
      refine ⟨k + 1, ?_⟩
      rw [List.rdropWhile_concat_pos _ _ _ (by decide), List.replicate_succ', ← List.append_assoc, ← hk]
    · refine ⟨0, ?_⟩
      rw [List.rdropWhile_concat_neg _ _ _ (by simpa using hc)]
      exact (List.append_nil _).symm

/-- Behind a point the zeros are dropped up to the point. -/
theorem rdropWhile_pointed (whole decimals : List Char) :
    (whole ++ '.' :: decimals).rdropWhile (· = '0')
      = whole ++ '.' :: decimals.rdropWhile (· = '0') := by
  induction decimals using List.reverseRecOn with
  | nil =>
    rw [List.rdropWhile_concat_neg _ _ _ (by decide)]
    rfl
  | append_singleton decimals c ih =>
    rw [← List.cons_append, ← List.append_assoc]
    by_cases hc : c = '0'
    · subst hc
      rw [List.rdropWhile_concat_pos _ _ _ (by decide), List.rdropWhile_concat_pos _ _ _ (by decide), ih]
    · rw [List.rdropWhile_concat_neg _ _ _ (by simpa using hc),
        List.rdropWhile_concat_neg _ _ _ (by simpa using hc)]
      rw [List.append_assoc, List.cons_append]

theorem allDigits_rdropWhile {cs : List Char} (h : AllDigits cs) :
    AllDigits (cs.rdropWhile (· = '0')) := fun c hc => h c ((List.rdropWhile_prefix _ _).subset hc)

/-- **What is left is a decimal.** -/
theorem trimZeros_eq (whole : List Char) {decimals : List Char} (hdecimals : AllDigits decimals) :
    trimZeros (whole ++ '.' :: decimals)
      = decimalChars false whole (decimals.rdropWhile (· = '0')) := by
  have hkept := allDigits_rdropWhile hdecimals
  rw [trimZeros, rdropWhile_pointed]
  cases hleft : decimals.rdropWhile (· = '0') with
  | nil => simp [decimalChars]
  | cons c cs =>
    rw [hleft] at hkept
    have hlast : (whole ++ '.' :: c :: cs).getLast? ≠ some '.' := by
      intro hpoint
      have hmem : '.' ∈ c :: cs := by
        rw [List.getLast?_append, List.getLast?_cons_cons,
          List.getLast?_eq_some_getLast (List.cons_ne_nil c cs)] at hpoint
        rw [← Option.some.inj hpoint]
        exact List.getLast_mem _
      exact absurd (hkept '.' hmem) (by decide)
    show (if (whole ++ '.' :: c :: cs).getLast? = some '.' then _ else _) = _
    rw [if_neg hlast]
    simp [decimalChars]

theorem mem_trimZeros {places n : ℕ} {c : Char} (h : c ∈ trimZeros (fixedChars places n)) :
    IsDecimalChar c := by
  have hdigits := allDigits_padded places (n % 10 ^ places)
  rw [fixedChars, trimZeros_eq _ hdigits, decimalChars, List.mem_append] at h
  rcases h with h | h
  · exact .inl (isDigit_of_mem_decimal h)
  · split at h
    · cases h
    · rcases List.mem_cons.mp h with rfl | h
      · exact .inr (.inr rfl)
      · exact .inl (allDigits_rdropWhile hdigits c h)

/-- **Round trip**: the number is read back without its zeros. -/
theorem parseDecimal_trimZeros {places : ℕ} (hpos : 0 < places) (n : ℕ) :
    parseDecimal (String.ofList (trimZeros (fixedChars places n)))
      = some ((n : ℚ) / 10 ^ places) := by
  obtain ⟨decimals, hdecimals⟩ : ∃ decimals, decimals = padded places (n % 10 ^ places) := ⟨_, rfl⟩
  have hlength : decimals.length = places := by
    rw [hdecimals]
    exact length_padded hpos (Nat.mod_lt _ (by positivity))
  have hdigits : AllDigits decimals := by
    rw [hdecimals]
    exact allDigits_padded _ _
  obtain ⟨k, hk⟩ := rdropWhile_zero_spec decimals
  obtain ⟨kept, hkept⟩ : ∃ kept, kept = decimals.rdropWhile (· = '0') := ⟨_, rfl⟩
  rw [← hkept] at hk
  -- the digits that are kept stand for `n` without its last `k` zeros
  have hvalue : n = 10 ^ k * Nat.ofDigitChars 10 ((decimal (n / 10 ^ places)).toList ++ kept) 0 := by
    have hall : Nat.ofDigitChars 10 ((decimal (n / 10 ^ places)).toList ++ decimals) 0 = n := by
      rw [Nat.ofDigitChars_append, ofDigitChars_decimal, hdecimals, ofDigitChars_padded,
        ← hdecimals, hlength]
      exact Nat.div_add_mod n _
    rw [hk, ← List.append_assoc, Nat.ofDigitChars_append, Nat.ofDigitChars_replicate_zero] at hall
    exact hall.symm
  have hplaces : places = kept.length + k := by
    rw [← hlength, hk, List.length_append, List.length_replicate]
  rw [fixedChars, ← hdecimals, trimZeros_eq _ hdigits, ← hkept,
    parseDecimal_decimalChars false (isDigits_decimal _) (hkept ▸ allDigits_rdropWhile hdigits)]
  congr 1
  obtain ⟨m, hm⟩ : ∃ m, m = Nat.ofDigitChars 10 ((decimal (n / 10 ^ places)).toList ++ kept) 0 :=
    ⟨_, rfl⟩
  rw [← hm] at hvalue ⊢
  rw [hvalue, hplaces]
  push_cast
  rw [pow_add]
  field_simp

end Library.Decimals
