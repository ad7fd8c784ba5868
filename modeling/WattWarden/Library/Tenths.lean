import Mathlib.Tactic.FieldSimp
import Mathlib.Tactic.NormNum
import Mathlib.Tactic.Positivity
import Mathlib.Tactic.Ring
import WattWarden.Library.DigitRuns
import WattWarden.Library.FloatLike

/-!
# Numbers with one decimal, as text

How a standard library prints a number to one decimal, and what reading the text gives.

* `nearestTenth` — the tenths of a number, to the nearest, halfway cases to the even one;
* `fixedOne` — exactly one decimal (`{:.1}`); `shortest` — no decimal where it is 0 (`Display` of a
  number that is a whole number of tenths);
* `parseDecimal_fixedOne`, `parseDecimal_shortest` — **PROVED**: a whole number of tenths is read
  back from either text;
* `mem_fixedOne`, `mem_shortest` — **PROVED**: digits, a sign and a point are all there is in them.
-/

namespace Library.Tenths

open Library.Numerals Library.Floats Library.DigitRuns

/-- The nearest tenth. -/
def nearestTenth (q : ℚ) : ℤ := roundHalfEven (q * 10)

@[simp] theorem nearestTenth_tenths (k : ℤ) : nearestTenth ((k : ℚ) / 10) = k := by
  have hexact : (k : ℚ) / 10 * 10 = k := by field_simp
  rw [nearestTenth, hexact, roundHalfEven_intCast]

/-- The sign and the whole part. -/
def wholeText (k : ℤ) : String := (if k < 0 then "-" else "") ++ decimal (k.natAbs / 10)

/-- `{:.1}` -/
def fixedOne (q : ℚ) : String :=
  let k := nearestTenth q
  wholeText k ++ "." ++ decimal (k.natAbs % 10)

/-- `Display` of a whole number of tenths. -/
def shortest (q : ℚ) : String :=
  let k := nearestTenth q
  if k.natAbs % 10 = 0 then wholeText k else wholeText k ++ "." ++ decimal (k.natAbs % 10)

/-! ### Reading them -/

/-- A digit prints as one character. -/
theorem exists_digit {d : ℕ} (h : d < 10) :
    ∃ c : Char, (decimal d).toList = [c] ∧ c.isDigit = true ∧ digitValue c = d := by
  refine ⟨Nat.digitChar d, ?_, ?_, ?_⟩
  · rw [toList_decimal]
    exact Nat.toDigits_of_lt_base h
  · revert h
    revert d
    decide
  · revert h
    revert d
    decide

/-- The characters of a decimal: a sign, the whole part, and the decimals behind a point. -/
def decimalChars (negative : Bool) (whole decimals : List Char) : List Char :=
  (if negative then ['-'] else []) ++ whole ++ if decimals = [] then [] else '.' :: decimals

/-- **What a decimal reads as.** -/
theorem parseDecimal_decimalChars (negative : Bool) {whole decimals : List Char}
    (hwhole : IsDigits whole) (hdecimals : AllDigits decimals) :
    parseDecimal (String.ofList (decimalChars negative whole decimals)) = some
      ((if negative then -1 else 1) *
        ((Nat.ofDigitChars 10 (whole ++ decimals) 0 : ℚ) / 10 ^ decimals.length)) := by
  have hstop : StopsDigits (if decimals = [] then [] else '.' :: decimals) := by
    split
    · simp [StopsDigits]
    · exact stopsDigits_cons (by decide)
  rw [parseDecimal, String.toList_ofList]
  split
  rename_i minus digits heq
  have hsign : minus = negative ∧ digits = whole ++ if decimals = [] then [] else '.' :: decimals := by
    obtain ⟨c, cs, rfl, hc, -⟩ := hwhole.head
    cases negative with
    | true => exact (Prod.mk.inj heq).imp Eq.symm Eq.symm
    | false =>
      split at heq
      · rename_i hminus
        rw [(List.cons.inj hminus).1] at hc
        exact absurd hc (by decide)
      · rename_i hplus
        exact absurd (List.cons.inj hplus).1 (ne_plus_of_isDigit hc)
      · exact (Prod.mk.inj heq).imp Eq.symm Eq.symm
  obtain ⟨rfl, rfl⟩ := hsign
  have hvalid : whole ++ decimals ≠ [] ∧ decimals.all Char.isDigit = true :=
    ⟨List.append_ne_nil_of_left_ne_nil hwhole.1 _, List.all_eq_true.mpr hdecimals⟩
  simp only [takeWhile_run hwhole.2 hstop, List.drop_left]
  cases decimals with
  | nil =>
    show Option.bind (some []) _ = _
    rw [Option.bind_some, if_pos hvalid]
    cases minus <;> simp
  | cons d ds =>
    show Option.bind (some (d :: ds)) _ = _
    rw [Option.bind_some, if_pos hvalid]
    cases minus <;> simp

/-- Its sign and its size make a number. -/
theorem sign_mul_natAbs (k : ℤ) : (if decide (k < 0) then -1 else 1 : ℚ) * k.natAbs = k := by
  rw [Nat.cast_natAbs]
  by_cases h : k < 0
  · simp [h, abs_of_neg h]
  · simp [h, abs_of_nonneg (not_lt.mp h)]

theorem toList_wholeText (k : ℤ) : (wholeText k).toList
    = (if decide (k < 0) then ['-'] else []) ++ (decimal (k.natAbs / 10)).toList := by
  rw [wholeText, String.toList_append]
  by_cases h : k < 0 <;> simp [h]

theorem isDigits_decimal (n : ℕ) : IsDigits (decimal n).toList := by
  obtain ⟨c, cs, hcons, -, -⟩ := decimal_eq_cons n
  exact ⟨by simp [hcons], fun _ hc => isDigit_of_mem_decimal hc⟩

theorem ofDigitChars_decimal (n : ℕ) : Nat.ofDigitChars 10 (decimal n).toList 0 = n := by
  rw [toList_decimal]
  simp

/-- The text with a point. -/
theorem parseDecimal_pointed (k : ℤ) :
    parseDecimal (wholeText k ++ "." ++ decimal (k.natAbs % 10)) = some ((k : ℚ) / 10) := by
  obtain ⟨c, hlist, hc, hvalue⟩ := exists_digit (Nat.mod_lt k.natAbs (show 0 < 10 by decide))
  have htext : wholeText k ++ "." ++ decimal (k.natAbs % 10)
      = String.ofList (decimalChars (decide (k < 0)) (decimal (k.natAbs / 10)).toList [c]) := by
    apply String.toList_injective
    rw [String.toList_append, String.toList_append, toList_wholeText, hlist]
    simp [decimalChars]
  have hnumber : Nat.ofDigitChars 10 ((decimal (k.natAbs / 10)).toList ++ [c]) 0 = k.natAbs := by
    rw [ofDigitChars_concat, ofDigitChars_decimal, hvalue]
    omega
  rw [htext, parseDecimal_decimalChars _ (isDigits_decimal _) (by simpa [AllDigits] using hc),
    hnumber, ← mul_div_assoc, sign_mul_natAbs]
  simp

/-- **Round trip of `{:.1}`.** -/
theorem parseDecimal_fixedOne (k : ℤ) : parseDecimal (fixedOne ((k : ℚ) / 10)) = some ((k : ℚ) / 10) := by
  rw [fixedOne, nearestTenth_tenths]
  exact parseDecimal_pointed k

/-- **Round trip of `Display`.** -/
theorem parseDecimal_shortest (k : ℤ) :
    parseDecimal (shortest ((k : ℚ) / 10)) = some ((k : ℚ) / 10) := by
  rw [shortest, nearestTenth_tenths]
  split
  · rename_i hwhole
    have htext : wholeText k
        = String.ofList (decimalChars (decide (k < 0)) (decimal (k.natAbs / 10)).toList []) := by
      apply String.toList_injective
      rw [toList_wholeText]
      simp [decimalChars]
    have hnumber : (k.natAbs : ℚ) = 10 * (k.natAbs / 10 : ℕ) := by
      have hsplit : k.natAbs = 10 * (k.natAbs / 10) := by omega
      exact_mod_cast hsplit
    have hsign := sign_mul_natAbs k
    rw [htext, parseDecimal_decimalChars _ (isDigits_decimal _) (by simp [AllDigits]),
      List.append_nil, ofDigitChars_decimal]
    rw [hnumber] at hsign
    congr 1
    rw [← hsign, List.length_nil, pow_zero, div_one]
    ring
  · exact parseDecimal_pointed k

/-! ### What is in them -/

/-- The characters of a printed decimal. -/
def IsDecimalChar (c : Char) : Prop := c.isDigit = true ∨ c = '-' ∨ c = '.'

instance : DecidablePred IsDecimalChar := fun _ => inferInstanceAs (Decidable (_ ∨ _ ∨ _))

theorem mem_wholeText {k : ℤ} {c : Char} (h : c ∈ (wholeText k).toList) : IsDecimalChar c := by
  rw [toList_wholeText, List.mem_append] at h
  rcases h with h | h
  · split at h
    · exact .inr (.inl (List.mem_singleton.mp h))
    · cases h
  · exact .inl (isDigit_of_mem_decimal h)

theorem mem_fixedOne {q : ℚ} {c : Char} (h : c ∈ (fixedOne q).toList) : IsDecimalChar c := by
  rw [fixedOne, String.toList_append, String.toList_append, List.mem_append, List.mem_append] at h
  rcases h with (h | h) | h
  · exact mem_wholeText h
  · exact .inr (.inr (List.mem_singleton.mp h))
  · exact .inl (isDigit_of_mem_decimal h)

theorem mem_shortest {q : ℚ} {c : Char} (h : c ∈ (shortest q).toList) : IsDecimalChar c := by
  rw [shortest] at h
  split at h
  · exact mem_wholeText h
  · exact mem_fixedOne h

example : fixedOne (-7 / 20) = "-0.4" := by decide +kernel

example : shortest (100 : ℚ) = "100" := by decide +kernel

end Library.Tenths
