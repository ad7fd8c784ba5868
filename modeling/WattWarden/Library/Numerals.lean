import Mathlib.Algebra.Group.Int.Defs
import Mathlib.Algebra.Group.Nat.Defs
import Mathlib.Data.List.Basic
import Mathlib.Order.Lattice

/-!
# Decimal numerals in small text files

Kernel attribute files hold one value as text: a decimal numeral, a word, or a list of words,
usually with a trailing newline.  This file is the text layer such files are read through,
following the documented behaviour of the standard library of the language that reads them:

* `trim` / `splitWhitespace` — Unicode `White_Space` trimming and splitting;
* `parseUnsigned bound` / `parseSigned bound` — an optional sign, at least one ASCII digit,
  nothing else, and a value inside the integer type (`< bound`, resp. `-bound ≤ · < bound`);
* `clamp` — `Ord::clamp`; `checkedSub` — unsigned subtraction; `wrapI64` — the wrap-around of 64-bit
  products;
* `decimal` — printing; `parseUnsigned_decimal`, `parseSigned_decimal`, `parseSigned_toString` —
  printing and reading back is the identity inside the type, and `trim_decimal`, `trim_toString` —
  a printed numeral has nothing to trim.
-/

namespace Library.Numerals

/-- The Unicode `White_Space` property. -/
def isSpace (c : Char) : Bool :=
  c ∈ ['\u0009', '\u000a', '\u000b', '\u000c', '\u000d', ' ', '\u0085', '\u00a0', '\u1680',
    '\u2028', '\u2029', '\u202f', '\u205f', '\u3000'] || ('\u2000' ≤ c && c ≤ '\u200a')

/-- Drop white space at both ends of a character list. -/
def trimChars (cs : List Char) : List Char :=
  ((cs.dropWhile isSpace).reverse.dropWhile isSpace).reverse

/-- `str::trim`. -/
def trim (s : String) : String := String.ofList (trimChars s.toList)

/-- The maximal runs of non-space characters, `word` being the run read so far, reversed. -/
def splitWords : List Char → List Char → List (List Char)
  | word, [] => if word = [] then [] else [word.reverse]
  | word, c :: cs =>
      if isSpace c then
        (if word = [] then splitWords [] cs else word.reverse :: splitWords [] cs)
      else splitWords (c :: word) cs

/-- `str::split_whitespace`. -/
def splitWhitespace (s : String) : List String := (splitWords [] s.toList).map String.ofList

/-- At least one ASCII digit and nothing else. -/
def parseDigits (cs : List Char) : Option ℕ :=
  if cs ≠ [] ∧ cs.all Char.isDigit then some (Nat.ofDigitChars 10 cs 0) else none

/-- `str::parse` at an unsigned integer type with `bound` values. -/
def parseUnsigned (bound : ℕ) (s : String) : Option ℕ :=
  let digits := match s.toList with
    | '+' :: cs => cs
    | cs => cs
  (parseDigits digits).filter (· < bound)

/-- `str::parse` at a signed integer type with range `-bound ≤ · < bound`. -/
def parseSigned (bound : ℕ) (s : String) : Option ℤ :=
  match s.toList with
  | '-' :: cs => ((parseDigits cs).filter (· ≤ bound)).map fun n : ℕ => -(n : ℤ)
  | '+' :: cs => ((parseDigits cs).filter (· < bound)).map fun n : ℕ => (n : ℤ)
  | cs => ((parseDigits cs).filter (· < bound)).map fun n : ℕ => (n : ℤ)

/-- `to_string` of a natural number. -/
def decimal (n : ℕ) : String := toString n

/-- `Ord::clamp`. -/
def clamp {α : Type*} [LinearOrder α] (lo hi x : α) : α :=
  if x < lo then lo else if hi < x then hi else x

/-- A subtraction of unsigned numbers, which fails below zero. -/
def checkedSub (a b : ℕ) : Option ℕ := if b ≤ a then some (a - b) else none

/-- The value a signed 64-bit result has once it wrapped around. -/
def wrapI64 (x : ℤ) : ℤ := (x + 2 ^ 63) % 2 ^ 64 - 2 ^ 63

/-! ### Printed numerals -/

theorem toList_decimal (n : ℕ) : (decimal n).toList = Nat.toDigits 10 n := by
  rw [decimal, Nat.toString_eq_repr, Nat.toList_repr]

/-- Distinct numbers print differently. -/
@[simp] theorem decimal_inj {m n : ℕ} : decimal m = decimal n ↔ m = n := by
  constructor
  · intro h
    have hdigits : Nat.toDigits 10 m = Nat.toDigits 10 n := by
      rw [← toList_decimal, ← toList_decimal, h]
    have hvalue := congrArg (fun cs => Nat.ofDigitChars 10 cs 0) hdigits
    simpa using hvalue
  · intro heq
    subst heq
    rfl

theorem isDigit_of_mem_decimal {n : ℕ} {c : Char} (h : c ∈ (decimal n).toList) :
    c.isDigit = true := by
  rw [toList_decimal] at h
  exact Nat.isDigit_of_mem_toDigits (by decide) (by decide) h

/-- A digit is not white space. -/
theorem isSpace_eq_false_of_isDigit {c : Char} (h : c.isDigit = true) : isSpace c = false := by
  have hrange : 48 ≤ c.toNat ∧ c.toNat ≤ 57 := by
    simpa [Char.isDigit, UInt32.le_iff_toNat_le] using h
  cases hc : isSpace c with
  | false => rfl
  | true =>
    exfalso
    simp only [isSpace, Bool.or_eq_true, decide_eq_true_eq, List.mem_cons, List.not_mem_nil,
      or_false, Bool.and_eq_true, Char.le_def, UInt32.le_iff_toNat_le] at hc
    rcases hc with hc | ⟨hlo, -⟩
    · rcases hc with rfl | rfl | rfl | rfl | rfl | rfl | rfl | rfl | rfl | rfl | rfl | rfl | rfl
        | rfl <;> revert hrange <;> decide
    · have hval : (8192 : ℕ) ≤ c.toNat := hlo
      omega

theorem parseDigits_decimal (n : ℕ) : parseDigits (decimal n).toList = some n := by
  have hne : (decimal n).toList ≠ [] := by
    rw [toList_decimal]
    exact Nat.toDigits_ne_nil
  have hall : (decimal n).toList.all Char.isDigit = true := by
    rw [List.all_eq_true]
    exact fun c hc => isDigit_of_mem_decimal hc
  rw [parseDigits, if_pos ⟨hne, hall⟩, toList_decimal, Nat.ofDigitChars_toDigits] <;> decide

/-- The first character of a printed numeral is a digit, so it is neither sign. -/
theorem decimal_eq_cons (n : ℕ) :
    ∃ c cs, (decimal n).toList = c :: cs ∧ c ≠ '+' ∧ c ≠ '-' := by
  cases h : (decimal n).toList with
  | nil =>
    rw [toList_decimal] at h
    exact absurd h Nat.toDigits_ne_nil
  | cons c cs =>
    have hc : c.isDigit = true := isDigit_of_mem_decimal (n := n) (by rw [h]; simp)
    refine ⟨c, cs, rfl, ?_, ?_⟩
    · intro heq
      subst heq
      exact absurd hc (by decide)
    · intro heq
      subst heq
      exact absurd hc (by decide)

/-- **Unsigned round trip.**  Reading a printed number gives it back inside the type. -/
theorem parseUnsigned_decimal {bound n : ℕ} (h : n < bound) :
    parseUnsigned bound (decimal n) = some n := by
  obtain ⟨c, cs, hlist, hplus, -⟩ := decimal_eq_cons n
  have hdigits := parseDigits_decimal n
  rw [hlist] at hdigits
  simp [parseUnsigned, hlist, hplus, hdigits, h]

/-- **Signed round trip.**  Reading a printed natural number gives it back inside the type. -/
theorem parseSigned_decimal {bound n : ℕ} (h : n < bound) :
    parseSigned bound (decimal n) = some (n : ℤ) := by
  obtain ⟨c, cs, hlist, hplus, hminus⟩ := decimal_eq_cons n
  have hdigits := parseDigits_decimal n
  rw [hlist] at hdigits
  rw [parseSigned]
  rw [hlist]
  split
  · rename_i heq
    exact absurd (List.cons.inj heq).1 hminus
  · rename_i heq
    exact absurd (List.cons.inj heq).1 hplus
  · simp [hdigits, h]

theorem dropWhile_isSpace_eq_self {cs : List Char} (h : ∀ c ∈ cs, isSpace c = false) :
    cs.dropWhile isSpace = cs := by
  cases cs with
  | nil => rfl
  | cons c cs => simp [h c (by simp)]

/-- Text without white space has nothing to trim. -/
theorem trim_eq_self {s : String} (h : ∀ c ∈ s.toList, isSpace c = false) : trim s = s := by
  have hrev : ∀ c ∈ s.toList.reverse, isSpace c = false := fun c hc => h c (List.mem_reverse.mp hc)
  rw [trim, trimChars, dropWhile_isSpace_eq_self h, dropWhile_isSpace_eq_self hrev,
    List.reverse_reverse, String.ofList_toList]

@[simp] theorem trim_decimal (n : ℕ) : trim (decimal n) = decimal n :=
  trim_eq_self fun _ hc => isSpace_eq_false_of_isDigit (isDigit_of_mem_decimal hc)

/-! ### Signed numerals -/

/-- A negative number prints as its sign and the digits of its absolute value. -/
theorem toList_negSucc (n : ℕ) :
    (toString (Int.negSucc n)).toList = '-' :: (decimal (n + 1)).toList := by
  change ("-" ++ decimal (n + 1)).toList = _
  rw [String.toList_append]
  rfl

/-- **Signed round trip.**  Reading a printed integer gives it back inside the type. -/
theorem parseSigned_toString {bound : ℕ} {z : ℤ} (hlo : -(bound : ℤ) ≤ z) (hhi : z < bound) :
    parseSigned bound (toString z) = some z := by
  cases z with
  | ofNat n => exact parseSigned_decimal (Int.ofNat_lt.mp hhi)
  | negSucc n =>
    have hn : n + 1 ≤ bound := by
      rw [Int.negSucc_eq] at hlo
      omega
    have hdigits := parseDigits_decimal (n + 1)
    rw [parseSigned, toList_negSucc]
    simp [hdigits, hn, Int.negSucc_eq]

@[simp] theorem trim_toString (z : ℤ) : trim (toString z) = toString z := by
  cases z with
  | ofNat n => exact trim_decimal n
  | negSucc n =>
    apply trim_eq_self
    rw [toList_negSucc, List.forall_mem_cons]
    refine ⟨by decide, ?_⟩
    intro c hc
    exact isSpace_eq_false_of_isDigit (isDigit_of_mem_decimal hc)

theorem wrapI64_eq_self {x : ℤ} (hlo : -2 ^ 63 ≤ x) (hhi : x < 2 ^ 63) : wrapI64 x = x := by
  rw [wrapI64]
  omega

theorem wrapI64_bounds (x : ℤ) : -2 ^ 63 ≤ wrapI64 x ∧ wrapI64 x < 2 ^ 63 := by
  rw [wrapI64]
  omega

/-! ### Clamping -/

section Clamp

variable {α : Type*} [LinearOrder α] {lo hi x : α}

theorem le_clamp (h : lo ≤ hi) : lo ≤ clamp lo hi x := by
  rw [clamp]
  split
  · exact le_rfl
  · rename_i hx
    split
    · exact h
    · exact not_lt.mp hx

theorem clamp_le (h : lo ≤ hi) : clamp lo hi x ≤ hi := by
  rw [clamp]
  split
  · exact h
  · split
    · exact le_rfl
    · rename_i hx
      exact not_lt.mp hx

theorem clamp_eq_self (hlo : lo ≤ x) (hhi : x ≤ hi) : clamp lo hi x = x := by
  rw [clamp, if_neg (not_lt.mpr hlo), if_neg (not_lt.mpr hhi)]

theorem clamp_eq_hi (h : lo ≤ hi) (hhi : hi ≤ x) : clamp lo hi x = hi := by
  rw [clamp, if_neg (not_lt.mpr (le_trans h hhi))]
  split
  · rfl
  · rename_i hx
    exact le_antisymm (not_lt.mp hx) hhi

theorem clamp_lt_hi (h : lo < hi) (hx : x < hi) : clamp lo hi x < hi := by
  rw [clamp, if_neg (not_lt.mpr (le_of_lt hx))]
  split
  · exact h
  · exact hx

theorem clamp_lt {b : α} (hlo : lo < b) (hx : x < b) : clamp lo hi x < b := by
  rw [clamp]
  split
  · exact hlo
  · split
    · rename_i hhi
      exact lt_trans hhi hx
    · exact hx

/-- Clamping is monotone in the value and in the upper end. -/
theorem clamp_le_clamp {hi' y : α} (h : lo ≤ hi) (hhi : hi ≤ hi') (hxy : x ≤ y) :
    clamp lo hi x ≤ clamp lo hi' y := by
  by_cases hlo : x < lo
  · rw [clamp, if_pos hlo]
    exact le_clamp (le_trans h hhi)
  · have hy : ¬y < lo := fun hy => hlo (lt_of_le_of_lt hxy hy)
    rw [clamp, if_neg hlo, clamp, if_neg hy]
    split
    · rename_i hx
      split
      · exact hhi
      · exact le_trans (le_of_lt hx) hxy
    · rename_i hx
      split
      · exact le_trans (not_lt.mp hx) hhi
      · exact hxy

end Clamp

example : parseUnsigned (2 ^ 64) (trim "  3500000\n") = some 3500000 := by decide

example : splitWhitespace "default [powersave]  performance\n"
    = ["default", "[powersave]", "performance"] := by decide

end Library.Numerals
