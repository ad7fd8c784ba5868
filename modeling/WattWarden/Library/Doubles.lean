import WattWarden.Library.Binary64
import WattWarden.Library.Tenths
import WattWarden.Library.TextSearch
import WattWarden.Library.Truncation

/-!
# Double-precision numbers

Machine floats with 53 significant bits, infinities and not-a-number.  A result is rounded to the
nearest double, and too large a one becomes infinite.  A zero has no sign here.

* `Double` — the numbers; `Double.ofRat` — an exact result, rounded; `Double.exact` — the value of a
  finite number;
* `mul`, `div`, `sub`, `abs`, `lt`, `toUnsigned`, `toSigned` — the operations, with saturating casts;
* `Double.parse` — decimals with an exponent, infinities and not-a-number;
* `exact_ofRat`, `mul_eq`, `div_eq`, `sub_eq` — **PROVED**: the operations in range;
* `Approx` / `Approx.mul`, `Approx.div` — **PROVED**: how many roundings away from the exact result;
* `parse_plain`, `parse_toString` — **PROVED**: decimals without an exponent, and printed whole
  numbers, read as the nearest double.
-/

namespace Library.Binary64

open Library.DigitRuns Library.Floats Library.Numerals Library.Tenths Library.TextSearch
  Library.Truncation

/-- The largest double is below it. -/
def overflow : ℚ := 2 ^ 1024

theorem two_pow_le_overflow {k : ℕ} (h : k ≤ 1024) : ((2 ^ k : ℕ) : ℚ) ≤ overflow := by
  rw [Nat.cast_pow, Nat.cast_ofNat]
  exact pow_le_pow_right₀ one_le_two h

inductive Double where
  | finite (x : Rounded binary64) (bounded : |x.value| < overflow)
  | infinite (negative : Bool)
  | nan
  deriving DecidableEq

namespace Double

/-- An exact result, rounded. -/
def ofRat (q : ℚ) : Double :=
  if h : |(Rounded.of binary64 q).value| < overflow then .finite (Rounded.of binary64 q) h
  else .infinite (decide (q < 0))

/-- The value of a finite number. -/
def exact : Double → Option ℚ
  | .finite x _ => some x.value
  | _ => none

instance : Zero Double := ⟨.finite ⟨0, binary64.zero⟩ (by norm_num [overflow])⟩

def isNegative : Double → Bool
  | .finite x _ => decide (x.value < 0)
  | .infinite negative => negative
  | .nan => false

def abs : Double → Double
  | .finite x h => .finite ⟨|x.value|, by
      rcases abs_choice x.value with heq | heq
      · rw [heq]; exact x.kept
      · rw [heq]; exact (nearest_neg x.value).trans (congrArg Neg.neg x.kept)⟩ (by rwa [abs_abs])
  | .infinite _ => .infinite false
  | .nan => .nan

def mul : Double → Double → Double
  | .finite x _, .finite y _ => ofRat (x.value * y.value)
  | .nan, _ | _, .nan => .nan
  | x, y => if x = 0 ∨ y = 0 then .nan else .infinite (x.isNegative != y.isNegative)

def div : Double → Double → Double
  | .finite x _, .finite y _ =>
      if y.value ≠ 0 then ofRat (x.value / y.value)
      else if x.value = 0 then .nan
      else .infinite (decide (x.value < 0))
  | .nan, _ | _, .nan | .infinite _, .infinite _ => .nan
  | .infinite negative, y => .infinite (negative != y.isNegative)
  | .finite _ _, .infinite _ => 0

def sub : Double → Double → Double
  | .finite x _, .finite y _ => ofRat (x.value - y.value)
  | .nan, _ | _, .nan => .nan
  | .infinite a, .infinite b => if a = b then .nan else .infinite a
  | .infinite negative, .finite _ _ => .infinite negative
  | .finite _ _, .infinite negative => .infinite !negative

/-- `<`, which no comparison with not-a-number satisfies. -/
def lt : Double → Double → Bool
  | .finite x _, .finite y _ => decide (x.value < y.value)
  | .nan, _ | _, .nan => false
  | .infinite a, .infinite b => a && !b
  | .infinite negative, .finite _ _ => negative
  | .finite _ _, .infinite negative => !negative

/-- `as` to an unsigned type with `bound` values. -/
def toUnsigned (bound : ℕ) : Double → ℕ
  | .finite x _ => FloatLike.toUnsigned bound x.value
  | .infinite negative => if negative then 0 else bound - 1
  | .nan => 0

/-- `as` to a signed type with range `-bound ≤ · < bound`. -/
def toSigned (bound : ℕ) : Double → ℤ
  | .finite x _ => clamp (-bound) (bound - 1) (truncated x.value)
  | .infinite negative => if negative then -bound else bound - 1
  | .nan => 0

/-! ### Reading a number -/

/-- The digits of an exponent, with an optional sign. -/
def readExponent : List Char → Option ℤ
  | '-' :: cs => (parseDigits cs).map fun n : ℕ => -(n : ℤ)
  | '+' :: cs => (parseDigits cs).map fun n : ℕ => (n : ℤ)
  | cs => (parseDigits cs).map fun n : ℕ => (n : ℤ)

/-- A decimal, with an optional exponent behind it. -/
def parseNumber (text : List Char) : Option ℚ :=
  match splitOnce 'e' text with
  | none => parseDecimal (String.ofList text)
  | some (mantissa, exponent) => do
      let m ← parseDecimal (String.ofList mantissa)
      let e ← readExponent exponent
      return m * 10 ^ e

/-- The sign of a text and what follows it. -/
def signAndRest : List Char → Bool × List Char
  | '-' :: cs => (true, cs)
  | '+' :: cs => (false, cs)
  | cs => (false, cs)

/-- `str::parse::<f64>`, in which upper case does not count. -/
def parse (s : String) : Option Double :=
  let text := s.toList.map Char.toLower
  let (negative, rest) := signAndRest text
  if rest = "inf".toList ∨ rest = "infinity".toList then some (.infinite negative)
  else if rest = "nan".toList then some .nan
  else (parseNumber text).map ofRat

/-! ### In range -/

section Range

variable {x y : Double} {p q : ℚ}

theorem exact_zero : (0 : Double).exact = some 0 := rfl

theorem exact_eq_some : x.exact = some q ↔ ∃ r h, x = .finite r h ∧ r.value = q := by
  cases x with
  | finite r h =>
    constructor
    · intro heq
      exact ⟨r, h, rfl, Option.some.inj heq⟩
    · rintro ⟨r', h', heq, rfl⟩
      cases heq
      rfl
  | infinite negative => simp [exact]
  | nan => simp [exact]

/-- **A result in range is finite.** -/
theorem exact_ofRat (h : |q| < 2 ^ 1023) : (ofRat q).exact = some (nearest q) := by
  have hpow : nearest (2 ^ 1023) = 2 ^ 1023 := nearest_two_pow 1023
  have habs := abs_lt.mp h
  have hhigh := nearest_mono habs.2.le
  have hlow := nearest_mono habs.1.le
  rw [nearest_neg, hpow] at hlow
  rw [hpow] at hhigh
  have hbounded : |(Rounded.of binary64 q).value| < overflow := by
    refine (abs_le.mpr ⟨hlow, hhigh⟩).trans_lt ?_
    exact pow_lt_pow_right₀ one_lt_two (by norm_num)
  rw [ofRat, dif_pos hbounded]
  rfl

/-- The size decides which results are infinite, the sign which of them are negative. -/
theorem le_nearest_of_infinite (h : ¬|(Rounded.of binary64 q).value| < overflow) :
    if q < 0 then nearest q ≤ -overflow else overflow ≤ nearest q := by
  have habs : overflow ≤ |nearest q| := not_lt.mp h
  split_ifs with hq
  · have hneg := nearest_nonneg (q := -q) (by linarith)
    rw [nearest_neg] at hneg
    rw [abs_of_nonpos (by linarith)] at habs
    linarith
  · rwa [abs_of_nonneg (nearest_nonneg (not_lt.mp hq))] at habs

theorem zero_lt_ofRat (q : ℚ) : lt 0 (ofRat q) = decide (0 < nearest q) := by
  rw [ofRat]
  split_ifs with h
  · rfl
  · have hsize := le_nearest_of_infinite h
    have hover : 0 < overflow := by norm_num [overflow]
    by_cases hq : q < 0
    · rw [if_pos hq] at hsize
      rw [decide_eq_true hq, decide_eq_false (by linarith)]
      rfl
    · rw [if_neg hq] at hsize
      rw [decide_eq_false hq, decide_eq_true (by linarith)]
      rfl

/-- **The cast of a result** saturates as if nothing were infinite. -/
theorem toUnsigned_ofRat {bound : ℕ} (hbound : (bound : ℚ) ≤ overflow) (q : ℚ) :
    (ofRat q).toUnsigned bound = FloatLike.toUnsigned bound (nearest q) := by
  rw [ofRat]
  split_ifs with h
  · rfl
  · have hsize := le_nearest_of_infinite h
    rw [toUnsigned, toUnsigned_eq]
    by_cases hq : q < 0
    · rw [if_pos hq] at hsize
      have hfloor : ⌊nearest q⌋ < 0 := by
        rw [Int.floor_lt, Int.cast_zero]
        exact hsize.trans_lt (by norm_num [overflow])
      rw [if_pos (decide_eq_true hq), Int.toNat_of_nonpos hfloor.le, Nat.zero_min]
    · rw [if_neg hq] at hsize
      have hfloor : ((bound : ℕ) : ℤ) ≤ ⌊nearest q⌋ := by
        rw [Int.le_floor, Int.cast_natCast]
        exact hbound.trans hsize
      rw [if_neg (by simpa using hq), min_eq_right (by omega)]

theorem exact_abs (h : x.exact = some q) : x.abs.exact = some |q| := by
  obtain ⟨r, hr, rfl, rfl⟩ := exact_eq_some.mp h
  rfl

theorem mul_eq (hx : x.exact = some p) (hy : y.exact = some q) : x.mul y = ofRat (p * q) := by
  obtain ⟨r, hr, rfl, rfl⟩ := exact_eq_some.mp hx
  obtain ⟨s, hs, rfl, rfl⟩ := exact_eq_some.mp hy
  rfl

theorem div_eq (hx : x.exact = some p) (hy : y.exact = some q) (hq : q ≠ 0) :
    x.div y = ofRat (p / q) := by
  obtain ⟨r, hr, rfl, rfl⟩ := exact_eq_some.mp hx
  obtain ⟨s, hs, rfl, rfl⟩ := exact_eq_some.mp hy
  exact if_pos hq

theorem sub_eq (hx : x.exact = some p) (hy : y.exact = some q) : x.sub y = ofRat (p - q) := by
  obtain ⟨r, hr, rfl, rfl⟩ := exact_eq_some.mp hx
  obtain ⟨s, hs, rfl, rfl⟩ := exact_eq_some.mp hy
  rfl

theorem lt_eq (hx : x.exact = some p) (hy : y.exact = some q) : x.lt y = decide (p < q) := by
  obtain ⟨r, hr, rfl, rfl⟩ := exact_eq_some.mp hx
  obtain ⟨s, hs, rfl, rfl⟩ := exact_eq_some.mp hy
  rfl

theorem toSigned_eq {bound : ℕ} (h : x.exact = some q) :
    x.toSigned bound = clamp (-(bound : ℤ)) ((bound : ℤ) - 1) (truncated q) := by
  obtain ⟨r, hr, rfl, rfl⟩ := exact_eq_some.mp h
  rfl

end Range

/-! ### Several operations -/

/-- Finite, and at most `n` roundings away from `q`. -/
def Approx (n : ℕ) (x : Double) (q : ℚ) : Prop := ∃ v, x.exact = some v ∧ 0 ≤ v ∧ Near n v q

/-- Far from both ends of the exponents. -/
def Moderate (q : ℚ) : Prop := q = 0 ∨ 2 ^ (-200 : ℤ) ≤ q ∧ q < 2 ^ 200

section Approx

variable {m n : ℕ} {x y : Double} {p q v : ℚ}

/-- Moderate numbers are far from infinite. -/
theorem lt_overflow_of_le {k : ℕ} (hk : k < 1023) (h : q ≤ 2 ^ k) : q < 2 ^ 1023 :=
  h.trans_lt (pow_lt_pow_right₀ one_lt_two hk)

theorem Moderate.nonneg (h : Moderate q) : 0 ≤ q := by
  rcases h with rfl | ⟨h, -⟩
  · exact le_rfl
  · exact (zpow_pos two_pos _).le.trans h

/-- A few roundings at most halve or double a number. -/
theorem half_le_of_near (h : Near n v q) (hn : n ≤ 2 ^ 51) (hq : 0 ≤ q) : q / 2 ≤ v ∧ v ≤ 2 * q := by
  have hcast : (n : ℚ) ≤ 2 ^ 51 := by exact_mod_cast hn
  have hshare : (n : ℚ) / 2 ^ 52 ≤ 1 / 2 := by linarith
  have herror := abs_le.mp ((h.abs_sub_le (by omega) hq).trans (mul_le_mul_of_nonneg_left hshare hq))
  constructor <;> linarith

/-- A further rounding. -/
theorem approx_ofRat (h : Near n v q) (hn : n ≤ 2 ^ 51) (hq : Moderate q) :
    Approx (n + 1) (ofRat v) q := by
  obtain ⟨hlow, hhigh⟩ := half_le_of_near h hn hq.nonneg
  have hsmall : (2 : ℚ) ^ (-1022 : ℤ) ≤ 2 ^ (-201 : ℤ) :=
    zpow_le_zpow_right₀ one_le_two (by norm_num)
  have hdouble : (2 : ℚ) ^ (-200 : ℤ) = 2 * 2 ^ (-201 : ℤ) := by
    rw [← zpow_one_add₀ two_ne_zero]
    rfl
  have hv : 0 ≤ v := (div_nonneg hq.nonneg two_pos.le).trans hlow
  have hnormal : v = 0 ∨ 2 ^ (-1022 : ℤ) ≤ v := by
    rcases hq with rfl | ⟨hq, -⟩
    · exact .inl (by linarith)
    · exact .inr (by linarith)
  have hsize : |v| < 2 ^ 1023 := by
    rw [abs_of_nonneg hv]
    apply lt_overflow_of_le (k := 201) (by norm_num)
    rcases hq with rfl | ⟨-, hq⟩
    · exact (show v ≤ 0 by linarith).trans (pow_pos two_pos _).le
    · rw [pow_succ]
      linarith
  refine ⟨nearest v, exact_ofRat hsize, nearest_nonneg hv, ?_⟩
  rw [Nat.add_comm]
  exact (near_nearest hnormal).trans h

theorem Approx.mul (hx : Approx m x p) (hy : Approx n y q) (hp : 0 ≤ p) (hsteps : m + n ≤ 2 ^ 51)
    (hrange : Moderate (p * q)) : Approx (m + n + 1) (x.mul y) (p * q) := by
  obtain ⟨v, hv, hv0, hvp⟩ := hx
  obtain ⟨w, hw, hw0, hwq⟩ := hy
  rw [mul_eq hv hw]
  exact approx_ofRat (hvp.mul hwq hw0 hp) hsteps hrange

theorem Approx.div (hx : Approx m x p) (hy : Approx n y q) (hp : 0 ≤ p) (hq : 0 < q)
    (hsteps : m + n ≤ 2 ^ 51) (hrange : Moderate (p / q)) : Approx (m + n + 1) (x.div y) (p / q) := by
  obtain ⟨v, hv, hv0, hvp⟩ := hx
  obtain ⟨w, hw, hw0, hwq⟩ := hy
  have hwpos : 0 < w := by
    have hhalf := (half_le_of_near hwq (by omega) hq.le).1
    linarith
  rw [div_eq hv hw hwpos.ne']
  exact approx_ofRat (hvp.div hwq hp hwpos hq) hsteps hrange

theorem Approx.weaken (h : Approx m x q) (hmn : m ≤ n) (hq : 0 ≤ q) : Approx n x q := by
  obtain ⟨v, hv, hv0, hnear⟩ := h
  exact ⟨v, hv, hv0, hnear.weaken hmn hv0 hq⟩

/-- A quotient of whole numbers that are not too large. -/
theorem moderate_natCast_div {a b : ℕ} (ha : a < 2 ^ 200) (hb : 0 < b) (hb' : b ≤ 2 ^ 200) :
    Moderate ((a : ℚ) / b) := by
  have hbpos : (0 : ℚ) < b := by exact_mod_cast hb
  rcases Nat.eq_zero_or_pos a with rfl | hpos
  · exact .inl (by simp)
  · refine .inr ⟨?_, ?_⟩
    · have hone : (1 : ℚ) ≤ a := by exact_mod_cast hpos
      have hle : (b : ℚ) ≤ 2 ^ 200 := by exact_mod_cast hb'
      rw [zpow_neg, zpow_ofNat, inv_eq_one_div]
      exact div_le_div₀ (by linarith) hone hbpos hle
    · have hone : (1 : ℚ) ≤ b := by exact_mod_cast hb
      have hlt : (a : ℚ) < 2 ^ 200 := by exact_mod_cast ha
      exact (div_le_self (Nat.cast_nonneg a) hone).trans_lt hlt

theorem abs_nearest (q : ℚ) : |nearest q| = nearest |q| := by
  rcases le_total 0 q with h | h
  · rw [abs_of_nonneg h, abs_of_nonneg (nearest_nonneg h)]
  · have hneg := nearest_nonneg (neg_nonneg.mpr h)
    rw [nearest_neg] at hneg
    rw [abs_of_nonpos h, abs_of_nonpos (by linarith), nearest_neg]

/-- The sign does not matter to the rounding. -/
theorem approx_abs_ofRat (h : Moderate |q|) : Approx 1 (ofRat q).abs |q| := by
  obtain ⟨w, hw, hw0, hnear⟩ := approx_ofRat (Near.refl |q|) (Nat.zero_le _) h
  have hsize : |q| < 2 ^ 1023 := by
    apply lt_overflow_of_le (k := 200) (by norm_num)
    rcases h with h | ⟨-, h⟩
    · rw [h]
      exact (pow_pos two_pos _).le
    · exact h.le
  rw [exact_ofRat (by rwa [abs_abs]), Option.some_inj] at hw
  refine ⟨w, ?_, hw0, hnear⟩
  rw [exact_abs (exact_ofRat hsize), abs_nearest, hw]

/-- A whole number of 53 bits is exact. -/
theorem exact_ofRat_intCast {n : ℤ} (h : |n| ≤ 2 ^ 53) : (ofRat n).exact = some (n : ℚ) := by
  have hsize : |(n : ℚ)| < 2 ^ 1023 := by
    exact lt_overflow_of_le (k := 53) (by norm_num) (by exact_mod_cast h)
  rw [exact_ofRat hsize, nearest_intCast h]

theorem approx_abs_intCast {n : ℤ} (h : |n| ≤ 2 ^ 53) : Approx 0 (ofRat n).abs |(n : ℚ)| :=
  ⟨_, exact_abs (exact_ofRat_intCast h), abs_nonneg _, Near.refl _⟩

theorem approx_natCast {n : ℕ} (h : n ≤ 2 ^ 53) : Approx 0 (ofRat n) n := by
  have hexact := exact_ofRat_intCast (n := n) (by rw [Nat.abs_cast]; exact_mod_cast h)
  rw [Int.cast_natCast] at hexact
  exact ⟨_, hexact, n.cast_nonneg, Near.refl _⟩

/-- **No quotient of an absolute value** by a positive number is below zero. -/
theorem abs_div_not_lt (x : Double) (hy : y.exact = some q) (hq : 0 < q) :
    (x.abs.div y).lt 0 = false := by
  obtain ⟨r, hr, rfl, rfl⟩ := exact_eq_some.mp hy
  cases x with
  | finite v hv =>
    have hnonneg : 0 ≤ |v.value| / r.value := div_nonneg (abs_nonneg _) hq.le
    show (if r.value ≠ 0 then ofRat (|v.value| / r.value) else _).lt 0 = false
    rw [if_pos hq.ne', ofRat]
    split_ifs with hbounded
    · exact decide_eq_false (not_lt.mpr (nearest_nonneg hnonneg))
    · exact decide_eq_false (not_lt.mpr hnonneg)
  | infinite negative =>
    show (false != decide (r.value < 0)) = false
    rw [decide_eq_false (not_lt.mpr hq.le)]
    rfl
  | nan => rfl

end Approx

/-! ### Plain decimals -/

section Plain

variable {cs : List Char}

/-- Digits, signs and points have no upper case. -/
theorem toLower_of_isDecimalChar {c : Char} (h : IsDecimalChar c) : c.toLower = c := by
  rcases h with hdigit | rfl | rfl
  · have hle : c.val ≤ 57 := (Bool.and_eq_true_iff.mp hdigit).2 |> of_decide_eq_true
    have hnot : ¬(c.val ≥ 'A'.val ∧ c.val ≤ 'Z'.val) := by
      rintro ⟨hupper, -⟩
      exact absurd (UInt32.le_trans hupper hle) (by decide)
    exact dif_neg hnot
  · rfl
  · rfl

theorem mem_signAndRest {c : Char} (h : c ∈ (signAndRest cs).2) : c ∈ cs := by
  revert h
  unfold signAndRest
  split
  · exact List.mem_cons_of_mem _
  · exact List.mem_cons_of_mem _
  · exact id

/-- **A plain decimal** reads as the double nearest to it. -/
theorem parse_plain (h : ∀ c ∈ cs, IsDecimalChar c) :
    parse (String.ofList cs) = (parseDecimal (String.ofList cs)).map ofRat := by
  have hlower : cs.map Char.toLower = cs :=
    (List.map_congr_left fun c hc => toLower_of_isDecimalChar (h c hc)).trans (List.map_id cs)
  have hword : ∀ {word : List Char}, 'n' ∈ word → (signAndRest cs).2 ≠ word := by
    rintro _ hmem rfl
    exact absurd (h 'n' (mem_signAndRest hmem)) (by decide)
  have hinf : (signAndRest cs).2 ≠ "inf".toList := hword (by decide)
  have hinfinity : (signAndRest cs).2 ≠ "infinity".toList := hword (by decide)
  have hnan : (signAndRest cs).2 ≠ "nan".toList := hword (by decide)
  have hexponent : splitOnce 'e' cs = none := by
    rw [Option.eq_none_iff_forall_not_mem]
    rintro ⟨before, after⟩ hsplit
    have heq := (splitOnce_eq_some_iff.mp hsplit).1
    exact absurd (h 'e' (by simp [heq])) (by decide)
  rw [parse, String.toList_ofList, hlower]
  simp only [hinf, hinfinity, hnan, or_self, if_false, parseNumber, hexponent]

theorem toList_toString (n : ℤ) :
    (toString n).toList = decimalChars (decide (n < 0)) (decimal n.natAbs).toList [] := by
  cases n with
  | ofNat n =>
    show (decimal n).toList = _
    simp [decimalChars]
  | negSucc n =>
    rw [toList_negSucc]
    simp [decimalChars, Int.negSucc_lt_zero]

/-- **A printed whole number** reads as the double nearest to it. -/
theorem parse_toString (n : ℤ) : parse (toString n) = some (ofRat n) := by
  have hchars : ∀ c ∈ (toString n).toList, IsDecimalChar c := by
    intro c hc
    rw [toList_toString, decimalChars, if_pos rfl, List.append_nil, List.mem_append] at hc
    rcases hc with hc | hc
    · split at hc
      · exact .inr (.inl (List.mem_singleton.mp hc))
      · cases hc
    · exact .inl (isDigit_of_mem_decimal hc)
  have hvalue := parseDecimal_decimalChars (decide (n < 0)) (isDigits_decimal n.natAbs)
    (show AllDigits [] by simp [AllDigits])
  rw [← toList_toString, List.append_nil, ofDigitChars_decimal, List.length_nil, pow_zero, div_one,
    sign_mul_natAbs] at hvalue
  have hparse := parse_plain hchars
  rw [hvalue, String.ofList_toList] at hparse
  exact hparse

end Plain

example : (parse "5.1E7").bind exact = some 51000000 := by decide +kernel

example : parse "-inf" = some (.infinite true) := by decide +kernel

end Double

end Library.Binary64
