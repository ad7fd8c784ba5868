import Mathlib.Data.Rat.Floor
import Mathlib.Tactic.Linarith
import WattWarden.Library.Numerals

/-!
# Floating-point operations without laws

Programs that compute with machine floats are written once over `FloatLike F`, a set of
operations with no axioms: what is proved for every `F` holds whatever the rounding.  The rational
numbers are one instance, in which every operation is exact.

* `FloatLike` — arithmetic, rounding, saturating casts to integers, comparisons, parsing;
* the `ℚ` instance — exact arithmetic, halves rounded away from zero, decimal numerals with an
  optional fraction;
* `roundHalfEven` — halves rounded to the even integer;
* `roundHalfAway_mono`, `roundHalfEven_mono`, `toUnsigned_mono` and their bounds — **PROVED**: exact
  rounding and truncation are monotone and keep integers.
-/

namespace Library.Floats

open Library.Numerals

/-- The operations a program uses on its floats. -/
class FloatLike (F : Type) extends Add F, Sub F, Mul F, Div F, Min F, NatCast F,
    OfScientific F where
  round : F → F
  ceil : F → F
  /-- `as` to an unsigned type with `bound` values: truncated, and saturated at both ends. -/
  toUnsigned : ℕ → F → ℕ
  ge : F → F → Bool
  lt : F → F → Bool
  parse : String → Option F

/-- A decimal numeral with an optional sign and an optional fraction. -/
def parseDecimal (s : String) : Option ℚ :=
  let (negative, digits) := match s.toList with
    | '-' :: cs => (true, cs)
    | '+' :: cs => (false, cs)
    | cs => (false, cs)
  let whole := digits.takeWhile Char.isDigit
  let fraction := match digits.drop whole.length with
    | '.' :: cs => some cs
    | [] => some []
    | _ => none
  fraction.bind fun cs =>
    if whole ++ cs ≠ [] ∧ cs.all Char.isDigit then
      let value : ℚ := (Nat.ofDigitChars 10 (whole ++ cs) 0 : ℚ) / 10 ^ cs.length
      some (if negative then -value else value)
    else none

/-- Halves away from zero. -/
def roundHalfAway (q : ℚ) : ℚ :=
  if 0 ≤ q then ((q + 1 / 2).floor : ℚ) else -((-q + 1 / 2).floor : ℚ)

/-- Halves to the even integer. -/
def roundHalfEven (q : ℚ) : ℤ :=
  let below := ⌊q⌋
  let rest := q - below
  if rest < 1 / 2 then below
  else if 1 / 2 < rest then below + 1
  else if below % 2 = 0 then below else below + 1

instance : FloatLike ℚ where
  round := roundHalfAway
  ceil q := (q.ceil : ℚ)
  toUnsigned bound q := min q.floor.toNat (bound - 1)
  ge p q := decide (q ≤ p)
  lt p q := decide (p < q)
  parse := parseDecimal

/-! ### Exact rounding and truncation -/

theorem roundHalfAway_of_nonneg {q : ℚ} (h : 0 ≤ q) :
    roundHalfAway q = (⌊q + 1 / 2⌋ : ℚ) := by
  rw [roundHalfAway, if_pos h]
  rfl

@[simp] theorem roundHalfAway_natCast (n : ℕ) : roundHalfAway (n : ℚ) = n := by
  rw [roundHalfAway_of_nonneg n.cast_nonneg]
  have hfloor : ⌊(n : ℚ) + 1 / 2⌋ = (n : ℤ) := by
    rw [Int.floor_eq_iff]
    constructor
    · push_cast
      linarith
    · push_cast
      linarith
  rw [hfloor]
  rfl

theorem roundHalfAway_mono {p q : ℚ} (hp : 0 ≤ p) (h : p ≤ q) :
    roundHalfAway p ≤ roundHalfAway q := by
  rw [roundHalfAway_of_nonneg hp, roundHalfAway_of_nonneg (hp.trans h)]
  have hfloor : ⌊p + 1 / 2⌋ ≤ ⌊q + 1 / 2⌋ := Int.floor_le_floor (by linarith)
  exact_mod_cast hfloor

theorem roundHalfAway_nonneg {q : ℚ} (h : 0 ≤ q) : 0 ≤ roundHalfAway q := by
  have hmono := roundHalfAway_mono le_rfl h
  have hzero := roundHalfAway_natCast 0
  rw [Nat.cast_zero] at hzero
  rwa [hzero] at hmono

/-- Rounding does not pass an integer. -/
theorem roundHalfAway_le {q : ℚ} {n : ℕ} (h : q ≤ n) : roundHalfAway q ≤ n := by
  by_cases hq : 0 ≤ q
  · have hmono := roundHalfAway_mono hq h
    rwa [roundHalfAway_natCast] at hmono
  · rw [roundHalfAway, if_neg hq]
    have hfloor : 0 ≤ ⌊-q + 1 / 2⌋ := Int.floor_nonneg.mpr (by linarith)
    have hcast : (0 : ℚ) ≤ ((-q + 1 / 2).floor : ℚ) := by exact_mod_cast hfloor
    have hn : (0 : ℚ) ≤ n := n.cast_nonneg
    linarith

/-- Below an integer: nearer to a smaller one, or halfway and the integer is odd. -/
theorem roundHalfEven_lt_iff {q : ℚ} {n : ℤ} :
    roundHalfEven q < n ↔ q < n - 1 / 2 ∨ q = n - 1 / 2 ∧ n % 2 = 1 := by
  have hle := Int.floor_le q
  have hlt := Int.lt_floor_add_one q
  rw [roundHalfEven]
  rcases lt_trichotomy ⌊q⌋ (n - 1) with hbelow | hat | habove
  · have hround : ⌊q⌋ + 1 < n := by omega
    have hcast : (⌊q⌋ : ℚ) + 1 ≤ n - 1 := by exact_mod_cast (show ⌊q⌋ + 1 ≤ n - 1 by omega)
    refine iff_of_true ?_ (.inl (by linarith))
    split_ifs <;> omega
  · have hcast : (⌊q⌋ : ℚ) = n - 1 := by exact_mod_cast hat
    rw [hcast, hat]
    split_ifs with hless hmore heven
    · exact iff_of_true (by omega) (.inl (by linarith))
    · refine iff_of_false (by omega) ?_
      rintro (h | ⟨h, -⟩) <;> linarith
    · exact iff_of_true (by omega) (.inr ⟨by linarith, by omega⟩)
    · refine iff_of_false (by omega) ?_
      rintro (h | ⟨-, h⟩)
      · linarith
      · omega
  · have hround : n ≤ ⌊q⌋ := by omega
    have hcast : (n : ℚ) ≤ ⌊q⌋ := by exact_mod_cast hround
    refine iff_of_false ?_ ?_
    · split_ifs <;> omega
    · rintro (h | ⟨h, -⟩) <;> linarith

@[simp] theorem roundHalfEven_intCast (n : ℤ) : roundHalfEven (n : ℚ) = n := by
  simp [roundHalfEven]

theorem roundHalfEven_mono {p q : ℚ} (h : p ≤ q) : roundHalfEven p ≤ roundHalfEven q := by
  by_contra hlt
  rw [not_le, roundHalfEven_lt_iff] at hlt
  have hself := lt_irrefl (roundHalfEven p)
  rw [roundHalfEven_lt_iff] at hself
  apply hself
  rcases hlt with hless | ⟨heq, hodd⟩
  · exact .inl (by linarith)
  · rcases h.lt_or_eq with hless | hsame
    · exact .inl (by linarith)
    · exact .inr ⟨by linarith, hodd⟩

theorem abs_sub_roundHalfEven_le (q : ℚ) : |q - roundHalfEven q| ≤ 1 / 2 := by
  have hle := Int.floor_le q
  have hlt := Int.lt_floor_add_one q
  rw [abs_le, roundHalfEven]
  split_ifs
  · constructor <;> linarith
  · push_cast
    constructor <;> linarith
  · constructor <;> linarith
  · push_cast
    constructor <;> linarith

theorem ceil_mono {p q : ℚ} (h : p ≤ q) : FloatLike.ceil p ≤ FloatLike.ceil q := by
  have hceil : p.ceil ≤ q.ceil := Rat.ceil_le_iff.mpr (h.trans Rat.le_ceil)
  exact Int.cast_le.mpr hceil

section Truncation

variable {bound n : ℕ} {p q : ℚ}

theorem toUnsigned_eq (bound : ℕ) (q : ℚ) :
    FloatLike.toUnsigned bound q = min ⌊q⌋.toNat (bound - 1) := rfl

theorem toUnsigned_mono (bound : ℕ) (h : p ≤ q) :
    FloatLike.toUnsigned bound p ≤ FloatLike.toUnsigned bound q := by
  rw [toUnsigned_eq, toUnsigned_eq]
  have hfloor : ⌊p⌋.toNat ≤ ⌊q⌋.toNat := Int.toNat_le_toNat (Int.floor_le_floor h)
  exact min_le_min_right _ hfloor

theorem toUnsigned_natCast (h : n < bound) : FloatLike.toUnsigned bound (n : ℚ) = n := by
  rw [toUnsigned_eq, Int.floor_natCast, Int.toNat_natCast]
  exact min_eq_left (by omega)

theorem le_toUnsigned (hn : n < bound) (h : (n : ℚ) ≤ q) : n ≤ FloatLike.toUnsigned bound q := by
  have hmono := toUnsigned_mono bound h
  rwa [toUnsigned_natCast hn] at hmono

theorem toUnsigned_le_of_le (hn : n < bound) (h : q ≤ (n : ℚ)) :
    FloatLike.toUnsigned bound q ≤ n := by
  have hmono := toUnsigned_mono bound h
  rwa [toUnsigned_natCast hn] at hmono

end Truncation

example : parseDecimal "0.52" = some (13 / 25) := by decide +kernel

end Library.Floats
