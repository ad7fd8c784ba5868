import WattWarden.Library.DigitRuns
import WattWarden.Platform.MacParse

/-!
# The percentage before the sign

`mac_battery_percent` keeps the digits of the three bytes before the first `%`; the percentage is the
number that ends there.  Both are followed from the sign backwards.

* `runBefore` / `percentBeforeSign` — the maximal run of digits that ends at the sign, and its value
  up to 100;
* `WindowShowsRun` — the three bytes show that value;
* `macBatteryPercent_eq_iff` — **PROVED**: the parser reads the number before the sign exactly when
  the window shows it.
-/

namespace WattWarden

open Library.Numerals Library.TextSearch Library.DigitRuns

/-- The value of the digits, given from the last to the first. -/
def backwardsValue (bs : List UInt8) : ℕ := Nat.ofDigitChars 10 (bs.reverse.map byteChar) 0

/-- The bytes before the first `%`, from the sign backwards. -/
def beforeSign (pmsetBatt : String) : Option (List UInt8) :=
  (splitOnce percentSign (bytes pmsetBatt)).map fun parts => parts.1.reverse

/-- The maximal run of digits that ends at the sign, from the last digit to the first. -/
def runBefore (back : List UInt8) : List UInt8 := back.takeWhile isAsciiDigit

/-- The number before the first `%`, up to 100; 100 when there is none. -/
def percentBeforeSign (pmsetBatt : String) : ℕ :=
  match beforeSign pmsetBatt with
  | some back =>
      if runBefore back = [] then 100 else min 100 (backwardsValue (runBefore back))
  | none => 100

/-- What three bytes before the sign show of the run that ends there: of an empty run, no digit; of
a single digit, none but a zero left of the byte before it; of a longer run, its last three digits,
which are its value or at least 100 when its value is. -/
def WindowShowsRun (back : List UInt8) : Prop :=
  if runBefore back = [] then ∀ b ∈ back.take 3, isAsciiDigit b = false
  else if (runBefore back).length = 1 then ∀ b ∈ back[2]?, isAsciiDigit b = true → b = 48
  else backwardsValue (runBefore back) < 1000 ∨ 100 ≤ backwardsValue (runBefore back) % 1000

/-! ### Values from the last digit on -/

@[simp] theorem backwardsValue_nil : backwardsValue [] = 0 := rfl

@[simp] theorem backwardsValue_cons (b : UInt8) (bs : List UInt8) :
    backwardsValue (b :: bs) = 10 * backwardsValue bs + digitValue (byteChar b) := by
  rw [backwardsValue, List.reverse_cons, List.map_append, List.map_singleton, ofDigitChars_concat,
    backwardsValue]

theorem toNat_byteChar (b : UInt8) : (byteChar b).toNat = b.toNat := by
  have hb : b.toNat < 256 := b.toNat_lt
  have hvalid : b.toNat.isValidChar := .inl (by omega)
  rw [byteChar, Char.ofNat, dif_pos hvalid]
  rfl

theorem isAsciiDigit_iff (b : UInt8) : isAsciiDigit b = true ↔ 48 ≤ b.toNat ∧ b.toNat ≤ 57 := by
  simp [isAsciiDigit, UInt8.le_iff_toNat_le]

theorem isDigit_byteChar {b : UInt8} (h : isAsciiDigit b = true) : (byteChar b).isDigit = true := by
  have hchar := toNat_byteChar b
  rw [isAsciiDigit_iff] at h
  simp only [Char.isDigit, Bool.and_eq_true, decide_eq_true_eq, UInt32.le_iff_toNat_le]
  rw [← hchar] at h
  exact h

theorem digit_le {b : UInt8} (h : isAsciiDigit b = true) : digitValue (byteChar b) ≤ 9 :=
  digitValue_le (isDigit_byteChar h)

theorem digit_eq_zero_iff {b : UInt8} (h : isAsciiDigit b = true) :
    digitValue (byteChar b) = 0 ↔ b = 48 := by
  have hvalue : digitValue (byteChar b) = b.toNat - 48 := by rw [digitValue, toNat_byteChar]; rfl
  rw [isAsciiDigit_iff] at h
  rw [hvalue, UInt8.toNat_inj.symm]
  show b.toNat - 48 = 0 ↔ b.toNat = 48
  omega

/-! ### The window -/

/-- The digits of the three bytes before the sign, from the last to the first. -/
def windowDigits (back : List UInt8) : List UInt8 := (back.take 3).filter isAsciiDigit

theorem windowDigits_reverse (before : List UInt8) :
    (before.drop (before.length - 3)).filter isAsciiDigit = (windowDigits before.reverse).reverse := by
  rw [windowDigits, List.take_reverse, List.filter_reverse, List.reverse_reverse]

/-- The value of at most three digits. -/
theorem backwardsValue_lt (bs : List UInt8) (hdigits : ∀ b ∈ bs, isAsciiDigit b = true) :
    backwardsValue bs < 10 ^ bs.length := by
  induction bs with
  | nil => simp
  | cons b bs ih =>
    have hb := digit_le (hdigits b List.mem_cons_self)
    have hbs := ih fun c hc => hdigits c (List.mem_cons_of_mem b hc)
    rw [backwardsValue_cons, List.length_cons, pow_succ]
    omega

/-- What the parser reads from the window. -/
theorem macBatteryPercent_of_sign {pmsetBatt : String} {back : List UInt8}
    (h : beforeSign pmsetBatt = some back) :
    macBatteryPercent pmsetBatt =
      if windowDigits back = [] then 100 else min 100 (backwardsValue (windowDigits back)) := by
  obtain ⟨⟨before, after⟩, hsplit, rfl⟩ := Option.map_eq_some_iff.mp h
  obtain ⟨htext, -⟩ := splitOnce_eq_some_iff.mp hsplit
  have hidx : (bytes pmsetBatt).findIdx? (· = percentSign) = some before.length := by
    rw [findIdx?_eq_splitOnce, hsplit]
    rfl
  have hwindow : (((bytes pmsetBatt).take before.length).drop (before.length - 3)).filter isAsciiDigit
      = (windowDigits before.reverse).reverse := by
    rw [htext, List.take_left, windowDigits_reverse]
  have hdigits : ∀ b ∈ windowDigits before.reverse, isAsciiDigit b = true :=
    fun b hb => (List.mem_filter.mp hb).2
  have hlength : (windowDigits before.reverse).length ≤ 3 :=
    (List.length_filter_le _ _).trans (List.length_take_le 3 before.reverse)
  simp only [macBatteryPercent, hidx, hwindow]
  split_ifs with hempty
  · rw [hempty]
    rfl
  · have hne : (windowDigits before.reverse).reverse.map byteChar ≠ [] := by simpa using hempty
    have hchars : ∀ c ∈ (windowDigits before.reverse).reverse.map byteChar, c.isDigit = true := by
      intro c hc
      obtain ⟨b, hb, rfl⟩ := List.mem_map.mp hc
      exact isDigit_byteChar (hdigits b (List.mem_reverse.mp hb))
    have hsmall :
        Nat.ofDigitChars 10 ((windowDigits before.reverse).reverse.map byteChar) 0 < 2 ^ 32 := by
      have hpow : 10 ^ (windowDigits before.reverse).length ≤ 10 ^ 3 :=
        Nat.pow_le_pow_right (by omega) hlength
      have hvalue := backwardsValue_lt _ hdigits
      rw [backwardsValue] at hvalue
      omega
    rw [parseUnsigned_of_digits hne hchars hsmall]
    exact Nat.min_comm _ _

/-- Both readings agree. -/
def SamePercent (back : List UInt8) : Prop :=
  (if windowDigits back = [] then 100 else min 100 (backwardsValue (windowDigits back)))
    = if runBefore back = [] then 100 else min 100 (backwardsValue (runBefore back))

/-- No digit at the sign: any digit in the window is a number below 100. -/
theorem samePercent_of_not_digit {a : UInt8} {rest : List UInt8} (ha : isAsciiDigit a = false) :
    SamePercent (a :: rest) ↔ WindowShowsRun (a :: rest) := by
  have hrun : runBefore (a :: rest) = [] := by simp [runBefore, ha]
  have hwindow : windowDigits (a :: rest) = (rest.take 2).filter isAsciiDigit := by
    simp [windowDigits, ha]
  have hnone : windowDigits (a :: rest) = [] ↔ ∀ b ∈ (a :: rest).take 3, isAsciiDigit b = false := by
    simp [windowDigits, List.filter_eq_nil_iff]
  have hsmall : backwardsValue (windowDigits (a :: rest)) < 100 := by
    have hdigits : ∀ b ∈ windowDigits (a :: rest), isAsciiDigit b = true :=
      fun b hb => (List.mem_filter.mp hb).2
    have hlength : (windowDigits (a :: rest)).length ≤ 2 := by
      rw [hwindow]
      exact (List.length_filter_le _ _).trans (List.length_take_le 2 rest)
    have hpow : 10 ^ (windowDigits (a :: rest)).length ≤ 10 ^ 2 :=
      Nat.pow_le_pow_right (by omega) hlength
    have hvalue := backwardsValue_lt _ hdigits
    omega
  rw [SamePercent, WindowShowsRun, if_pos hrun, if_pos hrun, ← hnone]
  split_ifs with hempty
  · exact iff_of_true rfl hempty
  · exact iff_of_false (by omega) hempty

/-- A single digit at the sign: the byte two before it must not add to it. -/
theorem samePercent_of_digit {a : UInt8} {rest : List UInt8} (ha : isAsciiDigit a = true)
    (hrest : ∀ b ∈ rest.head?, isAsciiDigit b = false) :
    SamePercent (a :: rest) ↔ WindowShowsRun (a :: rest) := by
  have hvalue := digit_le ha
  have hrun : runBefore (a :: rest) = [a] := by
    cases rest with
    | nil => simp [runBefore, ha]
    | cons b rest => simp [runBefore, ha, hrest b rfl]
  have hshows : WindowShowsRun (a :: rest) ↔ ∀ c ∈ (a :: rest)[2]?, isAsciiDigit c = true → c = 48 := by
    simp [WindowShowsRun, hrun]
  rw [hshows, SamePercent, hrun]
  match rest with
  | [] => simp [windowDigits, ha]
  | [b] => simp [windowDigits, ha, hrest b rfl]
  | b :: c :: rest =>
    cases hc : isAsciiDigit c with
    | false => simp [windowDigits, ha, hrest b rfl, hc]
    | true =>
      have hle := digit_le hc
      have hwindow : windowDigits (a :: b :: c :: rest) = [a, c] := by
        simp [windowDigits, ha, hrest b rfl, hc]
      have hthird : (∀ d ∈ (a :: b :: c :: rest)[2]?, isAsciiDigit d = true → d = 48) ↔
          digitValue (byteChar c) = 0 := by
        simp [hc, digit_eq_zero_iff hc]
      rw [hthird, hwindow, if_neg (List.cons_ne_nil a _), if_neg (List.cons_ne_nil a _)]
      simp only [backwardsValue_cons, backwardsValue_nil]
      omega

/-- Two digits at the sign: the window shows the last three digits of the run. -/
theorem samePercent_of_two_digits {a b : UInt8} {rest : List UInt8} (ha : isAsciiDigit a = true)
    (hb : isAsciiDigit b = true) :
    SamePercent (a :: b :: rest) ↔ WindowShowsRun (a :: b :: rest) := by
  have hvalue := digit_le ha
  have hvalue' := digit_le hb
  have hshows : WindowShowsRun (a :: b :: rest) ↔
      backwardsValue (runBefore (a :: b :: rest)) < 1000 ∨
        100 ≤ backwardsValue (runBefore (a :: b :: rest)) % 1000 := by
    simp [WindowShowsRun, runBefore, ha, hb]
  have htwo : runBefore (a :: b :: rest) = [a, b] → windowDigits (a :: b :: rest) = [a, b] →
      (SamePercent (a :: b :: rest) ↔ backwardsValue (runBefore (a :: b :: rest)) < 1000 ∨
        100 ≤ backwardsValue (runBefore (a :: b :: rest)) % 1000) := by
    intro hrun hwindow
    have hsmall : backwardsValue [a, b] < 10 ^ 2 := backwardsValue_lt [a, b] (by simp [ha, hb])
    rw [SamePercent, hrun, hwindow]
    exact iff_of_true rfl (.inl (hsmall.trans (by decide)))
  rw [hshows]
  match rest with
  | [] => exact htwo (by simp [runBefore, ha, hb]) (by simp [windowDigits, ha, hb])
  | c :: rest =>
    cases hc : isAsciiDigit c with
    | false => exact htwo (by simp [runBefore, ha, hb, hc]) (by simp [windowDigits, ha, hb, hc])
    | true =>
      have hvalue'' := digit_le hc
      have hwindow : windowDigits (a :: b :: c :: rest) = [a, b, c] := by
        simp [windowDigits, ha, hb, hc]
      have hrun : runBefore (a :: b :: c :: rest) = a :: b :: c :: runBefore rest := by
        simp [runBefore, ha, hb, hc]
      rw [SamePercent, hwindow, hrun, if_neg (List.cons_ne_nil a _), if_neg (List.cons_ne_nil a _)]
      simp only [backwardsValue_cons, backwardsValue_nil]
      omega

/-- **The window shows the run** exactly when both readings agree. -/
theorem samePercent_iff (back : List UInt8) : SamePercent back ↔ WindowShowsRun back := by
  match back with
  | [] => simp [SamePercent, WindowShowsRun, windowDigits, runBefore]
  | a :: rest =>
    cases ha : isAsciiDigit a with
    | false => exact samePercent_of_not_digit ha
    | true =>
      match rest with
      | [] => exact samePercent_of_digit ha (by simp)
      | b :: rest =>
        cases hb : isAsciiDigit b with
        | false => exact samePercent_of_digit ha (by simp [hb])
        | true => exact samePercent_of_two_digits ha hb

/-- **The parser reads the number before the sign** exactly when there is no sign or the window of
three bytes shows the run of digits that ends there. -/
theorem macBatteryPercent_eq_iff (pmsetBatt : String) :
    macBatteryPercent pmsetBatt = percentBeforeSign pmsetBatt ↔
      ∀ back ∈ beforeSign pmsetBatt, WindowShowsRun back := by
  cases hsign : beforeSign pmsetBatt with
  | none =>
    have hidx : (bytes pmsetBatt).findIdx? (· = percentSign) = none := by
      rw [findIdx?_eq_splitOnce, Option.map_eq_none_iff]
      exact Option.map_eq_none_iff.mp hsign
    simp [macBatteryPercent, percentBeforeSign, hidx, hsign]
  | some back =>
    have hiff := samePercent_iff back
    rw [SamePercent] at hiff
    rw [macBatteryPercent_of_sign hsign, percentBeforeSign, hsign]
    simpa using hiff

/-- A digit left of a space counts: `1 8%` reads as 18. -/
theorem macBatteryPercent_ne_spaced : macBatteryPercent "1 8%" ≠ percentBeforeSign "1 8%" := by
  decide

end WattWarden
