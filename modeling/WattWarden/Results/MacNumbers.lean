import WattWarden.Library.DigitRuns
import WattWarden.Platform.MacParse

/-!
# What the macOS parsers look up

The lookups of `mac_health` by what stands in the text: a number after a key and separators, and a
quoted text after a key.  The numbers of a text are exact.

* `IsNumeral` / `NumberAt` — a decimal numeral, and the longest one a text begins with;
* `numeralAt_spec` — **PROVED**: the hand-written scan finds the longest numeral;
* `KeyNumber` / `macNumberOpt_iff` — **PROVED**: the number after the first occurrence of a key, read
  as the nearest double;
* `KeyQuoted` / `macStringAfter_iff` — **PROVED**: the quoted text after it, on whatever line.
-/

namespace WattWarden

open Library.Binary64 Library.DigitRuns Library.Floats Library.Numerals Library.Tenths
  Library.TextSearch

/-! ### Numerals -/

/-- The dot and the digits of a fraction that has any. -/
def fractionText (frac : List Char) : List Char := if frac = [] then [] else '.' :: frac

/-- An optional minus, digits, and optionally a dot with digits. -/
def IsNumeral (num : List Char) : Prop :=
  ∃ sign whole frac, (sign = [] ∨ sign = ['-']) ∧ IsDigits whole ∧ AllDigits frac ∧
    num = sign ++ whole ++ fractionText frac

/-- No numeral at the front of the text is longer. -/
def Longest (text num : List Char) : Prop :=
  ∀ num' after', text = num' ++ after' → IsNumeral num' → num'.length ≤ num.length

/-- The longest numeral the text begins with denotes `x`. -/
def NumberAt (text : List Char) (x : ℚ) : Prop :=
  ∃ num after, text = num ++ after ∧ IsNumeral num ∧ parseDecimal (String.ofList num) = some x ∧
    Longest text num

/-! ### The scan for a number -/

/-- The sign the scan skips. -/
def signOf (cs : List Char) : List Char := if cs.head? = some '-' then ['-'] else []

/-- The digits after a dot, `rest` being what follows the whole part. -/
def fracOf (rest : List Char) : List Char :=
  if rest.head? = some '.' then rest.tail.takeWhile Char.isDigit else []

/-- The numeral of the scan, after the sign. -/
def unsignedNumeral (unsigned : List Char) : List Char :=
  unsigned.takeWhile Char.isDigit ++ fractionText (fracOf (unsigned.dropWhile Char.isDigit))

theorem numeralAt_eq (cs : List Char) :
    numeralAt cs =
      if (cs.drop (signOf cs).length).takeWhile Char.isDigit = [] then none
      else some (signOf cs ++ unsignedNumeral (cs.drop (signOf cs).length)) := by
  rw [unsignedNumeral, ← List.append_assoc]
  rfl

theorem sign_append (cs : List Char) : signOf cs ++ cs.drop (signOf cs).length = cs := by
  rw [signOf]
  split_ifs with h
  · cases cs with
    | nil => cases h
    | cons c cs =>
      obtain rfl : c = '-' := Option.some.inj h
      rfl
  · rfl

theorem allDigits_fracOf (rest : List Char) : AllDigits (fracOf rest) := by
  rw [fracOf]
  split_ifs
  · exact allDigits_takeWhile _
  · exact fun _ hc => absurd hc List.not_mem_nil

/-- The numeral of the scan is at the front of the text. -/
theorem unsignedNumeral_prefix (unsigned : List Char) : unsignedNumeral unsigned <+: unsigned := by
  have hsplit := List.takeWhile_append_dropWhile (p := Char.isDigit) (l := unsigned)
  have hrest : fractionText (fracOf (unsigned.dropWhile Char.isDigit))
      <+: unsigned.dropWhile Char.isDigit := by
    cases hdrop : unsigned.dropWhile Char.isDigit with
    | nil => simp [fracOf, fractionText]
    | cons d ds =>
      by_cases hd : d = '.'
      · subst hd
        simp only [fracOf, List.head?_cons, if_true, List.tail_cons, fractionText]
        split_ifs
        · exact List.nil_prefix
        · exact List.cons_prefix_cons.mpr ⟨rfl, List.takeWhile_prefix _⟩
      · simp [fracOf, hd, fractionText]
  obtain ⟨after, hafter⟩ := hrest
  exact ⟨after, by rw [unsignedNumeral, List.append_assoc, hafter, hsplit]⟩

/-- No numeral at the front is longer. -/
theorem length_le_unsignedNumeral {whole frac : List Char} (hwhole : AllDigits whole)
    (hfrac : AllDigits frac) (after : List Char) :
    (whole ++ fractionText frac).length
      ≤ (unsignedNumeral (whole ++ fractionText frac ++ after)).length := by
  by_cases hempty : frac = []
  · subst hempty
    rw [unsignedNumeral, show fractionText [] = [] from rfl, List.append_nil,
      List.takeWhile_append_of_pos hwhole]
    simp only [List.length_append]
    omega
  · have htext : fractionText frac = '.' :: frac := if_neg hempty
    have hstops : StopsDigits ('.' :: (frac ++ after)) := stopsDigits_cons (by decide)
    have hlonger : frac.length ≤ (fracOf ('.' :: (frac ++ after))).length := by
      show frac.length ≤ ((frac ++ after).takeWhile Char.isDigit).length
      rw [List.takeWhile_append_of_pos hfrac, List.length_append]
      omega
    have hne : fracOf ('.' :: (frac ++ after)) ≠ [] := by
      intro hnil
      rw [hnil] at hlonger
      exact hempty (List.length_eq_zero_iff.mp (Nat.le_zero.mp hlonger))
    rw [unsignedNumeral, htext, List.append_assoc, List.cons_append, takeWhile_run hwhole hstops,
      dropWhile_run hwhole hstops, show fractionText (fracOf ('.' :: (frac ++ after)))
        = '.' :: fracOf ('.' :: (frac ++ after)) from if_neg hne]
    simp only [List.length_append, List.length_cons]
    omega

/-- A numeral at the front begins with the sign of the scan. -/
theorem signOf_eq {sign whole tail : List Char} (hsign : sign = [] ∨ sign = ['-'])
    (hwhole : IsDigits whole) : signOf (sign ++ whole ++ tail) = sign := by
  obtain ⟨c, cs, rfl, hc, -⟩ := hwhole.head
  rcases hsign with rfl | rfl
  · have hminus : c ≠ '-' := by rintro rfl; exact absurd hc (by decide)
    simp [signOf, hminus]
  · simp [signOf]

/-- Where a numeral is at the front, the scan finds digits. -/
theorem exists_numeralAt {num : List Char} (h : IsNumeral num) (after : List Char) :
    ∃ num', numeralAt (num ++ after) = some num' := by
  obtain ⟨sign, whole, frac, hsign, hwhole, hfrac, rfl⟩ := h
  have hsignOf : signOf (sign ++ whole ++ fractionText frac ++ after) = sign := by
    rw [List.append_assoc]
    exact signOf_eq hsign hwhole
  have hdrop : (sign ++ whole ++ fractionText frac ++ after).drop sign.length
      = whole ++ (fractionText frac ++ after) := by
    rw [List.append_assoc, List.append_assoc, List.drop_left]
  have hdigits : (whole ++ (fractionText frac ++ after)).takeWhile Char.isDigit ≠ [] := by
    rw [List.takeWhile_append_of_pos hwhole.2]
    exact List.append_ne_nil_of_left_ne_nil hwhole.1 _
  exact ⟨_, by rw [numeralAt_eq, hsignOf, hdrop, if_neg hdigits]⟩

/-- **The scan finds the longest numeral** the text begins with. -/
theorem numeralAt_spec {cs num : List Char} (h : numeralAt cs = some num) :
    num <+: cs ∧ IsNumeral num ∧ Longest cs num := by
  rw [numeralAt_eq] at h
  split_ifs at h with hempty
  obtain rfl := Option.some.inj h
  obtain ⟨after, hafter⟩ := unsignedNumeral_prefix (cs.drop (signOf cs).length)
  refine ⟨⟨after, ?_⟩, ?_, ?_⟩
  · rw [List.append_assoc, hafter, sign_append]
  · refine ⟨signOf cs, (cs.drop (signOf cs).length).takeWhile Char.isDigit,
      fracOf ((cs.drop (signOf cs).length).dropWhile Char.isDigit), ?_,
      ⟨hempty, allDigits_takeWhile _⟩, allDigits_fracOf _, ?_⟩
    · rw [signOf]
      split_ifs
      · exact .inr rfl
      · exact .inl rfl
    · rw [unsignedNumeral, List.append_assoc]
  · rintro num' after' rfl ⟨sign, whole, frac, hsign, hwhole, hfrac, rfl⟩
    have hsignOf : signOf (sign ++ whole ++ fractionText frac ++ after') = sign := by
      rw [List.append_assoc]
      exact signOf_eq hsign hwhole
    have hdrop : (sign ++ whole ++ fractionText frac ++ after').drop sign.length
        = whole ++ fractionText frac ++ after' := by
      rw [List.append_assoc, List.append_assoc, List.drop_left, List.append_assoc]
    have hle := length_le_unsignedNumeral hwhole.2 hfrac after'
    rw [hsignOf, hdrop]
    simp only [List.length_append] at hle ⊢
    omega

/-- A text begins with one longest numeral. -/
theorem longest_unique {text num num' : List Char} (h : num <+: text) (hnum : IsNumeral num)
    (hlongest : Longest text num) (h' : num' <+: text) (hnum' : IsNumeral num')
    (hlongest' : Longest text num') : num = num' := by
  obtain ⟨after, rfl⟩ := h
  obtain ⟨after', htext⟩ := h'
  have hlen : num.length = num'.length :=
    le_antisymm (hlongest' num after rfl hnum) (hlongest num' after' htext.symm hnum')
  exact (List.append_inj htext.symm hlen).1

/-- A numeral at the front is what the scan finds, if no longer one is there. -/
theorem numeralAt_of_longest {cs num : List Char} (h : num <+: cs) (hnum : IsNumeral num)
    (hlongest : Longest cs num) : numeralAt cs = some num := by
  obtain ⟨after, rfl⟩ := h
  obtain ⟨num', hfound⟩ := exists_numeralAt hnum after
  obtain ⟨hprefix', hnum', hlongest'⟩ := numeralAt_spec hfound
  rw [hfound, longest_unique (List.prefix_append num after) hnum hlongest hprefix' hnum' hlongest']

/-- A text begins with one number. -/
theorem NumberAt.unique {text : List Char} {x y : ℚ} (hx : NumberAt text x) (hy : NumberAt text y) :
    x = y := by
  obtain ⟨num, after, htext, hnum, hvalue, hlongest⟩ := hx
  obtain ⟨num', after', htext', hnum', hvalue', hlongest'⟩ := hy
  obtain rfl := longest_unique ⟨after, htext.symm⟩ hnum hlongest ⟨after', htext'.symm⟩ hnum' hlongest'
  exact Option.some_inj.mp (hvalue.symm.trans hvalue')

/-- The characters of a numeral. -/
theorem isDecimalChar_of_mem {num : List Char} (h : IsNumeral num) : ∀ c ∈ num, IsDecimalChar c := by
  obtain ⟨sign, whole, frac, hsign, hwhole, hfrac, rfl⟩ := h
  intro c hc
  rw [List.mem_append, List.mem_append, fractionText] at hc
  rcases hc with (hc | hc) | hc
  · rcases hsign with rfl | rfl
    · cases hc
    · exact .inr (.inl (List.mem_singleton.mp hc))
  · exact .inl (hwhole.2 c hc)
  · split_ifs at hc
    · cases hc
    · rcases List.mem_cons.mp hc with rfl | hc
      · exact .inr (.inr rfl)
      · exact .inl (hfrac c hc)

/-- **The number a text begins with** is read as the nearest double. -/
theorem numeralAt_parse_iff {cs : List Char} {v : Double} :
    ((numeralAt cs).bind fun num => Double.parse (String.ofList num)) = some v ↔
      ∃ x, NumberAt cs x ∧ v = Double.ofRat x := by
  rw [Option.bind_eq_some_iff]
  constructor
  · rintro ⟨num, hfound, hparse⟩
    obtain ⟨⟨after, htext⟩, hnum, hlongest⟩ := numeralAt_spec hfound
    rw [Double.parse_plain (isDecimalChar_of_mem hnum), Option.map_eq_some_iff] at hparse
    obtain ⟨x, hvalue, rfl⟩ := hparse
    exact ⟨x, ⟨num, after, htext.symm, hnum, hvalue, hlongest⟩, rfl⟩
  · rintro ⟨x, ⟨num, after, htext, hnum, hvalue, hlongest⟩, rfl⟩
    refine ⟨num, numeralAt_of_longest ⟨after, htext.symm⟩ hnum hlongest, ?_⟩
    rw [Double.parse_plain (isDecimalChar_of_mem hnum), hvalue, Option.map_some]

/-! ### What follows a key -/

/-- The first occurrence of the key is followed by separators and the number `x`. -/
def KeyNumber (text key : List Char) (x : ℚ) : Prop :=
  ∃ before separators number, FirstAt key text before (separators ++ number) ∧
    separators ≠ [] ∧ (∀ c ∈ separators, isSeparator c = true) ∧ NumberAt number x

/-- The first occurrence of the key is followed by `gap`, a quote, the non-empty `value` and a
quote. -/
def KeyQuoted (text key gap value : List Char) : Prop :=
  ∃ before after, FirstAt key text before (gap ++ '"' :: (value ++ '"' :: after)) ∧
    '"' ∉ gap ∧ '"' ∉ value ∧ value ≠ []

/-- A number does not begin with a separator. -/
theorem takeWhile_separators {separators number : List Char} {x : ℚ}
    (hseparators : ∀ c ∈ separators, isSeparator c = true) (hnumber : NumberAt number x) :
    (separators ++ number).takeWhile isSeparator = separators ∧
      (separators ++ number).dropWhile isSeparator = number := by
  obtain ⟨num, after, rfl, ⟨sign, whole, frac, hsign, hwhole, -, rfl⟩, -⟩ := hnumber
  obtain ⟨c, cs, rfl, hc, -⟩ := hwhole.head
  have hnot : isSeparator c = false := by
    cases hsep : isSeparator c with
    | false => rfl
    | true =>
      simp only [isSeparator, Bool.or_eq_true, decide_eq_true_eq] at hsep
      rcases hsep with rfl | rfl
      · exact absurd hc (by decide)
      · exact absurd hc (by decide)
  rw [List.takeWhile_append_of_pos hseparators, List.dropWhile_append_of_pos hseparators]
  rcases hsign with rfl | rfl
  · simp [hnot]
  · simp [isSeparator]

/-- **The number after a key**, as the nearest double. -/
theorem macNumberOpt_iff {text key : List Char} {v : Double} :
    macNumberOpt text key = some v ↔ ∃ x, KeyNumber text key x ∧ v = Double.ofRat x := by
  rw [macNumberOpt, Option.bind_eq_bind, Option.bind_eq_some_iff]
  constructor
  · intro h
    obtain ⟨rest, hrest, hread⟩ := h
    obtain ⟨before, hfirst⟩ := afterFirst_eq_some_iff.mp hrest
    split_ifs at hread with hempty
    obtain ⟨x, hx, hv⟩ := numeralAt_parse_iff.mp hread
    refine ⟨x, ⟨before, rest.takeWhile isSeparator, rest.dropWhile isSeparator, ?_, hempty, ?_, hx⟩, hv⟩
    · rwa [List.takeWhile_append_dropWhile]
    · exact List.all_eq_true.mp List.all_takeWhile
  · intro h
    obtain ⟨x, ⟨before, separators, number, hfirst, hne, hseparators, hnumber⟩, rfl⟩ := h
    obtain ⟨htake, hdrop⟩ := takeWhile_separators hseparators hnumber
    refine ⟨separators ++ number, afterFirst_eq_some_iff.mpr ⟨before, hfirst⟩, ?_⟩
    rw [htake, hdrop, if_neg hne]
    exact numeralAt_parse_iff.mpr ⟨x, hnumber, rfl⟩

/-- A key has one number. -/
theorem KeyNumber.unique {text key : List Char} {x y : ℚ} (hx : KeyNumber text key x)
    (hy : KeyNumber text key y) : x = y := by
  obtain ⟨before, separators, number, hfirst, -, hseparators, hnumber⟩ := hx
  obtain ⟨before', separators', number', hfirst', -, hseparators', hnumber'⟩ := hy
  have hrest : separators ++ number = separators' ++ number' := (hfirst.unique hfirst').2
  have hsame : number = number' := by
    rw [← (takeWhile_separators hseparators hnumber).2, hrest,
      (takeWhile_separators hseparators' hnumber').2]
  exact hnumber.unique (hsame ▸ hnumber')

/-- **The quoted text after a key**, wherever the next two quotes are. -/
theorem macStringAfter_iff {text key : List Char} {v : String} :
    macStringAfter text key = some v ↔
      ∃ gap value, KeyQuoted text key gap value ∧ v = String.ofList value := by
  simp only [macStringAfter, Option.bind_eq_bind, Option.bind_eq_some_iff]
  constructor
  · intro h
    obtain ⟨rest, hrest, ⟨gap, rest'⟩, hopen, ⟨value, after⟩, hclose, hvalue⟩ := h
    obtain ⟨before, hfirst⟩ := afterFirst_eq_some_iff.mp hrest
    obtain ⟨rfl, hgap⟩ := splitOnce_eq_some_iff.mp hopen
    obtain ⟨rfl, hnot⟩ := splitOnce_eq_some_iff.mp hclose
    split_ifs at hvalue with hempty
    exact ⟨gap, value, ⟨before, after, hfirst, hgap, hnot, hempty⟩, (Option.some.inj hvalue).symm⟩
  · intro h
    obtain ⟨gap, value, ⟨before, after, hfirst, hgap, hnot, hempty⟩, rfl⟩ := h
    exact ⟨_, afterFirst_eq_some_iff.mpr ⟨before, hfirst⟩, (gap, _),
      splitOnce_eq_some_iff.mpr ⟨rfl, hgap⟩, (value, after), splitOnce_eq_some_iff.mpr ⟨rfl, hnot⟩,
      if_neg hempty⟩

end WattWarden
