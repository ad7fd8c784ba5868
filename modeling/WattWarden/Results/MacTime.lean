import WattWarden.Library.DigitRuns
import WattWarden.Platform.MacParse
import Mathlib.Algebra.Ring.Parity

/-!
# The remaining-time token

`mac_time_remaining` pairs off numbers joined by colons, so of `12:34:56 remaining` it tries `12:34`
and never `34:56`.  What it finds is the first token with an even number of colon-joined numbers
right before it.

* `TokenAt` / `LeftmostLongest` — a token of the text, and the one to be returned;
* `Chain` — the numbers joined by colons that end a text;
* `scanRemaining_iff` — **PROVED**: the scanner finds the first token at an even place of its chain;
* `findsToken_iff` — **PROVED**: the result is the leftmost longest token exactly when there is none
  or the first at an even place has its text.
-/

namespace WattWarden

open Library.DigitRuns

/-! ### Tokens -/

/-- Digits, a colon, digits. -/
def IsToken (token : List Char) : Prop :=
  ∃ hours minutes, token = hours ++ ':' :: minutes ∧ IsDigits hours ∧ IsDigits minutes

/-- A token after `before` that ` remaining` follows. -/
def TokenAt (text before token : List Char) : Prop :=
  IsToken token ∧ ∃ after, text = before ++ (token ++ (remaining ++ after))

/-- No token starts earlier, and none that starts there is longer. -/
def LeftmostLongest (text token : List Char) : Prop :=
  ∃ before, TokenAt text before token ∧ ∀ before' token', TokenAt text before' token' →
    before.length < before'.length ∨
      before.length = before'.length ∧ token'.length ≤ token.length

theorem stopsDigits_colon (cs : List Char) : StopsDigits (':' :: cs) := stopsDigits_cons (by decide)

theorem stopsDigits_remaining (after : List Char) : StopsDigits (remaining ++ after) :=
  stopsDigits_cons (c := ' ') (by decide)

/-- At one place there is at most one token: its numbers are the runs of digits there. -/
theorem tokenAt_unique {text before token token' : List Char} (h : TokenAt text before token)
    (h' : TokenAt text before token') : token = token' := by
  obtain ⟨⟨hours, minutes, rfl, hhours, hminutes⟩, after, htext⟩ := h
  obtain ⟨⟨hours', minutes', rfl, hhours', hminutes'⟩, after', htext'⟩ := h'
  have hrest := List.append_cancel_left (htext.symm.trans htext')
  simp only [List.append_assoc, List.cons_append] at hrest
  obtain ⟨rfl, hcolon⟩ := run_unique hhours.2 hhours'.2 (stopsDigits_colon _) (stopsDigits_colon _)
    hrest
  obtain ⟨rfl, -⟩ := run_unique hminutes.2 hminutes'.2 (stopsDigits_remaining _)
    (stopsDigits_remaining _) (List.cons.inj hcolon).2
  rfl

/-- A place is known by the number of characters before it. -/
theorem TokenAt.before_eq {text before before' token token' : List Char}
    (h : TokenAt text before token) (h' : TokenAt text before' token')
    (hlen : before.length = before'.length) : before = before' := by
  obtain ⟨-, after, htext⟩ := h
  obtain ⟨-, after', htext'⟩ := h'
  exact (List.append_inj (htext.symm.trans htext') hlen).1

/-- A token starts with a digit. -/
theorem IsToken.head {token : List Char} (h : IsToken token) :
    ∃ c cs, token = c :: cs ∧ c.isDigit = true := by
  obtain ⟨hours, minutes, rfl, hhours, -⟩ := h
  obtain ⟨c, cs, rfl, hc, -⟩ := hhours.head
  exact ⟨c, cs ++ ':' :: minutes, rfl, hc⟩

/-! ### Chains of numbers -/

/-- How a text ends: inside a number or not, and after how many numbers joined by colons, each with
its colon. -/
structure Chain where
  inNumber : Bool
  count : ℕ
  deriving DecidableEq, Repr

namespace Chain

def step (s : Chain) (c : Char) : Chain :=
  if c.isDigit then ⟨true, s.count⟩
  else if c = ':' ∧ s.inNumber = true then ⟨false, s.count + 1⟩
  else ⟨false, 0⟩

/-- The chain after a text. -/
def after (s : Chain) (cs : List Char) : Chain := cs.foldl step s

/-- A number may begin here, at an even place of its chain. -/
def AtEven (s : Chain) : Prop := s.inNumber = false ∧ Even s.count

@[simp] theorem after_nil (s : Chain) : s.after [] = s := rfl

@[simp] theorem after_cons (s : Chain) (c : Char) (cs : List Char) :
    s.after (c :: cs) = (s.step c).after cs := rfl

theorem after_append (s : Chain) (xs ys : List Char) : s.after (xs ++ ys) = (s.after xs).after ys :=
  List.foldl_append

theorem after_digits (s : Chain) {run : List Char} (h : IsDigits run) :
    s.after run = ⟨true, s.count⟩ := by
  obtain ⟨hne, hdigits⟩ := h
  induction run generalizing s with
  | nil => exact absurd rfl hne
  | cons c run ih =>
    have hc : s.step c = ⟨true, s.count⟩ := if_pos (hdigits c List.mem_cons_self)
    rw [after_cons, hc]
    by_cases hrun : run = []
    · rw [hrun, after_nil]
    · exact ih _ hrun fun c hc => hdigits c (List.mem_cons_of_mem _ hc)

theorem step_colon_of_inNumber (count : ℕ) : step ⟨true, count⟩ ':' = ⟨false, count + 1⟩ := rfl

theorem step_colon_of_not_inNumber (count : ℕ) : step ⟨false, count⟩ ':' = ⟨false, 0⟩ := rfl

theorem step_inNumber {s : Chain} {c : Char} (h : c.isDigit = false) :
    (s.step c).inNumber = false := by
  simp only [step, h]
  split_ifs <;> simp_all

theorem step_of_other {s : Chain} {c : Char} (h : c.isDigit = false) (hc : c ≠ ':') :
    s.step c = ⟨false, 0⟩ := by
  simp [step, h, hc]

end Chain

/-! ### Tokens at an even place -/

/-- A token at an even place of its chain, in a text whose chain so far is `s`. -/
def EvenTokenAt (s : Chain) (text before token : List Char) : Prop :=
  TokenAt text before token ∧ (s.after before).AtEven

/-- The first token at an even place. -/
def FirstEven (s : Chain) (text token : List Char) : Prop :=
  ∃ before, EvenTokenAt s text before token ∧
    ∀ before' token', EvenTokenAt s text before' token' → before.length ≤ before'.length

theorem evenTokenAt_append {s : Chain} {xs text before token : List Char} :
    EvenTokenAt s (xs ++ text) (xs ++ before) token ↔ EvenTokenAt (s.after xs) text before token := by
  simp only [EvenTokenAt, TokenAt, Chain.after_append, List.append_assoc, List.append_cancel_left_eq]

/-- A front in which no token at an even place starts can be skipped. -/
theorem firstEven_append {s : Chain} {xs text token : List Char}
    (h : ∀ before token, EvenTokenAt s (xs ++ text) before token → xs <+: before) :
    FirstEven s (xs ++ text) token ↔ FirstEven (s.after xs) text token := by
  constructor
  · intro hgiven
    obtain ⟨before, htoken, hfirst⟩ := hgiven
    obtain ⟨inner, rfl⟩ := h before token htoken
    refine ⟨inner, evenTokenAt_append.mp htoken, fun before' token' h' => ?_⟩
    have := hfirst _ _ (evenTokenAt_append.mpr h')
    simpa using this
  · intro hgiven
    obtain ⟨before, htoken, hfirst⟩ := hgiven
    refine ⟨xs ++ before, evenTokenAt_append.mpr htoken, fun before' token' h' => ?_⟩
    obtain ⟨inner, rfl⟩ := h before' token' h'
    have := hfirst _ _ (evenTokenAt_append.mp h')
    simpa using this

/-- The scanner between two rounds: a number that comes next is at an even place, and so is one after
a colon that comes next. -/
def Ready (s : Chain) (text : List Char) : Prop :=
  (∀ c ∈ text.head?, c.isDigit = true → s.AtEven) ∧
    (∀ c ∈ text.head?, c = ':' → Even (s.step ':').count)

/-- With no number in between, a colon that follows starts a new chain. -/
theorem ready_of_stops {s : Chain} {text : List Char} (hstops : StopsDigits text)
    (hcolon : ∀ c ∈ text.head?, c = ':' → Even (s.step ':').count) : Ready s text := by
  refine ⟨fun c hc hdigit => ?_, hcolon⟩
  rw [hstops c hc] at hdigit
  cases hdigit

/-! ### One round of the scanner -/

section Round

variable {s : Chain} {hours minutes rest token before : List Char} {c : Char}

/-- Where a text can be cut: before the front ends, or after it. -/
theorem prefix_or_cut {xs text before tail : List Char} (h : xs ++ text = before ++ tail) :
    xs <+: before ∨ ∃ ys, ys ≠ [] ∧ xs = before ++ ys ∧ tail = ys ++ text := by
  rcases List.append_eq_append_iff.mp h with ⟨inner, hbefore, -⟩ | ⟨ys, hxs, htail⟩
  · exact .inl ⟨inner, hbefore.symm⟩
  · by_cases hys : ys = []
    · subst hys
      rw [List.append_nil] at hxs
      exact .inl ⟨[], by rw [hxs, List.append_nil]⟩
    · exact .inr ⟨ys, hys, hxs, htail⟩

/-- No token starts at a character that is not a digit. -/
theorem prefix_of_not_digit (hc : c.isDigit = false)
    (h : EvenTokenAt s ([c] ++ rest) before token) : [c] <+: before := by
  obtain ⟨⟨htoken, after, htext⟩, -⟩ := h
  rcases prefix_or_cut htext with hprefix | ⟨ys, hys, hfront, htail⟩
  · exact hprefix
  · obtain ⟨d, cs, rfl, hd⟩ := htoken.head
    cases ys with
    | nil => exact absurd rfl hys
    | cons y ys =>
      have hy : y = c := by
        cases before with
        | nil => exact (List.cons.inj hfront).1.symm
        | cons b before =>
          have hlen := congrArg List.length hfront
          simp at hlen
      have hdy : d = y := (List.cons.inj htail).1
      rw [hdy, hy, hc] at hd
      cases hd

/-- No token starts in a run of digits that no colon follows. -/
theorem prefix_of_run (hhours : IsDigits hours) (hstops : StopsDigits rest)
    (hcolon : rest.head? ≠ some ':') (h : EvenTokenAt s (hours ++ rest) before token) :
    hours <+: before := by
  obtain ⟨⟨⟨hours', minutes', rfl, hhours', -⟩, after, htext⟩, -⟩ := h
  rcases prefix_or_cut htext with hprefix | ⟨ys, -, hfront, htail⟩
  · exact hprefix
  · have hys : AllDigits ys := fun c hc => hhours.2 c (by rw [hfront]; exact List.mem_append_right _ hc)
    rw [List.append_assoc, List.cons_append] at htail
    obtain ⟨-, hrest⟩ := run_unique hhours'.2 hys (stopsDigits_colon _) hstops htail
    exact absurd (by rw [← hrest]; rfl) hcolon

/-- After `hours` and a colon every place is odd, or inside a number. -/
theorem not_atEven_in_minutes (hs : s.AtEven) (hhours : IsDigits hours)
    (hminutes : AllDigits minutes) : ¬(s.after (hours ++ ':' :: minutes)).AtEven := by
  rw [Chain.after_append, Chain.after_digits s hhours, Chain.after_cons,
    Chain.step_colon_of_inNumber]
  intro heven
  by_cases hempty : minutes = []
  · rw [hempty, Chain.after_nil] at heven
    exact absurd (Nat.even_add_one.mp heven.2) (not_not.mpr hs.2)
  · rw [Chain.after_digits _ ⟨hempty, hminutes⟩] at heven
    cases heven.1

/-- After `hours` and a colon without a match, no token at an even place starts before the end of
`minutes`: one in `hours` would be the match, and `minutes` is at an odd place. -/
theorem prefix_of_pair (hs : s.AtEven) (hhours : IsDigits hours) (hminutes : AllDigits minutes)
    (hstops : StopsDigits rest) (hmiss : ¬(minutes ≠ [] ∧ remaining <+: rest))
    (h : EvenTokenAt s (hours ++ ':' :: minutes ++ rest) before token) :
    hours ++ ':' :: minutes <+: before := by
  obtain ⟨⟨⟨hours', minutes', rfl, hhours', hminutes'⟩, after, htext⟩, heven⟩ := h
  rcases prefix_or_cut htext with hprefix | ⟨ys, hys, hfront, htail⟩
  · exact hprefix
  · exfalso
    rw [List.append_assoc, List.cons_append] at htail
    rcases List.append_eq_append_iff.mp hfront with ⟨zs, hbefore, hzs⟩ | ⟨zs, hhead, hzs⟩
    · -- it starts after `hours`
      cases zs with
      | nil =>
        rw [List.nil_append] at hzs
        rw [← hzs] at htail
        obtain ⟨d, ds, rfl, hd, -⟩ := hhours'.head
        rw [(List.cons.inj htail).1] at hd
        cases hd
      | cons z zs =>
        obtain ⟨rfl, hminutesEq⟩ := List.cons.inj hzs
        rw [hminutesEq] at hminutes
        rw [hbefore] at heven
        exact not_atEven_in_minutes hs hhours (List.forall_mem_append.mp hminutes).1 heven
    · -- it starts in `hours`, and is the pair
      have hzsDigits : AllDigits zs :=
        fun c hc => hhours.2 c (by rw [hhead]; exact List.mem_append_right _ hc)
      rw [hzs, List.append_assoc, List.cons_append] at htail
      obtain ⟨-, hcolon⟩ := run_unique hhours'.2 hzsDigits (stopsDigits_colon _)
        (stopsDigits_colon _) htail
      obtain ⟨hsame, hrest⟩ := run_unique hminutes'.2 hminutes (stopsDigits_remaining _) hstops
        (List.cons.inj hcolon).2
      exact hmiss ⟨hsame ▸ hminutes'.1, ⟨after, hrest⟩⟩

end Round

/-- A match at the front is the first token at an even place. -/
theorem firstEven_of_pair {s : Chain} {hours minutes rest token : List Char} (hs : s.AtEven)
    (hhours : IsDigits hours) (hminutes : IsDigits minutes) (hrest : remaining <+: rest) :
    FirstEven s (hours ++ ':' :: minutes ++ rest) token ↔ hours ++ ':' :: minutes = token := by
  obtain ⟨after, rfl⟩ := hrest
  have hfront : TokenAt (hours ++ ':' :: minutes ++ (remaining ++ after)) []
      (hours ++ ':' :: minutes) :=
    ⟨⟨hours, minutes, rfl, hhours, hminutes⟩, after, rfl⟩
  constructor
  · intro h
    obtain ⟨before, ⟨htoken, -⟩, hfirst⟩ := h
    have hlen := hfirst [] _ ⟨hfront, hs⟩
    obtain rfl : before = [] := List.length_eq_zero_iff.mp (Nat.le_zero.mp hlen)
    exact tokenAt_unique hfront htoken
  · rintro rfl
    exact ⟨[], ⟨hfront, hs⟩, fun _ _ _ => Nat.zero_le _⟩

/-! ### The scanner, round by round -/

section Scanner

variable {hours minutes rest : List Char}

theorem scanRemaining_of_not_digit {c : Char} (hc : c.isDigit = false) (cs : List Char) :
    scanRemaining (c :: cs) = scanRemaining cs := by
  rw [scanRemaining, if_neg (by simp [hc])]

theorem scanRemaining_of_run (hhours : IsDigits hours) (hstops : StopsDigits rest)
    (hcolon : rest.head? ≠ some ':') : scanRemaining (hours ++ rest) = scanRemaining rest := by
  obtain ⟨c, cs, rfl, hc, hcs⟩ := hhours.head
  rw [List.cons_append, scanRemaining, if_pos hc]
  simp only [dropWhile_run hcs hstops, if_neg hcolon]

theorem scanRemaining_of_pair (hhours : IsDigits hours) (hminutes : AllDigits minutes)
    (hstops : StopsDigits rest) :
    scanRemaining (hours ++ ':' :: minutes ++ rest) =
      if minutes ≠ [] ∧ remaining <+: rest then some (hours ++ ':' :: minutes)
      else scanRemaining rest := by
  obtain ⟨c, cs, rfl, hc, hcs⟩ := hhours.head
  rw [List.append_assoc, List.cons_append, List.cons_append, scanRemaining, if_pos hc]
  simp only [takeWhile_run hcs (stopsDigits_colon _), dropWhile_run hcs (stopsDigits_colon _),
    List.head?_cons, List.tail_cons, takeWhile_run hminutes hstops, dropWhile_run hminutes hstops]
  rw [if_pos trivial]

/-- A text without digits is scanned to its end. -/
theorem scanRemaining_of_no_digit {text : List Char} (h : ∀ c ∈ text, c.isDigit = false) :
    scanRemaining text = none := by
  induction text with
  | nil => rw [scanRemaining]
  | cons c cs ih =>
    rw [scanRemaining_of_not_digit (h c List.mem_cons_self)]
    exact ih fun d hd => h d (List.mem_cons_of_mem c hd)

/-- What a round meets: the end, a character that is not a digit, a run of digits without a colon,
or a run with one and the run after it. -/
theorem round_cases (text : List Char) :
    text = [] ∨ (∃ c cs, text = [c] ++ cs ∧ c.isDigit = false) ∨
      (∃ hours rest, text = hours ++ rest ∧ IsDigits hours ∧ StopsDigits rest ∧
        rest.head? ≠ some ':') ∨
      ∃ hours minutes rest, text = hours ++ ':' :: minutes ++ rest ∧ IsDigits hours ∧
        AllDigits minutes ∧ StopsDigits rest := by
  cases text with
  | nil => exact .inl rfl
  | cons c cs =>
    cases hc : c.isDigit with
    | false => exact .inr (.inl ⟨c, cs, rfl, hc⟩)
    | true =>
      have hrun := isDigits_cons_takeWhile hc cs
      have hstops := stopsDigits_dropWhile cs
      have hsplit : c :: cs = (c :: cs.takeWhile Char.isDigit) ++ cs.dropWhile Char.isDigit := by
        rw [List.cons_append, List.takeWhile_append_dropWhile]
      cases hrest : cs.dropWhile Char.isDigit with
      | nil =>
        rw [hrest] at hsplit
        exact .inr (.inr (.inl ⟨_, [], hsplit, hrun, by simp [StopsDigits], by simp⟩))
      | cons d ds =>
        rw [hrest] at hsplit hstops
        by_cases hd : d = ':'
        · subst hd
          refine .inr (.inr (.inr ⟨_, ds.takeWhile Char.isDigit, ds.dropWhile Char.isDigit, ?_, hrun,
            allDigits_takeWhile ds, stopsDigits_dropWhile ds⟩))
          rw [hsplit]
          simp
        · exact .inr (.inr (.inl ⟨_, d :: ds, hsplit, hrun, hstops, by simpa using hd⟩))

end Scanner

/-! ### The scanner as a whole -/

/-- A character that is not a digit leaves the scanner ready. -/
theorem ready_of_not_digit {s : Chain} {c : Char} {cs : List Char} (hc : c.isDigit = false)
    (h : Ready s ([c] ++ cs)) : Ready (s.after [c]) cs := by
  have hnumber : (s.after [c]).inNumber = false := Chain.step_inNumber hc
  refine ⟨fun d hd hdigit => ⟨hnumber, ?_⟩, fun d hd hcolon => ?_⟩
  · by_cases hcolon : c = ':'
    · have := h.2 c rfl hcolon
      rw [hcolon]
      exact this
    · rw [Chain.after_cons, Chain.step_of_other hc hcolon]
      exact Even.zero
  · have hreset : (s.after [c]).step ':' = ⟨false, 0⟩ := by
      rw [Chain.step, if_neg (by decide), if_neg (by rw [hnumber]; simp)]
    rw [hreset]
    exact Even.zero

/-- So does a pair of numbers, when a match failed: two more numbers keep the place even. -/
theorem ready_of_pair {s : Chain} {hours minutes rest : List Char} (hs : s.AtEven)
    (hhours : IsDigits hours) (hminutes : AllDigits minutes) (hstops : StopsDigits rest) :
    Ready (s.after (hours ++ ':' :: minutes)) rest := by
  refine ready_of_stops hstops fun c hc hcolon => ?_
  rw [Chain.after_append, Chain.after_digits s hhours, Chain.after_cons,
    Chain.step_colon_of_inNumber]
  by_cases hempty : minutes = []
  · rw [hempty, Chain.after_nil, Chain.step_colon_of_not_inNumber]
    exact Even.zero
  · rw [Chain.after_digits _ ⟨hempty, hminutes⟩, Chain.step_colon_of_inNumber]
    exact (hs.2.add_one).add_one

theorem not_firstEven_nil {s : Chain} {token : List Char} : ¬FirstEven s [] token := by
  intro h
  obtain ⟨before, ⟨⟨htoken, after, htext⟩, -⟩, -⟩ := h
  obtain ⟨c, cs, rfl, -⟩ := htoken.head
  simp at htext

/-- **The scanner finds the first token at an even place.**  Induction over its rounds: each skips
only characters at which no such token starts, and leaves the scanner ready for the next. -/
theorem scanRemaining_iff {s : Chain} {text token : List Char} (hready : Ready s text) :
    scanRemaining text = some token ↔ FirstEven s text token := by
  induction hlen : text.length using Nat.strong_induction_on generalizing s text with
  | _ n ih =>
    subst hlen
    rcases round_cases text with rfl | ⟨c, cs, rfl, hc⟩ |
      ⟨hours, rest, rfl, hhours, hstops, hcolon⟩ |
      ⟨hours, minutes, rest, rfl, hhours, hminutes, hstops⟩
    · rw [scanRemaining]
      exact iff_of_false (by simp) not_firstEven_nil
    · rw [firstEven_append fun _ _ => prefix_of_not_digit hc]
      rw [List.singleton_append, scanRemaining_of_not_digit hc]
      exact ih cs.length (by simp) (ready_of_not_digit hc hready) rfl
    · have hpos : 0 < hours.length := List.length_pos_iff.mpr hhours.1
      rw [firstEven_append fun _ _ => prefix_of_run hhours hstops hcolon,
        scanRemaining_of_run hhours hstops hcolon]
      refine ih rest.length (by rw [List.length_append]; omega) ?_ rfl
      exact ready_of_stops hstops fun c hc heq => absurd (heq ▸ hc) hcolon
    · have hs : s.AtEven := by
        obtain ⟨c, _, rfl, hc, -⟩ := hhours.head
        exact hready.1 c rfl hc
      rw [scanRemaining_of_pair hhours hminutes hstops]
      split_ifs with hmatch
      · rw [firstEven_of_pair hs hhours ⟨hmatch.1, hminutes⟩ hmatch.2, Option.some_inj]
      · rw [firstEven_append fun _ _ => prefix_of_pair hs hhours hminutes hstops hmatch]
        refine ih rest.length ?_ (ready_of_pair hs hhours hminutes hstops) rfl
        simp only [List.length_append, List.length_cons]
        omega

/-! ### The result -/

/-- The text before a number, counted from its start, ends in no chain. -/
def Chain.start : Chain := ⟨false, 0⟩

theorem ready_start (text : List Char) : Ready .start text :=
  ⟨fun _ _ _ => ⟨rfl, Even.zero⟩, fun _ _ _ => Even.zero⟩

/-- Where there are tokens, one is the leftmost longest. -/
theorem exists_leftmostLongest {text before token : List Char} (h : TokenAt text before token) :
    ∃ token, LeftmostLongest text token := by
  classical
  have hsome : ∃ n before token, TokenAt text before token ∧ before.length = n :=
    ⟨before.length, before, token, h, rfl⟩
  obtain ⟨before₀, token₀, h₀, hlen⟩ := Nat.find_spec hsome
  refine ⟨token₀, before₀, h₀, fun before' token' h' => ?_⟩
  have hmin := Nat.find_min' hsome ⟨before', token', h', rfl⟩
  rcases Nat.lt_or_eq_of_le (hlen.trans_le hmin) with hlt | heq
  · exact .inl hlt
  · obtain rfl := h₀.before_eq h' heq
    exact .inr ⟨rfl, (tokenAt_unique h₀ h') ▸ le_rfl⟩

theorem LeftmostLongest.unique {text token token' : List Char} (h : LeftmostLongest text token)
    (h' : LeftmostLongest text token') : token = token' := by
  obtain ⟨before, htoken, hfirst⟩ := h
  obtain ⟨before', htoken', hfirst'⟩ := h'
  have hlen : before.length = before'.length := by
    have := hfirst before' token' htoken'
    have := hfirst' before token htoken
    omega
  obtain rfl := htoken.before_eq htoken' hlen
  exact tokenAt_unique htoken htoken'

/-- The token when there is one, else the charging state. -/
def FindsToken (pmsetBatt : String) (charging : Bool) : Prop :=
  (∀ token, LeftmostLongest pmsetBatt.toList token →
    macTimeRemaining pmsetBatt charging = String.ofList token) ∧
  ((∀ before token, ¬TokenAt pmsetBatt.toList before token) →
    macTimeRemaining pmsetBatt charging = if charging then "Charging" else "Calculating...")

/-- The state is no token. -/
theorem state_ne_token {token : List Char} (charging : Bool) (h : IsToken token) :
    (if charging then "Charging" else "Calculating...") ≠ String.ofList token := by
  obtain ⟨c, cs, rfl, hc⟩ := h.head
  intro heq
  have hlist := congrArg String.toList heq
  rw [String.toList_ofList] at hlist
  have hfirst : c = 'C' := by
    cases charging with
    | false => exact (List.cons.inj hlist).1.symm
    | true => exact (List.cons.inj hlist).1.symm
  rw [hfirst] at hc
  exact absurd hc (by decide)

/-- **The scanner finds the leftmost longest token** exactly when the text has none, or when the
first token with an even number of colon-joined numbers before it has the same text. -/
theorem findsToken_iff (pmsetBatt : String) (charging : Bool) :
    FindsToken pmsetBatt charging ↔
      (∀ before token, ¬TokenAt pmsetBatt.toList before token) ∨
        ∃ token, LeftmostLongest pmsetBatt.toList token ∧
          FirstEven .start pmsetBatt.toList token := by
  have hscan : ∀ token, scanRemaining pmsetBatt.toList = some token ↔
      FirstEven .start pmsetBatt.toList token := fun _ => scanRemaining_iff (ready_start _)
  constructor
  · intro h
    obtain ⟨hfinds, -⟩ := h
    by_contra hnot
    rw [not_or] at hnot
    obtain ⟨hsome, hdiffers⟩ := hnot
    push Not at hsome
    obtain ⟨before, token, htoken⟩ := hsome
    obtain ⟨token, hleftmost⟩ := exists_leftmostLongest htoken
    have hresult := hfinds token hleftmost
    rw [macTimeRemaining] at hresult
    cases hfound : scanRemaining pmsetBatt.toList with
    | none =>
      rw [hfound] at hresult
      obtain ⟨before, ⟨his, -⟩, -⟩ := hleftmost
      exact state_ne_token charging his hresult
    | some found =>
      rw [hfound] at hresult
      obtain rfl := String.ofList_injective hresult
      exact hdiffers ⟨found, hleftmost, (hscan found).mp hfound⟩
  · intro h
    rcases h with hnone | ⟨token, hleftmost, heven⟩
    · have hfound : scanRemaining pmsetBatt.toList = none := by
        rw [Option.eq_none_iff_forall_ne_some]
        intro token hfound
        obtain ⟨before, ⟨htoken, -⟩, -⟩ := (hscan token).mp hfound
        exact hnone before token htoken
      refine ⟨fun token hleftmost => ?_, fun _ => by rw [macTimeRemaining, hfound]⟩
      obtain ⟨before, htoken, -⟩ := hleftmost
      exact absurd htoken (hnone before token)
    · have hfound := (hscan token).mpr heven
      refine ⟨fun token' hleftmost' => ?_, fun hnone => ?_⟩
      · rw [macTimeRemaining, hfound, hleftmost.unique hleftmost']
      · obtain ⟨before, htoken, -⟩ := hleftmost
        exact absurd htoken (hnone before token)

/-- `12:34:56 remaining` holds the token `34:56`; the scanner tries `12:34` and goes on behind it. -/
theorem findsToken_clock : ¬FindsToken "12:34:56 remaining" true := by
  intro h
  have htoken : TokenAt "12:34:56 remaining".toList "12:".toList "34:56".toList :=
    ⟨⟨"34".toList, "56".toList, rfl, by simp [IsDigits, AllDigits], by simp [IsDigits, AllDigits]⟩,
      [], rfl⟩
  have hscan : scanRemaining ("12".toList ++ ':' :: "34".toList ++ ':' :: "56 remaining".toList)
      = none := by
    refine (scanRemaining_of_pair (by simp [IsDigits, AllDigits]) (by simp [AllDigits])
      (stopsDigits_colon _)).trans ?_
    rw [if_neg (by decide), scanRemaining_of_not_digit (by decide)]
    have hrun : scanRemaining ("56".toList ++ (remaining ++ [])) = scanRemaining (remaining ++ []) :=
      scanRemaining_of_run (by simp [IsDigits, AllDigits]) (stopsDigits_remaining []) (by decide)
    have hrest : (remaining ++ []).all (fun c => !c.isDigit) = true := by decide
    refine hrun.trans (scanRemaining_of_no_digit fun c hc => ?_)
    simpa using List.all_eq_true.mp hrest c hc
  have hcharging : macTimeRemaining "12:34:56 remaining" true = "Charging" := by
    rw [macTimeRemaining, show "12:34:56 remaining".toList
      = "12".toList ++ ':' :: "34".toList ++ ':' :: "56 remaining".toList from rfl, hscan]
    rfl
  obtain ⟨token, hleftmost⟩ := exists_leftmostLongest htoken
  have hresult := hcharging.symm.trans (h.1 token hleftmost)
  obtain ⟨before, ⟨his, -⟩, -⟩ := hleftmost
  exact state_ne_token true his hresult

end WattWarden
