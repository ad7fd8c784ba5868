import Mathlib.Logic.Function.Basic
import WattWarden.Library.Runs

/-!
# A text file that several programs save

Each program loads the file, updates its own copy and saves it: the file is truncated, then the text
is written from the start.  Saves may overlap, fail and be cut off by the end of their program, and
a text may stand on the rest of a longer one.

* `Format` — how values are written as text and read back;
* `step` — loads, updates, truncations and writes, one at a time;
* `Made` — a value that some of the updates make, in their order, of what the file held at first or
  of the default;
* `sound_run` — **PROVED**: nothing else is ever loaded or held, whatever the interleaving;
* `intact_run` — **PROVED**: as long as no save is disturbed, the default stands in for nothing.
-/

namespace Library.SharedText

open Library.Runs

/-- How values are written and read: a complete text is read back, and where something that is not
blank stands behind it, nothing is. -/
structure Format (α β : Type*) where
  encode : α → List β
  decode : List β → Option α
  blank : β → Prop
  decode_encode : ∀ a, decode (encode a) = some a
  decode_nil : decode [] = none
  decode_trailing : ∀ a rest, (∃ x ∈ rest, ¬blank x) → decode (encode a ++ rest) = none
  last_not_blank : ∀ a, ∃ x, (encode a).getLast? = some x ∧ ¬blank x

/-! ### Texts on the rest of other texts -/

section Texts

variable {α β : Type*} {format : Format α β} {P Q : α → Prop} {old rest : List β} {a : α}

/-- A text written from the start of the file. -/
def putAtStart (text old : List β) : List β := text ++ old.drop text.length

/-- What a longer text leaves behind a shorter one: nothing, or something that ends visibly. -/
def Leftover (format : Format α β) (rest : List β) : Prop :=
  rest = [] ∨ ∃ x, rest.getLast? = some x ∧ ¬format.blank x

theorem leftover_encode_append (h : Leftover format rest) :
    Leftover format (format.encode a ++ rest) := by
  rcases h with rfl | ⟨x, hx, hblank⟩
  · rw [List.append_nil]
    exact .inr (format.last_not_blank a)
  · refine .inr ⟨x, ?_, hblank⟩
    rw [List.getLast?_append, hx]
    rfl

theorem Leftover.drop (h : Leftover format rest) (n : ℕ) : Leftover format (rest.drop n) := by
  by_cases hn : n < rest.length
  · rcases h with rfl | ⟨x, hx, hblank⟩
    · rw [List.drop_nil]
      exact .inl rfl
    · refine .inr ⟨x, ?_, hblank⟩
      rw [List.getLast?_drop, if_neg (by omega), hx]
  · exact .inl (List.drop_eq_nil_of_le (by omega))

/-- Nothing, or the text of a value that satisfies `P` with leftovers behind it. -/
def Holds (format : Format α β) (P : α → Prop) (text : List β) : Prop :=
  text = [] ∨ ∃ a rest, P a ∧ Leftover format rest ∧ text = format.encode a ++ rest

theorem Holds.mono (h : Holds format P old) (hPQ : ∀ a, P a → Q a) : Holds format Q old :=
  h.imp_right fun hold => by
    obtain ⟨a, rest, ha, hrest⟩ := hold
    exact ⟨a, rest, hPQ a ha, hrest⟩

theorem holds_putAtStart (h : Holds format P old) (ha : P a) :
    Holds format P (putAtStart (format.encode a) old) := by
  refine .inr ⟨a, _, ha, ?_, rfl⟩
  apply Leftover.drop
  rcases h with rfl | ⟨b, rest, -, hrest, rfl⟩
  · exact .inl rfl
  · exact leftover_encode_append hrest

/-- **A text is read as a whole or not at all.** -/
theorem Holds.decode (h : Holds format P old) (hread : format.decode old = some a) : P a := by
  rcases h with rfl | ⟨b, rest, hb, rfl | ⟨x, hx, hblank⟩, rfl⟩
  · rw [format.decode_nil] at hread
    cases hread
  · rw [List.append_nil, format.decode_encode] at hread
    cases hread
    exact hb
  · rw [format.decode_trailing b rest ⟨x, List.mem_of_getLast? hx, hblank⟩] at hread
    cases hread

end Texts

/-! ### Programs and their copies -/

/-- A program with its copy; `saving` between the truncation and the write of a save. -/
structure Holder (α : Type*) where
  copy : α
  saving : Bool

structure State (α β υ : Type*) where
  /-- `none` as long as there is no file. -/
  text : Option (List β)
  holder : ℕ → Option (Holder α)
  /-- The updates of all programs, in their order. -/
  updates : List υ

inductive Event (α υ : Type*) where
  | load (p : ℕ)
  /-- A program updates its copy; which way may depend on the copy. -/
  | update (p : ℕ) (choose : α → Option υ)
  | truncate (p : ℕ)
  | write (p : ℕ)
  /-- The write of a save fails. -/
  | abandon (p : ℕ)
  /-- A program ends, or is killed. -/
  | leave (p : ℕ)

variable {α β υ : Type*} {format : Format α β} {apply : υ → α → α} {fallback : α}

/-- What a load finds: the fallback where nothing is read. -/
def loaded (format : Format α β) (fallback : α) (text : Option (List β)) : α :=
  (text.bind format.decode).getD fallback

/-- The program is between the truncation and the write of a save. -/
def Saving (s : State α β υ) (p : ℕ) : Prop := ∃ copy, s.holder p = some ⟨copy, true⟩

namespace State

/-- What becomes of a program. -/
def put (s : State α β υ) (p : ℕ) (h : Option (Holder α)) : State α β υ :=
  { s with holder := Function.update s.holder p h }

@[simp] theorem text_put (s : State α β υ) (p : ℕ) (h : Option (Holder α)) :
    (s.put p h).text = s.text := rfl

@[simp] theorem updates_put (s : State α β υ) (p : ℕ) (h : Option (Holder α)) :
    (s.put p h).updates = s.updates := rfl

theorem holder_put (s : State α β υ) (p q : ℕ) (h : Option (Holder α)) :
    (s.put p h).holder q = if q = p then h else s.holder q := Function.update_apply ..

def start (text : Option (List β)) : State α β υ := ⟨text, fun _ => none, []⟩

end State

/-- One event.  What a program cannot do where it is does nothing. -/
def step (format : Format α β) (apply : υ → α → α) (fallback : α) (s : State α β υ) :
    Event α υ → State α β υ
  | .load p =>
      match s.holder p with
      | some ⟨_, true⟩ => s
      | _ => s.put p (some ⟨loaded format fallback s.text, false⟩)
  | .update p choose =>
      match s.holder p with
      | some ⟨copy, false⟩ =>
          match choose copy with
          | none => s
          | some u => { s.put p (some ⟨apply u copy, false⟩) with updates := s.updates ++ [u] }
      | _ => s
  | .truncate p =>
      match s.holder p with
      | some ⟨copy, false⟩ => { s.put p (some ⟨copy, true⟩) with text := some [] }
      | _ => s
  | .write p =>
      match s.holder p with
      | some ⟨copy, true⟩ =>
          { s.put p (some ⟨copy, false⟩) with
            text := some (putAtStart (format.encode copy) (s.text.getD [])) }
      | _ => s
  | .abandon p =>
      match s.holder p with
      | some ⟨copy, true⟩ => s.put p (some ⟨copy, false⟩)
      | _ => s
  | .leave p => s.put p none

/-! ### What the updates make -/

/-- Updates, first to last. -/
def updated (apply : υ → α → α) (a : α) (us : List υ) : α := us.foldl (fun a u => apply u a) a

/-- Some of the updates, in their order, make `a` of a base. -/
def Made (apply : υ → α → α) (base : α → Prop) (updates : List υ) (a : α) : Prop :=
  ∃ b us, base b ∧ us.Sublist updates ∧ a = updated apply b us

section Made

variable {base : α → Prop} {updates : List υ} {a : α}

theorem made_base (h : base a) : Made apply base updates a :=
  ⟨a, [], h, List.nil_sublist _, rfl⟩

theorem Made.later (h : Made apply base updates a) (u : υ) :
    Made apply base (updates ++ [u]) a := by
  obtain ⟨b, us, hb, hsub, rfl⟩ := h
  exact ⟨b, us, hb, hsub.trans (List.sublist_append_left _ _), rfl⟩

theorem Made.update (h : Made apply base updates a) (u : υ) :
    Made apply base (updates ++ [u]) (apply u a) := by
  obtain ⟨b, us, hb, hsub, rfl⟩ := h
  refine ⟨b, us ++ [u], hb, hsub.append (List.Sublist.refl _), ?_⟩
  rw [updated, updated, List.foldl_append]
  rfl

end Made

/-! ### Whatever is disturbed -/

section Invariants

variable {base : α → Prop} {initial : Option (List β)} {s : State α β υ} {p q : ℕ}

theorem saving_put {h : Option (Holder α)} :
    Saving (s.put p h) q ↔ if q = p then ∃ copy, h = some ⟨copy, true⟩ else Saving s q := by
  rw [Saving, State.holder_put]
  split <;> rfl

theorem not_saving_of_idle {copy : α} (h : s.holder p = some ⟨copy, false⟩) : ¬Saving s p := by
  intro hsaving
  obtain ⟨other, hother⟩ := hsaving
  rw [h] at hother
  cases hother

/-- Every copy satisfies `P`. -/
def Copies (P : α → Prop) (s : State α β υ) : Prop := ∀ q h, s.holder q = some h → P h.copy

theorem Copies.put {P : α → Prop} (h : Copies P s) {holder : Option (Holder α)}
    (hcopy : ∀ h, holder = some h → P h.copy) : Copies P (s.put p holder) := by
  intro q h' hq
  rw [State.holder_put] at hq
  split at hq
  · exact hcopy h' hq
  · exact h q h' hq

/-- A program keeps its copy. -/
theorem Copies.mark {P : α → Prop} (h : Copies P s) {copy : α} {saving : Bool}
    (hcopy : s.holder p = some ⟨copy, saving⟩) (saving' : Bool) :
    Copies P (s.put p (some ⟨copy, saving'⟩)) := by
  apply h.put
  have hheld : P copy := h p _ hcopy
  intro h' hh'
  cases hh'
  exact hheld

/-- Nobody holds anything but what the updates make of a base; and once somebody has truncated the
file, it holds nothing else either. -/
structure Sound (format : Format α β) (apply : υ → α → α) (base : α → Prop)
    (initial : Option (List β)) (s : State α β υ) : Prop where
  copies : Copies (Made apply base s.updates) s
  text : (s.text = initial ∧ ∀ p, ¬Saving s p) ∨
    ∃ text, s.text = some text ∧ Holds format (Made apply base s.updates) text

/-- **What a load finds.** -/
theorem Sound.loaded (h : Sound format apply base initial s) (hfallback : base fallback)
    (hinitial : base (loaded format fallback initial)) :
    Made apply base s.updates (SharedText.loaded format fallback s.text) := by
  rcases h.text with ⟨htext, -⟩ | ⟨text, htext, hholds⟩
  · rw [htext]
    exact made_base hinitial
  · rw [htext]
    show Made apply base s.updates ((format.decode text).getD fallback)
    cases hread : format.decode text with
    | none => exact made_base hfallback
    | some a => exact hholds.decode hread

/-- Nobody starts to save. -/
theorem idle_put {holder : Option (Holder α)} (h : ∀ p, ¬Saving s p)
    (hidle : ∀ copy, holder ≠ some ⟨copy, true⟩) : ∀ q, ¬Saving (s.put p holder) q := by
  intro q hq
  rw [saving_put] at hq
  split at hq
  · obtain ⟨copy, hcopy⟩ := hq
    exact hidle copy hcopy
  · exact h q hq

theorem sound_step (hfallback : base fallback) (hinitial : base (loaded format fallback initial))
    (s : State α β υ) (e : Event α υ) (h : Sound format apply base initial s) :
    Sound format apply base initial (step format apply fallback s e) := by
  cases e with
  | load p =>
    rw [step]
    split
    · exact h
    · constructor
      · apply h.copies.put
        intro holder hholder
        cases hholder
        exact h.loaded hfallback hinitial
      · exact h.text.imp_left fun hfirst => ⟨hfirst.1, idle_put hfirst.2 (by simp)⟩
  | update p choose =>
    rw [step]
    split
    · rename_i copy hcopy
      split
      · exact h
      · rename_i u hu
        have hlater : Copies (Made apply base (s.updates ++ [u])) s :=
          fun q holder hq => (h.copies q holder hq).later u
        constructor
        · apply hlater.put
          intro holder hholder
          cases hholder
          exact (h.copies p _ hcopy).update u
        · rcases h.text with ⟨htext, hidle⟩ | ⟨text, htext, hholds⟩
          · exact .inl ⟨htext, idle_put hidle (by simp)⟩
          · exact .inr ⟨text, htext, hholds.mono fun a ha => ha.later u⟩
    · exact h
  | truncate p =>
    rw [step]
    split
    · rename_i copy hcopy
      exact ⟨h.copies.mark hcopy true, .inr ⟨[], rfl, .inl rfl⟩⟩
    · exact h
  | write p =>
    rw [step]
    split
    · rename_i copy hcopy
      refine ⟨h.copies.mark hcopy false, ?_⟩
      rcases h.text with ⟨-, hidle⟩ | ⟨text, htext, hholds⟩
      · exact absurd ⟨copy, hcopy⟩ (hidle p)
      · refine .inr ⟨_, rfl, ?_⟩
        rw [htext]
        exact holds_putAtStart hholds (h.copies p _ hcopy)
    · exact h
  | abandon p =>
    rw [step]
    split
    · rename_i copy hcopy
      refine ⟨h.copies.mark hcopy false, ?_⟩
      exact h.text.imp_left fun hfirst => ⟨hfirst.1, idle_put hfirst.2 (by simp)⟩
    · exact h
  | leave p =>
    rw [step]
    refine ⟨h.copies.put (fun _ hnone => nomatch hnone), ?_⟩
    exact h.text.imp_left fun hfirst => ⟨hfirst.1, idle_put hfirst.2 (by simp)⟩

theorem sound_start (format : Format α β) (apply : υ → α → α) (base : α → Prop)
    (text : Option (List β)) : Sound format apply base text (State.start text) where
  copies _ _ h := nomatch h
  text := .inl ⟨rfl, fun _ hsaving => nomatch hsaving⟩

/-- **Nothing else is ever loaded or held.** -/
theorem sound_run (hfallback : base fallback) (hinitial : base (loaded format fallback initial))
    (events : List (Event α υ)) :
    Sound format apply base initial
      (run (step format apply fallback) (State.start initial) events) :=
  run_inv (Sound format apply base initial) (sound_start format apply base initial)
    (sound_step hfallback hinitial) events

/-! ### As long as no save is disturbed -/

/-- While somebody saves, nobody loads or truncates the file, and the save neither fails nor is cut
off. -/
def Undisturbed (s : State α β υ) (e : Event α υ) : Prop :=
  ∀ p, Saving s p →
    match e with
    | .load _ | .truncate _ => False
    | .abandon q | .leave q => q ≠ p
    | .update _ _ | .write _ => True

/-- The file is empty while somebody saves, and whole otherwise. -/
structure Intact (format : Format α β) (apply : υ → α → α) (base : α → Prop)
    (initial : Option (List β)) (s : State α β υ) : Prop where
  copies : Copies (Made apply base s.updates) s
  text : (∀ p, ¬Saving s p) → s.text = initial ∨
    ∃ a, Made apply base s.updates a ∧ s.text = some (format.encode a)
  alone : ∀ p, Saving s p → s.text = some [] ∧ ∀ q, Saving s q → q = p

/-- **What a load finds** while nobody saves. -/
theorem Intact.loaded (h : Intact format apply base initial s) (hidle : ∀ p, ¬Saving s p)
    (hinitial : base (loaded format fallback initial)) :
    Made apply base s.updates (SharedText.loaded format fallback s.text) := by
  rcases h.text hidle with htext | ⟨a, ha, htext⟩
  · rw [htext]
    exact made_base hinitial
  · rw [htext]
    show Made apply base s.updates ((format.decode (format.encode a)).getD fallback)
    rw [format.decode_encode]
    exact ha

/-- A program that is not saving gets another copy, or ends. -/
theorem saving_put_idle {holder : Option (Holder α)} (hp : ¬Saving s p)
    (hidle : ∀ copy, holder ≠ some ⟨copy, true⟩) : Saving (s.put p holder) q ↔ Saving s q := by
  rw [saving_put]
  split
  · rename_i hqp
    subst hqp
    refine iff_of_false ?_ hp
    intro hq
    obtain ⟨copy, hcopy⟩ := hq
    exact hidle copy hcopy
  · exact Iff.rfl

theorem intact_step (hinitial : base (loaded format fallback initial))
    (s : State α β υ) (e : Event α υ) (h : Intact format apply base initial s)
    (he : Undisturbed s e) : Intact format apply base initial (step format apply fallback s e) := by
  cases e with
  | load p =>
    have hidle : ∀ q, ¬Saving s q := fun q hq => he q hq
    rw [step]
    split
    · exact h
    · have hnext : ∀ q,
          ¬Saving (s.put p (some ⟨SharedText.loaded format fallback s.text, false⟩)) q :=
        idle_put hidle (by simp)
      refine ⟨?_, fun _ => h.text hidle, fun q hq => absurd hq (hnext q)⟩
      apply h.copies.put
      intro holder hholder
      cases hholder
      exact h.loaded hidle hinitial
  | update p choose =>
    rw [step]
    split
    · rename_i copy hcopy
      split
      · exact h
      · rename_i u hu
        have hlater : Copies (Made apply base (s.updates ++ [u])) s :=
          fun q holder hq => (h.copies q holder hq).later u
        have hsame : ∀ q, Saving (s.put p (some ⟨apply u copy, false⟩)) q ↔ Saving s q :=
          fun q => saving_put_idle (not_saving_of_idle hcopy) (by simp)
        constructor
        · apply hlater.put
          intro holder hholder
          cases hholder
          exact (h.copies p _ hcopy).update u
        · intro hidle
          have hquiet : ∀ q, ¬Saving s q := fun q hq => hidle q ((hsame q).mpr hq)
          exact (h.text hquiet).imp_right fun hwhole => by
            obtain ⟨a, ha, htext⟩ := hwhole
            exact ⟨a, ha.later u, htext⟩
        · intro q hq
          obtain ⟨htext, hothers⟩ := h.alone q ((hsame q).mp hq)
          exact ⟨htext, fun r hr => hothers r ((hsame r).mp hr)⟩
    · exact h
  | truncate p =>
    have hidle : ∀ q, ¬Saving s q := fun q hq => he q hq
    rw [step]
    split
    · rename_i copy hcopy
      have honly : ∀ q, Saving (s.put p (some ⟨copy, true⟩)) q → q = p := by
        intro q hq
        rw [saving_put] at hq
        split at hq
        · assumption
        · exact absurd hq (hidle q)
      refine ⟨h.copies.mark hcopy true, ?_, ?_⟩
      · intro hquiet
        have hp : Saving (s.put p (some ⟨copy, true⟩)) p := by
          rw [saving_put, if_pos rfl]
          exact ⟨copy, rfl⟩
        exact absurd hp (hquiet p)
      · intro q hq
        refine ⟨rfl, fun r hr => ?_⟩
        rw [honly r hr, honly q hq]
    · exact h
  | write p =>
    rw [step]
    split
    · rename_i copy hcopy
      obtain ⟨htext, hothers⟩ := h.alone p ⟨copy, hcopy⟩
      have hquiet : ∀ q, ¬Saving (s.put p (some ⟨copy, false⟩)) q := by
        intro q hq
        rw [saving_put] at hq
        split at hq
        · obtain ⟨other, hother⟩ := hq
          cases hother
        · rename_i hne
          exact hne (hothers q hq)
      refine ⟨h.copies.mark hcopy false, fun _ => .inr ⟨copy, h.copies p _ hcopy, ?_⟩,
        fun q hq => absurd hq (hquiet q)⟩
      rw [htext]
      show some (putAtStart (format.encode copy) []) = _
      rw [putAtStart, List.drop_nil, List.append_nil]
    · exact h
  | abandon p =>
    rw [step]
    split
    · rename_i copy hcopy
      exact absurd rfl (he p ⟨copy, hcopy⟩)
    · exact h
  | leave p =>
    have hp : ¬Saving s p := fun hp => he p hp rfl
    have hsame : ∀ q, Saving (s.put p none) q ↔ Saving s q :=
      fun q => saving_put_idle hp (by simp)
    rw [step]
    refine ⟨h.copies.put (fun _ hnone => nomatch hnone), ?_, ?_⟩
    · intro hidle
      exact h.text fun q hq => hidle q ((hsame q).mpr hq)
    · intro q hq
      obtain ⟨htext, hothers⟩ := h.alone q ((hsame q).mp hq)
      exact ⟨htext, fun r hr => hothers r ((hsame r).mp hr)⟩

/-- **As long as no save is disturbed**, the fallback stands in for nothing. -/
theorem intact_run (hinitial : base (loaded format fallback initial))
    {events : List (Event α υ)}
    (h : StepsMeet Undisturbed (step format apply fallback) (State.start initial) events) :
    Intact format apply base initial
      (run (step format apply fallback) (State.start initial) events) := by
  refine h.run_inv (Intact format apply base initial) ?_ (intact_step hinitial)
  exact ⟨fun _ _ hnone => (nomatch hnone), fun _ => .inl rfl, fun _ hsaving => nomatch hsaving⟩

end Invariants

end Library.SharedText
