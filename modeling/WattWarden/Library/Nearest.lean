import Mathlib.Data.List.MinMax

/-!
# The nearest element of a list

A choice among the listed elements that have a distance at all: the least distance wins, and of
several elements at the least distance the first one listed.

* `FirstNearest dist l a` — `a` is that choice;
* `argmin_eq_some_iff` — **PROVED**: a search that collects the distances and takes the first minimum
  finds exactly it;
* `argmin_eq_none_iff` — **PROVED**: it finds nothing exactly when no element has a distance;
* `FirstNearest.mem`, `FirstNearest.le`, `FirstNearest.unique` — **PROVED**: the choice is listed,
  no listed element is nearer, and there is only one.
-/

namespace Library.Nearest

variable {α β : Type*} {dist : α → Option β} {l : List α} {a b : α}

/-- `a` has the least distance in `l`, and everything listed before it is strictly farther. -/
def FirstNearest [LinearOrder β] (dist : α → Option β) (l : List α) (a : α) : Prop :=
  ∃ before after d, l = before ++ a :: after ∧ dist a = some d ∧
    (∀ b ∈ before, ∀ e, dist b = some e → d < e) ∧ ∀ b ∈ after, ∀ e, dist b = some e → d ≤ e

/-- The elements of `l` that have a distance, with it. -/
def measured (dist : α → Option β) (l : List α) : List (β × α) :=
  l.filterMap fun a => (dist a).map fun d => (d, a)

theorem measured_cons_none (h : dist a = none) : measured dist (a :: l) = measured dist l := by
  rw [measured, List.filterMap_cons, h]
  rfl

theorem measured_cons_some {d : β} (h : dist a = some d) :
    measured dist (a :: l) = (d, a) :: measured dist l := by
  rw [measured, List.filterMap_cons, h]
  rfl

theorem mem_measured {d : β} : (d, a) ∈ measured dist l ↔ a ∈ l ∧ dist a = some d := by
  rw [measured, List.mem_filterMap]
  constructor
  · intro h
    obtain ⟨b, hb, hpair⟩ := h
    obtain ⟨e, he, heq⟩ := Option.map_eq_some_iff.mp hpair
    cases heq
    exact ⟨hb, he⟩
  · intro h
    obtain ⟨ha, hd⟩ := h
    exact ⟨a, ha, by rw [hd]; rfl⟩

variable [LinearOrder β]

namespace FirstNearest

theorem mem (h : FirstNearest dist l a) : a ∈ l := by
  obtain ⟨before, after, d, rfl, -⟩ := h
  simp

/-- No listed element is nearer. -/
theorem le (h : FirstNearest dist l a) (hb : b ∈ l) {d e : β} (hd : dist a = some d)
    (he : dist b = some e) : d ≤ e := by
  obtain ⟨before, after, d', rfl, hd', hbefore, hafter⟩ := h
  cases hd.symm.trans hd'
  rcases List.mem_append.mp hb with hb | hb
  · exact (hbefore b hb e he).le
  · rcases List.mem_cons.mp hb with rfl | hb
    · cases hd.symm.trans he
      exact le_rfl
    · exact hafter b hb e he

theorem dist_isSome (h : FirstNearest dist l a) : ∃ d, dist a = some d := by
  obtain ⟨before, after, d, -, hd, -⟩ := h
  exact ⟨d, hd⟩

/-- The head is the choice when everything after it is at least as far. -/
theorem head {d : β} (hd : dist a = some d) (hle : ∀ b ∈ l, ∀ e, dist b = some e → d ≤ e) :
    FirstNearest dist (a :: l) a :=
  ⟨[], l, d, rfl, hd, by simp, hle⟩

/-- An element strictly farther than the choice can be put in front. -/
theorem cons (h : FirstNearest dist l a) {d : β} (hd : dist a = some d)
    (hlt : ∀ e, dist b = some e → d < e) : FirstNearest dist (b :: l) a := by
  obtain ⟨before, after, d', rfl, hd', hbefore, hafter⟩ := h
  cases hd.symm.trans hd'
  refine ⟨b :: before, after, d, rfl, hd, ?_, hafter⟩
  rw [List.forall_mem_cons]
  exact ⟨hlt, hbefore⟩

end FirstNearest

/-- What the search finds is the first nearest element. -/
theorem firstNearest_of_argmin {d : β} (h : (measured dist l).argmin Prod.fst = some (d, a)) :
    dist a = some d ∧ FirstNearest dist l a := by
  induction l generalizing d a with
  | nil => cases h
  | cons b l ih =>
    cases hb : dist b with
    | none =>
      rw [measured_cons_none hb] at h
      obtain ⟨hd, hnear⟩ := ih h
      exact ⟨hd, hnear.cons hd (by simp [hb])⟩
    | some e =>
      rw [measured_cons_some hb, List.argmin_cons] at h
      cases hrest : (measured dist l).argmin Prod.fst with
      | none =>
        rw [hrest] at h
        cases h
        have hnil : measured dist l = [] := List.argmin_eq_none.mp hrest
        refine ⟨hb, .head hb ?_⟩
        intro c hc e' he'
        have hmem := mem_measured.mpr ⟨hc, he'⟩
        rw [hnil] at hmem
        cases hmem
      | some best =>
        obtain ⟨d', a'⟩ := best
        obtain ⟨hd', hnear⟩ := ih hrest
        rw [hrest] at h
        change (if d' < e then some (d', a') else some (e, b)) = some (d, a) at h
        split at h
        · rename_i hlt
          cases h
          refine ⟨hd', hnear.cons hd' ?_⟩
          intro e' he'
          cases hb.symm.trans he'
          exact hlt
        · rename_i hle
          cases h
          refine ⟨hb, .head hb ?_⟩
          intro c hc e' he'
          exact (not_lt.mp hle).trans (hnear.le hc hd' he')

/-- **It finds nothing only if nothing has a distance.** -/
theorem argmin_eq_none_iff :
    (measured dist l).argmin Prod.fst = none ↔ ∀ a ∈ l, dist a = none := by
  rw [List.argmin_eq_none, measured, List.filterMap_eq_nil_iff]
  simp

/-- There is at most one choice. -/
theorem FirstNearest.unique (ha : FirstNearest dist l a) (hb : FirstNearest dist l b) : a = b := by
  obtain ⟨before, after, d, hl, hd, hbefore, hafter⟩ := ha
  obtain ⟨before', after', e, hl', he, hbefore', hafter'⟩ := hb
  rw [hl] at hl'
  -- one of the two stands before the other, and is then both strictly farther and no farther
  rcases List.append_eq_append_iff.mp hl' with ⟨mid, hmid, hrest⟩ | ⟨mid, hmid, hrest⟩
  · cases mid with
    | nil => exact (List.cons.inj hrest).1
    | cons c mid =>
      rw [List.cons_append] at hrest
      obtain ⟨rfl, htail⟩ := List.cons.inj hrest
      have hlt := hbefore' a (by simp [hmid]) d hd
      have hle := hafter b (by simp [htail]) e he
      exact absurd hlt (not_lt.mpr hle)
  · cases mid with
    | nil => exact (List.cons.inj hrest).1.symm
    | cons c mid =>
      rw [List.cons_append] at hrest
      obtain ⟨rfl, htail⟩ := List.cons.inj hrest
      have hlt := hbefore b (by simp [hmid]) e he
      have hle := hafter' a (by simp [htail]) d hd
      exact absurd hlt (not_lt.mpr hle)

/-- **The search finds exactly the first nearest element.** -/
theorem argmin_eq_some_iff :
    ((measured dist l).argmin Prod.fst).map Prod.snd = some a ↔ FirstNearest dist l a := by
  constructor
  · intro h
    obtain ⟨⟨d, a'⟩, hargmin, rfl⟩ := Option.map_eq_some_iff.mp h
    exact (firstNearest_of_argmin hargmin).2
  · intro h
    cases hargmin : (measured dist l).argmin Prod.fst with
    | none =>
      obtain ⟨d, hd⟩ := h.dist_isSome
      rw [argmin_eq_none_iff.mp hargmin a h.mem] at hd
      cases hd
    | some best =>
      obtain ⟨d, a'⟩ := best
      exact congrArg some ((firstNearest_of_argmin hargmin).2.unique h)

end Library.Nearest
