import WattWarden.FrontEnds.Layout

/-!
# The rows of a dropped plot

The vertical split reserves the plot's rows from the height alone; `layout` then drops the plot on
a narrow terminal.  The menu starts where the plot would have, with the rows it has beside a plot.

* `layout_graph_none_iff` — **PROVED**: when no plot is drawn;
* `layout_menu_of_graph_none` — **PROVED**: where the menu stands then;
* `freedRows_iff` — **PROVED**: the menu has all the rows of the content region exactly on
  terminals where the split reserved none or the plot is drawn.
-/

namespace WattWarden

open Library.Numerals Layout

/-- The rows between the summary row and the footer gap. -/
def contentRows (w h : ℕ) : ℕ := contentH h (belowSummary w h)

/-- Without a plot, the menu is the whole content region. -/
def FreedRows (w h : ℕ) : Prop :=
  (layout w h).graph = none →
    (layout w h).menu.h = contentRows w h ∧ (layout w h).menu.y = belowSummary w h

theorem layout_menu (w h : ℕ) :
    (layout w h).menu = (content w (belowSummary w h) (contentRows w h)).1 := rfl

theorem layout_graph (w h : ℕ) :
    (layout w h).graph = (content w (belowSummary w h) (contentRows w h)).2 := rfl

/-- Beside the menu there is always room for a plot. -/
theorem content_of_wide {w contentH : ℕ} (y : ℕ) (hw : 110 ≤ w) (hh : 5 ≤ contentH) :
    (content w y contentH).2 ≠ none := by
  have hclamp : clamp 44 72 (w * 45 / 100) ≤ 72 ∧ clamp 44 72 (w * 45 / 100) ≤ max 44 (w / 2) := by
    simp only [clamp]
    split_ifs <;> omega
  have hroom : 34 ≤ w - (2 + clamp 44 72 (w * 45 / 100) + 2 + 2) ∧ 3 ≤ contentH - 2 := by omega
  rw [content, if_pos ⟨hw, hh⟩]
  simp only [if_pos hroom]
  exact Option.some_ne_none _

/-- Stacked, the plot is drawn from 40 columns and 7 rows on. -/
theorem content_of_stacked {w contentH : ℕ} (y : ℕ) (h : ¬(110 ≤ w ∧ 5 ≤ contentH)) :
    content w y contentH =
      if 7 ≤ contentH ∧ 40 ≤ w then
        ({ x := 2, y := y + (splitVertical contentH).1 + 3, w := w - 4,
           h := (splitVertical contentH).2 },
          some { x := 2, y := y, w := w - 4, h := (splitVertical contentH).1 })
      else ({ x := 2, y := y, w := w - 4, h := (splitVertical contentH).2 }, none) := by
  have hplot : 3 ≤ (splitVertical contentH).1 ↔ 7 ≤ contentH := by
    by_cases hrows : 7 ≤ contentH
    · exact ⟨fun _ => hrows, fun _ => (splitVertical_tiles hrows).1⟩
    · rw [splitVertical_of_lt (by omega)]
      omega
  rw [content, if_neg h]
  simp only [hplot]

/-- A plot is dropped below 40 columns, and below 7 rows (5 when it stands beside the menu). -/
theorem layout_graph_none_iff (w h : ℕ) :
    (layout w h).graph = none ↔ w < 40 ∨ contentRows w h < (if 110 ≤ w then 5 else 7) := by
  rw [layout_graph]
  by_cases hside : 110 ≤ w ∧ 5 ≤ contentRows w h
  · rw [if_pos hside.1]
    have hdrawn := content_of_wide (belowSummary w h) hside.1 hside.2
    exact ⟨fun hnone => absurd hnone hdrawn, fun hsmall => by omega⟩
  · rw [content_of_stacked _ hside]
    split_ifs with hroom hwide
    · omega
    · simp only [false_iff]
      omega
    · simp only [true_iff]
      omega
    · simp only [true_iff]
      omega

/-- The menu of a terminal without a plot has the rows the split left it. -/
theorem layout_menu_of_graph_none {w h : ℕ} (hnone : (layout w h).graph = none) :
    (layout w h).menu.y = belowSummary w h ∧
      (layout w h).menu.h = (splitVertical (contentRows w h)).2 := by
  rw [layout_graph] at hnone
  have hstacked : ¬(110 ≤ w ∧ 5 ≤ contentRows w h) :=
    fun hside => content_of_wide (belowSummary w h) hside.1 hside.2 hnone
  rw [layout_menu]
  rw [content_of_stacked _ hstacked] at hnone ⊢
  split_ifs at hnone ⊢ with hroom
  exact ⟨rfl, rfl⟩

/-- The split leaves the menu all the rows only when there are fewer than seven. -/
theorem splitVertical_all_iff (contentH : ℕ) :
    (splitVertical contentH).2 = contentH ↔ contentH < 7 := by
  by_cases h : contentH < 7
  · rw [splitVertical_of_lt h]
    exact ⟨fun _ => h, fun _ => rfl⟩
  · have := splitVertical_tiles (Nat.le_of_not_lt h)
    omega

/-- The rows of the content region of a terminal too narrow for the large banner. -/
theorem contentRows_of_narrow {w h : ℕ} (hw : w < 40) :
    contentRows w h < 7 ↔ h < (if w < 16 then 9 else if w < 24 then 12 else 14) := by
  simp only [contentRows, contentH, footer, belowSummary, belowHeader, summary, header]
  split_ifs <;> simp <;> omega

/-- **The rows of a dropped plot go to the menu** exactly when the plot is not dropped for the width
alone: from 40 columns on, and on terminals too low for a plot in the first place. -/
theorem freedRows_iff (w h : ℕ) :
    FreedRows w h ↔ 40 ≤ w ∨ h < (if w < 16 then 9 else if w < 24 then 12 else 14) := by
  have hdropped := layout_graph_none_iff w h
  constructor
  · intro hfreed
    by_contra hnot
    push Not at hnot
    have hnone := hdropped.mpr (.inl hnot.1)
    obtain ⟨-, hmenu⟩ := layout_menu_of_graph_none hnone
    rw [(hfreed hnone).1] at hmenu
    have hrows := (contentRows_of_narrow hnot.1).mp ((splitVertical_all_iff _).mp hmenu.symm)
    omega
  · intro hcond hnone
    obtain ⟨hy, hmenu⟩ := layout_menu_of_graph_none hnone
    refine ⟨?_, hy⟩
    rw [hmenu, splitVertical_all_iff]
    rcases hdropped.mp hnone with hnarrow | hrows
    · rw [contentRows_of_narrow hnarrow]
      omega
    · split_ifs at hrows <;> omega

/-- On 39 columns and 24 rows the plot is dropped, and the menu has 9 of the 17 rows. -/
theorem freedRows_narrow : ¬FreedRows 39 24 := by
  intro h
  exact absurd (h rfl).1 (by decide)

end WattWarden
