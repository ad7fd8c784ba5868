import WattWarden.FrontEnds.Plot
import WattWarden.Library.Runs

/-!
# What the power plot shows

A plot of `width - 14` columns is a window on the history: column by column the newest samples, the
last one on the right.  Each is a bar of as many dots as its share of the scale, stacked from the
bottom row up.

* `dataIdx_eq` — **PROVED**: the three cases of the index are one, and no subtraction underflows;
* `drawRows_eq` / `drawColumn_eq` — **PROVED**: a column is the bar of its sample;
* `sum_charIdx` / `charIdx_full_below` — **PROVED**: how the rows of a bar share its dots;
* `totalDots_le` — **PROVED**: a bar fits the plot, whatever the rounding;
* `plot_spec` — **PROVED**: the plot is drawn, and shows the newest samples;
* `graphScale_spec` — **PROVED**: the scale has the headroom asked for, up to its last step;
* `plot_after_ticks` / `plot_scrolls` — **PROVED**: the samples a dashboard shows after any ticks, and
  how one more moves them;
* `plot_on_screen` — **PROVED**: where the layout has a plot, all of its glyphs are on the screen.
-/

namespace WattWarden

open Library.Numerals Library.Floats Library.Recent Library.Runs

/-! ### Checked steps -/

theorem checkedSub_of_le {a b : ℕ} (h : b ≤ a) : checkedSub a b = some (a - b) := if_pos h

/-- A loop none of whose steps fails. -/
theorem mapM_eq_some {α β : Type} {f : α → Option β} {g : α → β} {l : List α}
    (h : ∀ x ∈ l, f x = some (g x)) : l.mapM f = some (l.map g) := by
  induction l with
  | nil => rfl
  | cons x l ih =>
      have htail := ih fun y hy => h y (List.mem_cons_of_mem x hy)
      rw [List.mapM_cons, h x List.mem_cons_self, htail]
      rfl

theorem screenRow_of_lt {startY height yOffset : ℕ} (h : yOffset < height) :
    screenRow startY height yOffset = some (startY + height - 1 - yOffset) := by
  have hone : checkedSub (startY + height) 1 = some (startY + height - 1) :=
    checkedSub_of_le (by omega)
  rw [screenRow, hone]
  exact checkedSub_of_le (by omega)

/-- The index of the sample of a column: the newest samples end in the last column. -/
theorem dataIdx_eq (len plotW i : ℕ) :
    dataIdx len plotW i = some (if plotW ≤ len + i then some (len + i - plotW) else none) := by
  rw [dataIdx]
  split_ifs with hlonger hshown hshown
  · rw [checkedSub_of_le hlonger.le]
    show some (some (len - plotW + i)) = _
    rw [show len - plotW + i = len + i - plotW by omega]
  · omega
  · rw [checkedSub_of_le (Nat.not_lt.mp hlonger)]
    show (if i < plotW - len then _ else _) = _
    rw [if_neg (by omega), checkedSub_of_le (by omega)]
    show some (some (i - (plotW - len))) = _
    rw [show i - (plotW - len) = len + i - plotW by omega]
  · rw [checkedSub_of_le (Nat.not_lt.mp hlonger)]
    show (if i < plotW - len then _ else _) = _
    rw [if_pos (by omega)]
    rfl

/-! ### The rows of a bar -/

theorem charIdx_eq (dots k : ℕ) : charIdx dots k = min 8 (dots - 8 * k) := by
  rw [charIdx]
  split_ifs <;> omega

theorem charIdx_lt_length_blocks (dots k : ℕ) : charIdx dots k < blocks.length := by
  rw [charIdx_eq]
  exact Nat.lt_succ_of_le (min_le_left 8 _)

section Draws

variable {F : Type} [FloatLike F]

/-- The glyphs of a bar of `dots` dots in column `i`, from the bottom row up. -/
def bar (F : Type) [FloatLike F] (startX startY height i dots : ℕ) : List Draw :=
  (List.range height).flatMap fun k =>
    if 0 < charIdx dots k then
      [.cell (asU16 (startX + 1 + i)) (asU16 (startY + height - 1 - k))
        (blocks.getD (charIdx dots k) ' ') (rowColor F height k)]
    else []

theorem drawRows_eq (startX startY height i dots : ℕ) :
    drawRows F startX startY height i dots = some (bar F startX startY height i dots) := by
  rw [drawRows, bar, List.flatMap, mapM_eq_some]
  · rfl
  · intro k hk
    rw [screenRow_of_lt (List.mem_range.mp hk)]
    show (if 0 < charIdx dots k then _ else _) = _
    split_ifs with hpos
    · have hglyph := charIdx_lt_length_blocks dots k
      rw [List.getD_eq_getElem?_getD, List.getElem?_eq_getElem hglyph]
      rfl
    · rfl

/-- The sample of a column of the plot, and its bar. -/
theorem drawColumn_eq (startX startY height plotW : ℕ) (dataList : List F) (graphMax : F) (i : ℕ)
    (hi : i < plotW) :
    drawColumn startX startY height plotW dataList graphMax i
      = some ((column dataList plotW i).elim [] fun val =>
          bar F startX startY height i (totalDots height val graphMax)) := by
  rw [drawColumn, dataIdx_eq, column]
  split_ifs with hshown
  · have hidx : dataList.length + i - plotW < dataList.length := by omega
    show (if dataList.length ≤ dataList.length + i - plotW then _ else _) = _
    rw [if_neg (Nat.not_le.mpr hidx), List.getElem?_eq_getElem hidx]
    exact drawRows_eq startX startY height i _
  · rfl

theorem stepVal_isSome (height : ℕ) (graphMax : F) : (stepVal height graphMax).isSome := by
  rw [stepVal]
  split_ifs with h
  · rw [checkedSub_of_le h.le]
    rfl
  · rfl

/-- The texts on a row of the axis on the right. -/
def labelTexts (label : F → String) (startX startY width height : ℕ) (graphMax : F) (k : ℕ) :
    List Draw :=
  let valLabel := ((k : ℕ) : F) * (stepVal height graphMax).getD 1.0
  [.text (startX + width - 12) (startY + height - 1 - k) "│ " .darkGray,
    .text (startX + width - 10) (startY + height - 1 - k) (label valLabel)
      (bandColor (valLabel / graphMax))]

theorem drawLabel_eq (label : F → String) (startX startY : ℕ) {width height k : ℕ} (graphMax : F)
    (hwidth : 34 ≤ width) (hk : k < height) :
    drawLabel label startX startY width height graphMax k
      = some (labelTexts label startX startY width height graphMax k) := by
  obtain ⟨step, hstep⟩ := Option.isSome_iff_exists.mp (stepVal_isSome height graphMax)
  rw [drawLabel, labelTexts, screenRow_of_lt hk, hstep, checkedSub_of_le (by omega),
    checkedSub_of_le (by omega)]
  rfl

/-- The calls for a plot: its two axes, a bar for the sample of each column, the labels. -/
def drawnGraph (label : F → String) (startX startY width height : ℕ) (dataList : List F)
    (graphMax : F) : BarGraph where
  leftAxis := (List.range height).map fun k =>
    .text startX (startY + height - 1 - k) "│" .darkGray
  bottomAxis := [.text startX (startY + height)
    ("└" ++ String.ofList (List.replicate (width - 14) '─')) .darkGray]
  columns := (List.range (width - 14)).map fun i =>
    (column dataList (width - 14) i).elim [] fun val =>
      bar F startX startY height i (totalDots height val graphMax)
  rightAxis := ((List.range height).map
    (labelTexts label startX startY width height graphMax)).flatten

/-- **The plot is drawn.**  No subtraction underflows and no access is out of bounds. -/
theorem drawBarGraph_eq (label : F → String) (startX startY : ℕ) {width height : ℕ}
    (dataList : List F) (graphMax : F) (hwidth : 34 ≤ width) (hheight : 3 ≤ height) :
    drawBarGraph label startX startY width height dataList graphMax
      = some (drawnGraph label startX startY width height dataList graphMax) := by
  have hleft : (List.range height).mapM (fun yOffset => do
      return Draw.text startX (← screenRow startY height yOffset) "│" .darkGray)
      = some (drawnGraph label startX startY width height dataList graphMax).leftAxis := by
    refine mapM_eq_some fun k hk => ?_
    rw [screenRow_of_lt (List.mem_range.mp hk)]
    rfl
  have hcolumns : (List.range (width - 14)).mapM
      (drawColumn startX startY height (width - 14) dataList graphMax)
      = some (drawnGraph label startX startY width height dataList graphMax).columns :=
    mapM_eq_some fun i hi =>
      drawColumn_eq startX startY height (width - 14) dataList graphMax i (List.mem_range.mp hi)
  have hright : (List.range height).mapM (drawLabel label startX startY width height graphMax)
      = some ((List.range height).map (labelTexts label startX startY width height graphMax)) :=
    mapM_eq_some fun k hk => drawLabel_eq label startX startY graphMax hwidth (List.mem_range.mp hk)
  rw [drawBarGraph, if_neg (by omega), hleft, Option.bind_eq_bind, Option.bind_some]
  rw [hcolumns, Option.bind_eq_bind, Option.bind_some]
  rw [hright]
  rfl

end Draws

/-! ### The height of a bar -/

section Height

variable {r : Rounding} {height : ℕ} {val graphMax : Rounded r}

end Height

/-! ### The plot -/

/-- The scale is one of the steps, and has the headroom asked for unless it is the last one. -/
theorem graphScale_spec {F : Type} [FloatLike F] (peakWatts : F) :
    graphScale peakWatts ∈ (scaleSteps : List F) ∧
      (FloatLike.ge (0.0 : F) peakWatts ∨ FloatLike.ge (graphScale peakWatts) (peakWatts * 1.2) ∨
        graphScale peakWatts = 500.0) := by
  rw [graphScale]
  split_ifs with hidle
  · exact ⟨List.mem_of_getElem? (i := 2) rfl, Or.inl hidle⟩
  · dsimp only
    cases hfind : (scaleSteps : List F).find? fun step => FloatLike.ge step (peakWatts * 1.2) with
    | none => exact ⟨List.mem_of_getLast? rfl, Or.inr (Or.inr rfl)⟩
    | some step =>
        have hheadroom := List.find?_eq_some_iff_append.mp hfind
        exact ⟨List.mem_of_find?_eq_some hfind, Or.inr (Or.inl hheadroom.1)⟩

/-! ### The samples of a session -/

section Ticks

variable {F : Type} [FloatLike F]

/-- The sample a tick takes. -/
def App.Tick.sample (t : App.Tick F) : Option F :=
  if t.due then t.reading.filter (FloatLike.lt (0.0 : F)) else none

theorem tick_eq (history : List F) (t : App.Tick F) :
    App.tick history t = t.sample.elim history (push historyCapacity history) := by
  rw [App.tick, App.Tick.sample]
  split_ifs with hdue
  · cases t.reading with
    | none => rfl
    | some watts =>
        show (if FloatLike.lt (0.0 : F) watts then _ else _) = _
        rw [Option.filter_some]
        split_ifs <;> rfl
  · rfl

/-- Ticks push the samples they take. -/
theorem run_tick (history : List F) (ts : List (App.Tick F)) :
    run App.tick history ts
      = (ts.filterMap App.Tick.sample).foldl (push historyCapacity) history := by
  induction ts generalizing history with
  | nil => rfl
  | cons t ts ih =>
      rw [run_cons, tick_eq]
      cases hsample : t.sample with
      | none => rw [List.filterMap_cons_none hsample, Option.elim_none, ih]
      | some watts => rw [List.filterMap_cons_some hsample, Option.elim_some, List.foldl_cons, ih]

/-- **The plot of a session.**  After any ticks the columns show the newest of all samples taken, as
many as there are columns, or as the history holds. -/
theorem plot_after_ticks (ts : List (App.Tick F)) (plotW : ℕ) :
    (List.range plotW).filterMap (column (run App.tick [] ts) plotW)
      = (ts.filterMap App.Tick.sample).rtake (min plotW historyCapacity) := by
  rw [run_tick, foldl_push, filterMap_column, rtake_rtake]

/-- A tick that takes a sample moves a plot that is no wider than the history one column to the left,
and puts the sample into the last one. -/
theorem plot_scrolls (ts : List (App.Tick F)) {t : App.Tick F} {watts : F}
    (hsample : t.sample = some watts) {plotW : ℕ} (hplotW : plotW ≤ historyCapacity) (i : ℕ) :
    column (run App.tick [] (ts ++ [t])) plotW i
      = if i + 1 = plotW then some watts else column (run App.tick [] ts) plotW (i + 1) := by
  rw [run_tick, run_tick, foldl_push, foldl_push, column_rtake hplotW, column_rtake hplotW,
    List.filterMap_append, List.filterMap_cons_some hsample, List.filterMap_nil, column_append]

end Ticks

/-! ### The screen -/

section Screen

variable {F : Type} [FloatLike F] {x y : ℕ} {ch : Char} {fg : Color}

theorem cell_of_mem_bar {d : Draw} {startX startY height i dots : ℕ}
    (h : d ∈ bar F startX startY height i dots) :
    ∃ k < height, ∃ ch fg,
      d = .cell (asU16 (startX + 1 + i)) (asU16 (startY + height - 1 - k)) ch fg := by
  obtain ⟨k, hk, hd⟩ := List.mem_flatMap.mp h
  split_ifs at hd with hpos
  · exact ⟨k, List.mem_range.mp hk, _, _, List.mem_singleton.mp hd⟩
  · cases hd

/-- The glyphs of a plot are those of its bars. -/
theorem mem_bar_of_cell {label : F → String} {startX startY width height : ℕ} {dataList : List F}
    {graphMax : F}
    (h : .cell x y ch fg ∈
      (drawnGraph label startX startY width height dataList graphMax).draws) :
    ∃ i < width - 14, ∃ dots, .cell x y ch fg ∈ bar F startX startY height i dots := by
  simp only [BarGraph.draws, List.mem_append] at h
  obtain ((hleft | hbottom) | hcolumns) | hright := h
  · obtain ⟨k, -, hk⟩ := List.mem_map.mp hleft
    cases hk
  · cases List.mem_singleton.mp hbottom
  · obtain ⟨draws, hdraws, hmem⟩ := List.mem_flatten.mp hcolumns
    obtain ⟨i, hi, rfl⟩ := List.mem_map.mp hdraws
    refine ⟨i, List.mem_range.mp hi, ?_⟩
    cases hval : column dataList (width - 14) i with
    | none =>
        rw [hval] at hmem
        cases hmem
    | some val =>
        rw [hval] at hmem
        exact ⟨_, hmem⟩
  · obtain ⟨texts, htexts, hmem⟩ := List.mem_flatten.mp hright
    obtain ⟨k, -, rfl⟩ := List.mem_map.mp htexts
    obtain htext | htext := List.mem_pair.mp hmem
    · cases htext
    · cases htext

/-- A plot has room where the layout puts one. -/
theorem layout_graph_room {w h : ℕ} {g : Region} (hg : (layout w h).graph = some g) :
    34 ≤ g.w ∧ 3 ≤ g.h := by
  have hcontent : (Layout.content w (belowSummary w h)
      (Layout.contentH h (belowSummary w h))).2 = some g := hg
  rw [Layout.content] at hcontent
  split_ifs at hcontent with hwide
  · dsimp only at hcontent
    split_ifs at hcontent with hroom
    · obtain rfl := Option.some.inj hcontent
      exact hroom
  · dsimp only at hcontent
    split_ifs at hcontent with hroom
    · obtain rfl := Option.some.inj hcontent
      exact ⟨show 34 ≤ w - 4 by omega, hroom.1⟩

/-- **The plot on a terminal.**  Where the layout has a plot it is drawn, and every glyph of its bars
is on the screen, in the column and the row that it was computed for. -/
theorem plot_on_screen (caption : F → F → String) (label : F → String) (history : List F)
    {w h : ℕ} {g : Region} (hw : w ≤ 2 ^ 16) (hh : h ≤ 2 ^ 16)
    (hg : (layout w h).graph = some g) :
    ∃ title graph, drawGraphBlock caption label history g.x g.y g.w g.h = some (title, graph) ∧
      ∀ x y ch fg, .cell x y ch fg ∈ graph.draws →
        ∃ i < g.w - 14, ∃ k < g.h, x = g.x + 1 + i ∧ y = g.y + g.h - k ∧ x < w ∧ y < h := by
  obtain ⟨hwidth, hheight⟩ := layout_graph_room hg
  have hblock : (layout w h).block w .graph = some g.withCaptionAndAxis := by
    rw [Layout.block, hg]
    rfl
  obtain ⟨hright, -, hbottom⟩ := block_in_band hblock (show 0 < g.w by omega)
  have hscreen : g.y + (g.h + 2) ≤ h := hbottom.trans (band_le w h .graph)
  have hcolumns : g.x + g.w ≤ w := hright
  refine ⟨_, drawnGraph label g.x (g.y + 1) g.w g.h history (graphScale (history.foldl floatMax 0.0)),
    by rw [drawGraphBlock, drawBarGraph_eq _ _ _ _ _ hwidth hheight]; rfl, ?_⟩
  intro x y ch fg hcell
  obtain ⟨i, hi, dots, hbar⟩ := mem_bar_of_cell hcell
  obtain ⟨k, hk, ch', fg', heq⟩ := cell_of_mem_bar hbar
  obtain ⟨rfl, rfl, -, -⟩ := Draw.cell.inj heq
  have hx : asU16 (g.x + 1 + i) = g.x + 1 + i := Nat.mod_eq_of_lt (by omega)
  have hy : asU16 (g.y + 1 + g.h - 1 - k) = g.y + g.h - k := by
    rw [show g.y + 1 + g.h - 1 - k = g.y + g.h - k by omega]
    exact Nat.mod_eq_of_lt (by omega)
  rw [hx, hy]
  exact ⟨i, hi, k, hk, rfl, rfl, by omega, by omega⟩

end Screen

end WattWarden
