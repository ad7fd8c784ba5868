import WattWarden.Library.Numerals
import Mathlib.Data.Nat.Basic

/-!
# Where the dashboard puts its blocks

`layout` and `split_vertical`: five blocks, dropped one by one as the terminal shrinks.  Rows are
dealt out from the top by a cursor, so each block of the header gets a band of rows of its own and
the footer keeps the last row; only the menu and the graph may share a band, side by side.

* `splitVertical` / `layout` — translated from the source, the header, the summary row and the
  content region each as a function of the cursor;
* `splitVertical_tiles` — **PROVED**: the plot, its three extra rows and the menu tile the region;
* `Layout.block` — the cells a block is drawn on, caption and axis rows of the graph included;
* `block_in_band` — **PROVED**: every block stays in its band of rows and inside the screen;
* `layout_fits` — **PROVED**: on every terminal, the cells of all blocks lie on the screen and no cell
  belongs to two of them.
-/

namespace WattWarden

open Library.Numerals

/-- A rectangular block of the screen. -/
structure Region where
  x : ℕ
  y : ℕ
  w : ℕ
  h : ℕ
  deriving DecidableEq, Repr

/-- Where every block goes for a given terminal size. -/
structure Layout where
  banner : Option Region
  summaryY : Option ℕ
  menu : Region
  graph : Option Region
  footerY : Option ℕ
  deriving DecidableEq, Repr

def title : String := "WATTWARDEN"

def bannerW : ℕ := 68

def bannerH : ℕ := 6

/-- `split_vertical`: the rows of the plot and of the menu. -/
def splitVertical (contentH : ℕ) : ℕ × ℕ :=
  if contentH < 7 then (0, contentH)
  else
    let raw :=
      if 26 ≤ contentH then min (contentH / 2) 20
      else if 16 ≤ contentH then contentH / 3
      else contentH / 4
    let graphH := clamp 3 (contentH - 4) raw
    (graphH, contentH - (graphH + 3))

namespace Layout

/-- The header, and the first row below it. -/
def header (w h : ℕ) : Option Region × ℕ :=
  if 72 ≤ w ∧ 28 ≤ h then
    (some { x := (w - bannerW) / 2, y := 1, w := bannerW, h := bannerH }, 1 + (bannerH + 1))
  else if 16 ≤ w ∧ 4 ≤ h then
    (some { x := (w - title.length) / 2, y := 1, w := title.length, h := 1 }, 1 + 2)
  else (none, 0)

/-- The summary row when there is room for it at `y`, and the first row below it. -/
def summary (w h y : ℕ) : Option ℕ × ℕ :=
  if 24 ≤ w ∧ y + 3 ≤ h then (some y, y + 2) else (none, y)

def footer (h : ℕ) : Option ℕ := if 3 ≤ h then some (h - 1) else none

/-- The rows between `y` and the row above the footer. -/
def contentH (h y : ℕ) : ℕ := ((footer h).elim h (· - 1)) - y

/-- The menu and the graph in the rows from `y` on: side by side, or the plot above. -/
def content (w y contentH : ℕ) : Region × Option Region :=
  if 110 ≤ w ∧ 5 ≤ contentH then
    let menuW := clamp 44 72 (w * 45 / 100)
    let gx := 2 + menuW + 2
    let gw := w - (gx + 2)
    let gh := contentH - 2
    if 34 ≤ gw ∧ 3 ≤ gh then
      ({ x := 2, y := y, w := menuW, h := contentH }, some { x := gx, y := y, w := gw, h := gh })
    else ({ x := 2, y := y, w := w - 4, h := contentH }, none)
  else
    let (plotH, menuH) := splitVertical contentH
    if 3 ≤ plotH ∧ 40 ≤ w then
      ({ x := 2, y := y + plotH + 3, w := w - 4, h := menuH },
        some { x := 2, y := y, w := w - 4, h := plotH })
    else ({ x := 2, y := y, w := w - 4, h := menuH }, none)

end Layout

open Layout in
/-- `layout`. -/
def layout (w h : ℕ) : Layout :=
  let (banner, y) := header w h
  let (summaryY, y) := summary w h y
  let (menu, graph) := content w y (contentH h y)
  { banner := banner, summaryY := summaryY, menu := menu, graph := graph, footerY := footer h }

/-! ### The cells of a block -/

/-- The blocks of the dashboard. -/
inductive Block where
  | banner
  | summary
  | menu
  | graph
  | footer
  deriving DecidableEq, Repr

namespace Region

/-- The cell in column `col` and row `row` belongs to the region. -/
def Covers (r : Region) (col row : ℕ) : Prop :=
  r.x ≤ col ∧ col < r.x + r.w ∧ r.y ≤ row ∧ row < r.y + r.h

instance (r : Region) (col row : ℕ) : Decidable (r.Covers col row) :=
  inferInstanceAs (Decidable (_ ∧ _))

/-- A whole row of a screen of width `w`. -/
def ofRow (w y : ℕ) : Region := { x := 0, y := y, w := w, h := 1 }

/-- The plot with its caption row, drawn first, and its axis row, below the bars: `draw_graph_block`
starts the bars one row down. -/
def withCaptionAndAxis (g : Region) : Region := { g with h := g.h + 2 }

end Region

/-- The cells a block is drawn on, on a screen of width `w`. -/
def Layout.block (l : Layout) (w : ℕ) : Block → Option Region
  | .banner => l.banner
  | .summary => l.summaryY.map (Region.ofRow w)
  | .menu => some l.menu
  | .graph => l.graph.map Region.withCaptionAndAxis
  | .footer => l.footerY.map (Region.ofRow w)

/-! ### The vertical split -/

/-- With room for a plot, the plot, its caption, axis and blank row and the menu tile the rows. -/
theorem splitVertical_tiles {contentH : ℕ} (h : 7 ≤ contentH) :
    3 ≤ (splitVertical contentH).1 ∧
      (splitVertical contentH).1 + 3 + (splitVertical contentH).2 = contentH := by
  rw [splitVertical, if_neg (by omega)]
  dsimp only
  generalize (if 26 ≤ contentH then min (contentH / 2) 20
    else if 16 ≤ contentH then contentH / 3 else contentH / 4) = raw
  have hlo : 3 ≤ clamp 3 (contentH - 4) raw := le_clamp (by omega)
  have hhi : clamp 3 (contentH - 4) raw ≤ contentH - 4 := clamp_le (by omega)
  omega

/-- Without room for a plot, the menu has all the rows. -/
theorem splitVertical_of_lt {contentH : ℕ} (h : contentH < 7) :
    splitVertical contentH = (0, contentH) := by
  rw [splitVertical, if_pos h]

/-! ### The bands -/

namespace Layout

/-- A region inside the columns of the screen and inside a band of rows. -/
structure Within (w lo hi : ℕ) (r : Region) : Prop where
  right_le : r.x + r.w ≤ w
  le_top : lo ≤ r.y
  bottom_le : r.y + r.h ≤ hi

theorem title_length : title.length = 10 := by decide

/-- The header is centred and ends where the cursor stands. -/
theorem header_spec (w h : ℕ) :
    (header w h).2 ≤ h - 1 ∧ ∀ r ∈ (header w h).1, Within w 0 (header w h).2 r := by
  rw [header, title_length, bannerW, bannerH]
  split
  · rename_i hroom
    refine ⟨show 1 + (6 + 1) ≤ h - 1 from by omega, ?_⟩
    intro r hr
    obtain rfl := Option.some.inj hr
    exact ⟨show (w - 68) / 2 + 68 ≤ w from by omega, Nat.zero_le _,
      show 1 + 6 ≤ 1 + (6 + 1) from by omega⟩
  · split
    · rename_i hroom
      refine ⟨show 1 + 2 ≤ h - 1 from by omega, ?_⟩
      intro r hr
      obtain rfl := Option.some.inj hr
      exact ⟨show (w - 10) / 2 + 10 ≤ w from by omega, Nat.zero_le _,
        show 1 + 1 ≤ 1 + 2 from by omega⟩
    · exact ⟨Nat.zero_le _, by simp⟩

/-- The summary row stands at the cursor, and leaves a row for the footer. -/
theorem summary_spec (w : ℕ) {h y : ℕ} (hy : y ≤ h - 1) :
    y ≤ (summary w h y).2 ∧ (summary w h y).2 ≤ h - 1 ∧
      ∀ sy ∈ (summary w h y).1, Within w y (summary w h y).2 (Region.ofRow w sy) := by
  rw [summary]
  split
  · rename_i hroom
    refine ⟨show y ≤ y + 2 from by omega, show y + 2 ≤ h - 1 from by omega, ?_⟩
    intro sy hsy
    obtain rfl := Option.some.inj hsy
    exact ⟨show 0 + w ≤ w from by omega, le_refl y, show y + 1 ≤ y + 2 from by omega⟩
  · exact ⟨le_refl y, hy, by simp⟩

/-- The content region ends above the footer row. -/
theorem contentH_spec {h y : ℕ} (hy : y ≤ h - 1) :
    y + contentH h y ≤ h ∧ (3 ≤ h → y + contentH h y ≤ h - 1) := by
  rw [contentH, footer]
  split
  · rename_i hroom
    have hend : y + (h - 1 - 1 - y) ≤ h - 1 := by omega
    exact ⟨le_trans hend (Nat.sub_le h 1), fun _ => hend⟩
  · rename_i hroom
    exact ⟨show y + (h - y) ≤ h from by omega, fun h3 => absurd h3 hroom⟩

/-- Two regions with no column in common. -/
def SideBySide (r₁ r₂ : Region) : Prop := r₁.x + r₁.w ≤ r₂.x ∨ r₂.x + r₂.w ≤ r₁.x

/-- Two regions with no row in common. -/
def Stacked (r₁ r₂ : Region) : Prop := r₁.y + r₁.h ≤ r₂.y ∨ r₂.y + r₂.h ≤ r₁.y

/-- What the content region needs of a menu and a graph. -/
structure Fits (w y contentH : ℕ) (menu : Region) (graph : Option Region) : Prop where
  menu_within : 0 < menu.w → Within w y (y + contentH) menu
  graph_within : ∀ g ∈ graph, Within w y (y + contentH) g.withCaptionAndAxis
  apart : ∀ g ∈ graph, SideBySide menu g.withCaptionAndAxis ∨ Stacked menu g.withCaptionAndAxis

/-- The menu alone, in the first rows of the region. -/
theorem fits_menu (w y : ℕ) {contentH menuH : ℕ} (h : menuH ≤ contentH) :
    Fits w y contentH { x := 2, y := y, w := w - 4, h := menuH } none where
  menu_within hpos := by
    change 0 < w - 4 at hpos
    exact ⟨show 2 + (w - 4) ≤ w from by omega, le_refl y, show y + menuH ≤ y + contentH from by omega⟩
  graph_within := by simp
  apart := by simp

/-- Menu and graph side by side. -/
theorem fits_sideBySide {w y contentH menuW : ℕ} (hw : 34 ≤ w - (2 + menuW + 2 + 2))
    (hh : 3 ≤ contentH - 2) :
    Fits w y contentH { x := 2, y := y, w := menuW, h := contentH }
      (some { x := 2 + menuW + 2, y := y, w := w - (2 + menuW + 2 + 2), h := contentH - 2 }) where
  menu_within _ := ⟨show 2 + menuW ≤ w from by omega, le_refl y, le_refl _⟩
  graph_within g hg := by
    obtain rfl := Option.some.inj hg
    exact ⟨show 2 + menuW + 2 + (w - (2 + menuW + 2 + 2)) ≤ w from by omega, le_refl y,
      show y + (contentH - 2 + 2) ≤ y + contentH from by omega⟩
  apart g hg := by
    obtain rfl := Option.some.inj hg
    exact .inl (.inl (show 2 + menuW ≤ 2 + menuW + 2 from by omega))

/-- The graph above the menu: one blank row separates them. -/
theorem fits_stacked {w y contentH plotH menuH : ℕ} (hw : 40 ≤ w)
    (htiles : plotH + 3 + menuH = contentH) :
    Fits w y contentH { x := 2, y := y + plotH + 3, w := w - 4, h := menuH }
      (some { x := 2, y := y, w := w - 4, h := plotH }) where
  menu_within _ := ⟨show 2 + (w - 4) ≤ w from by omega, show y ≤ y + plotH + 3 from by omega,
    show y + plotH + 3 + menuH ≤ y + contentH from by omega⟩
  graph_within g hg := by
    obtain rfl := Option.some.inj hg
    exact ⟨show 2 + (w - 4) ≤ w from by omega, le_refl y,
      show y + (plotH + 2) ≤ y + contentH from by omega⟩
  apart g hg := by
    obtain rfl := Option.some.inj hg
    exact .inr (.inr (show y + (plotH + 2) ≤ y + plotH + 3 from by omega))

/-- **The content region.**  Menu and graph stay in it, and apart from each other. -/
theorem content_fits (w y contentH : ℕ) :
    Fits w y contentH (content w y contentH).1 (content w y contentH).2 := by
  rw [content]
  split
  · rename_i hwide
    dsimp only
    split
    · rename_i hroom
      exact fits_sideBySide hroom.1 hroom.2
    · exact fits_menu w y (le_refl contentH)
  · dsimp only
    split
    · rename_i hroom
      have htiles : 7 ≤ contentH := by
        by_contra hlt
        rw [splitVertical_of_lt (by omega)] at hroom
        omega
      exact fits_stacked hroom.2 (splitVertical_tiles htiles).2
    · apply fits_menu
      by_cases hlt : contentH < 7
      · rw [splitVertical_of_lt hlt]
      · have htiles := splitVertical_tiles (Nat.le_of_not_lt hlt)
        omega

end Layout

/-! ### The whole screen -/

open Layout

/-- The first row below the header, and below the summary row. -/
def belowHeader (w h : ℕ) : ℕ := (header w h).2

def belowSummary (w h : ℕ) : ℕ := (summary w h (belowHeader w h)).2

/-- The rows a block may use: from the first to before the second. -/
def band (w h : ℕ) : Block → ℕ × ℕ
  | .banner => (0, belowHeader w h)
  | .summary => (belowHeader w h, belowSummary w h)
  | .menu | .graph =>
      (belowSummary w h, belowSummary w h + contentH h (belowSummary w h))
  | .footer => (h - 1, h)

theorem belowHeader_le (w h : ℕ) : belowHeader w h ≤ h - 1 := (header_spec w h).1

theorem belowSummary_spec (w h : ℕ) :
    belowHeader w h ≤ belowSummary w h ∧ belowSummary w h ≤ h - 1 :=
  ⟨(summary_spec w (belowHeader_le w h)).1, (summary_spec w (belowHeader_le w h)).2.1⟩

/-- The bands end on the screen. -/
theorem band_le (w h : ℕ) (b : Block) : (band w h b).2 ≤ h := by
  have hheader := belowHeader_le w h
  have hsummary := belowSummary_spec w h
  have hcontent := (contentH_spec hsummary.2).1
  cases b with
  | banner => exact show belowHeader w h ≤ h from by omega
  | summary => exact show belowSummary w h ≤ h from by omega
  | menu => exact hcontent
  | graph => exact hcontent
  | footer => exact le_refl h

/-- **Every block stays in its band.** -/
theorem block_in_band {w h : ℕ} {b : Block} {r : Region} (hr : (layout w h).block w b = some r)
    (hpos : 0 < r.w) : Within w (band w h b).1 (band w h b).2 r := by
  have hcontent := content_fits w (belowSummary w h) (contentH h (belowSummary w h))
  cases b with
  | banner => exact (header_spec w h).2 r hr
  | summary =>
    obtain ⟨sy, hsy, rfl⟩ := Option.map_eq_some_iff.mp hr
    exact (summary_spec w (belowHeader_le w h)).2.2 sy hsy
  | menu =>
    obtain rfl := Option.some.inj hr
    exact hcontent.menu_within hpos
  | graph =>
    obtain ⟨g, hg, rfl⟩ := Option.map_eq_some_iff.mp hr
    exact hcontent.graph_within g hg
  | footer =>
    obtain ⟨fy, hfy, rfl⟩ := Option.map_eq_some_iff.mp hr
    change footer h = some fy at hfy
    rw [footer] at hfy
    split at hfy
    · obtain rfl := Option.some.inj hfy
      exact ⟨show 0 + w ≤ w from by omega, le_refl _, show h - 1 + 1 ≤ h from by omega⟩
    · cases hfy

/-- The order of the bands from the top; the menu and the graph share theirs. -/
def Block.rank : Block → ℕ
  | .banner => 0
  | .summary => 1
  | .menu | .graph => 2
  | .footer => 3

/-- A later band starts below an earlier one. -/
theorem band_le_band {w h : ℕ} {a b : Block} (hlt : a.rank < b.rank)
    (hfooter : b = .footer → 3 ≤ h) : (band w h a).2 ≤ (band w h b).1 := by
  have hheader := belowHeader_le w h
  have hsummary := belowSummary_spec w h
  have hcontent := contentH_spec hsummary.2
  have hfoot : b = .footer → belowSummary w h + contentH h (belowSummary w h) ≤ h - 1 :=
    fun hb => hcontent.2 (hfooter hb)
  cases a <;> cases b <;> simp only [Block.rank] at hlt <;> simp only [band] at hfoot ⊢ <;>
    first | omega | exact hfoot trivial

/-- A footer is only drawn on three rows or more. -/
theorem three_le_of_footer {w h : ℕ} {r : Region}
    (hr : (layout w h).block w .footer = some r) : 3 ≤ h := by
  obtain ⟨fy, hfy, -⟩ := Option.map_eq_some_iff.mp hr
  change footer h = some fy at hfy
  rw [footer] at hfy
  split at hfy
  · assumption
  · cases hfy

theorem Region.Covers.width_pos {r : Region} {col row : ℕ} (h : r.Covers col row) : 0 < r.w := by
  have hleft := h.1
  have hright := h.2.1
  omega

/-- Blocks of different bands share no cell. -/
theorem disjoint_of_rank_lt {w h : ℕ} {a b : Block} {ra rb : Region} {col row : ℕ}
    (ha : (layout w h).block w a = some ra) (hb : (layout w h).block w b = some rb)
    (hlt : a.rank < b.rank) (hcovA : ra.Covers col row) (hcovB : rb.Covers col row) : False := by
  have hinA := block_in_band ha hcovA.width_pos
  have hinB := block_in_band hb hcovB.width_pos
  have hbands : (band w h a).2 ≤ (band w h b).1 := by
    apply band_le_band hlt
    intro hfooter
    exact three_le_of_footer (hfooter ▸ hb)
  have hrowA := hcovA.2.2.2
  have hrowB := hcovB.2.2.1
  have hbottom := hinA.bottom_le
  have htop := hinB.le_top
  omega

/-- The menu and the graph share no cell. -/
theorem disjoint_menu_graph {w h : ℕ} {rm rg : Region} {col row : ℕ}
    (hm : (layout w h).block w .menu = some rm) (hg : (layout w h).block w .graph = some rg)
    (hcovM : rm.Covers col row) (hcovG : rg.Covers col row) : False := by
  obtain rfl := Option.some.inj hm
  obtain ⟨g, hgraph, rfl⟩ := Option.map_eq_some_iff.mp hg
  have hcontent := content_fits w (belowSummary w h) (contentH h (belowSummary w h))
  obtain ⟨hm₁, hm₂, hm₃, hm₄⟩ := hcovM
  obtain ⟨hg₁, hg₂, hg₃, hg₄⟩ := hcovG
  rcases hcontent.apart g hgraph with hside | hstack
  · rcases hside with hleft | hright
    · exact absurd (lt_of_lt_of_le hm₂ hleft) (not_lt_of_ge hg₁)
    · exact absurd (lt_of_lt_of_le hg₂ hright) (not_lt_of_ge hm₁)
  · rcases hstack with habove | hbelow
    · exact absurd (lt_of_lt_of_le hm₄ habove) (not_lt_of_ge hg₃)
    · exact absurd (lt_of_lt_of_le hg₄ hbelow) (not_lt_of_ge hm₃)

/-- **The layout fits every terminal.**  For every width and height, every cell of every block lies
on the screen, and no cell belongs to two blocks. -/
theorem layout_fits (w h : ℕ) :
    (∀ b r col row, (layout w h).block w b = some r → r.Covers col row → col < w ∧ row < h) ∧
    (∀ a b ra rb col row, a ≠ b → (layout w h).block w a = some ra →
      (layout w h).block w b = some rb → ¬(ra.Covers col row ∧ rb.Covers col row)) := by
  constructor
  · intro b r col row hr hcov
    have hin := block_in_band hr hcov.width_pos
    exact ⟨lt_of_lt_of_le hcov.2.1 hin.right_le,
      lt_of_lt_of_le hcov.2.2.2 (le_trans hin.bottom_le (band_le w h b))⟩
  · intro a b ra rb col row hne ha hb hcov
    obtain ⟨hcovA, hcovB⟩ := hcov
    rcases Nat.lt_trichotomy a.rank b.rank with hlt | heq | hgt
    · exact disjoint_of_rank_lt ha hb hlt hcovA hcovB
    · -- only the menu and the graph have the same rank
      cases a <;> cases b <;> simp only [Block.rank] at heq <;> first
        | exact absurd rfl hne
        | exact disjoint_menu_graph ha hb hcovA hcovB
        | exact disjoint_menu_graph hb ha hcovB hcovA
        | omega
    · exact disjoint_of_rank_lt hb ha hgt hcovB hcovA

end WattWarden
