import WattWarden.FrontEnds.Layout
import WattWarden.Library.Recent
import WattWarden.Library.Rounding

/-!
# The power plot of the dashboard

`App::tick` keeps the newest samples of the power draw, `draw_bar_graph` draws one column for each of
the newest that fit: a bar of dots, eight to a row, the last row of a bar as a partial block.  Every
index subtraction and every access is checked here, so that a run without a result is a panic.

* `App.tick` — the history after a tick;
* `graphScale` — the upper bound of the axis;
* `dataIdx` — the three cases of the index of a column's sample;
* `totalDots` / `charIdx` — the height of a bar in dots, and the glyph of each of its rows;
* `drawBarGraph` / `drawGraphBlock` — the calls on the screen buffer, in order.
-/

namespace WattWarden

open Library.Numerals Library.Floats Library.Recent

variable {F : Type} [FloatLike F]

/-! ### The history -/

def historyCapacity : ℕ := 400

namespace App

/-- A call of `tick`: whether the refresh delay has passed, and what `consumption_watts` reads. -/
structure Tick (F : Type) where
  due : Bool
  reading : Option F

/-- The history after `tick`. -/
def tick (history : List F) (t : Tick F) : List F :=
  if t.due then
    match t.reading with
    | some watts => if FloatLike.lt (0.0 : F) watts then push historyCapacity history watts else history
    | none => history
  else history

end App

/-- `f64::max`, from a number that is none of the invalid ones. -/
def floatMax (a b : F) : F := if FloatLike.lt a b then b else a

/-- `STEPS` of `graph_scale`. -/
def scaleSteps : List F :=
  [5.0, 10.0, 15.0, 20.0, 25.0, 30.0, 40.0, 50.0, 60.0, 80.0, 100.0, 120.0, 150.0, 200.0, 300.0, 500.0]

/-- `graph_scale`. -/
def graphScale (peakWatts : F) : F :=
  if FloatLike.ge (0.0 : F) peakWatts then 15.0
  else
    let target := peakWatts * 1.2
    (scaleSteps.find? fun step => FloatLike.ge step target).getD 500.0

/-! ### The calls on the screen buffer -/

inductive Color where
  | darkGray
  | green
  | yellow
  | red
  deriving DecidableEq, Repr

/-- `as u16`. -/
def asU16 (n : ℕ) : ℕ := n % 2 ^ 16

/-- A call of `set_str`, or a glyph set through `cell_mut` at 16-bit coordinates. -/
inductive Draw where
  | text (x y : ℕ) (text : String) (fg : Color)
  | cell (x y : ℕ) (ch : Char) (fg : Color)
  deriving DecidableEq, Repr

/-- The calls of `draw_bar_graph`: axis, axis, a list for each column, axis with its labels. -/
structure BarGraph where
  leftAxis : List Draw
  bottomAxis : List Draw
  columns : List (List Draw)
  rightAxis : List Draw
  deriving DecidableEq, Repr

def BarGraph.draws (g : BarGraph) : List Draw :=
  g.leftAxis ++ g.bottomAxis ++ g.columns.flatten ++ g.rightAxis

/-- `BLOCKS`: the first two glyphs are blank. -/
def blocks : List Char := [' ', ' ', '▂', '▃', '▄', '▅', '▆', '▇', '█']

/-- `band_color`. -/
def bandColor (ratio : F) : Color :=
  if FloatLike.ge ratio ((2.0 : F) / 3.0) then .red
  else if FloatLike.ge ratio ((1.0 : F) / 3.0) then .yellow
  else .green

/-- `screen_y`, `yOffset` rows above the lowest one. -/
def screenRow (startY height yOffset : ℕ) : Option ℕ := do
  checkedSub (← checkedSub (startY + height) 1) yOffset

/-- `data_idx` of column `i`, where the inner `none` is a `continue`. -/
def dataIdx (len plotW i : ℕ) : Option (Option ℕ) :=
  if plotW < len then do
    return some ((← checkedSub len plotW) + i)
  else do
    let blank ← checkedSub plotW len
    if i < blank then return none
    else return some (← checkedSub i blank)

/-- `total_dots`. -/
def totalDots (height : ℕ) (val graphMax : F) : ℕ :=
  let ratio := clampFloat 0.0 1.0 (val / graphMax)
  FloatLike.toUnsigned (2 ^ 64) (ratio * ((height * 8 : ℕ) : F))

/-- `char_idx`, `yOffset` rows above the lowest one. -/
def charIdx (totalDots yOffset : ℕ) : ℕ :=
  let dotsInRow := totalDots - yOffset * 8
  if 8 ≤ dotsInRow then 8 else dotsInRow

/-- The colour of a row of the bars. -/
def rowColor (F : Type) [FloatLike F] (height yOffset : ℕ) : Color :=
  bandColor (((yOffset + 1 : ℕ) : F) / ((height : ℕ) : F))

/-- The loop over the rows of column `i`. -/
def drawRows (F : Type) [FloatLike F] (startX startY height i dots : ℕ) : Option (List Draw) := do
  let rows ← (List.range height).mapM fun yOffset => do
    let screenY ← screenRow startY height yOffset
    if 0 < charIdx dots yOffset then
      let ch ← blocks[charIdx dots yOffset]?
      return [Draw.cell (asU16 (startX + 1 + i)) (asU16 screenY) ch (rowColor F height yOffset)]
    else return []
  return rows.flatten

/-- A column of `draw_bar_graph`. -/
def drawColumn (startX startY height plotW : ℕ) (dataList : List F) (graphMax : F) (i : ℕ) :
    Option (List Draw) := do
  match ← dataIdx dataList.length plotW i with
  | none => return []
  | some idx =>
    if dataList.length ≤ idx then return []
    else
      let val ← dataList[idx]?
      drawRows F startX startY height i (totalDots height val graphMax)

/-- `step_val`. -/
def stepVal (height : ℕ) (graphMax : F) : Option F :=
  if 1 < height then (checkedSub height 1).map fun n => graphMax / ((n : ℕ) : F) else some 1.0

/-- A row of the axis on the right; `label` prints a number as `{:4.1} W` does. -/
def drawLabel (label : F → String) (startX startY width height : ℕ) (graphMax : F) (yOffset : ℕ) :
    Option (List Draw) := do
  let screenY ← screenRow startY height yOffset
  let valLabel := ((yOffset : ℕ) : F) * (← stepVal height graphMax)
  return [Draw.text (← checkedSub (startX + width) 12) screenY "│ " .darkGray,
    Draw.text (← checkedSub (startX + width) 10) screenY (label valLabel)
      (bandColor (valLabel / graphMax))]

/-- `draw_bar_graph`. -/
def drawBarGraph (label : F → String) (startX startY width height : ℕ) (dataList : List F)
    (graphMax : F) : Option BarGraph :=
  if width < 34 ∨ height < 3 then
    some { leftAxis := [], bottomAxis := [], columns := [], rightAxis := [] }
  else do
    let plotW := width - 14
    let leftAxis ← (List.range height).mapM fun yOffset => do
      return Draw.text startX (← screenRow startY height yOffset) "│" .darkGray
    let bottomAxis := [Draw.text startX (startY + height)
      ("└" ++ String.ofList (List.replicate plotW '─')) .darkGray]
    let columns ← (List.range plotW).mapM
      (drawColumn startX startY height plotW dataList graphMax)
    let rightAxis ← (List.range height).mapM
      (drawLabel label startX startY width height graphMax)
    return { leftAxis := leftAxis, bottomAxis := bottomAxis, columns := columns,
             rightAxis := rightAxis.flatten }

/-- `draw_graph_block`: the caption, and the bars one row below it. -/
def drawGraphBlock (caption : F → F → String) (label : F → String) (history : List F)
    (x y w h : ℕ) : Option (Draw × BarGraph) := do
  let peak := history.foldl floatMax 0.0
  let scale := graphScale peak
  let graph ← drawBarGraph label x (y + 1) w h history scale
  return (Draw.text x y (caption scale peak) .darkGray, graph)

end WattWarden
