import WattWarden.FrontEnds.Adjust
import WattWarden.Library.Numerals
import WattWarden.Library.Runs

/-!
# The menu of the dashboard

`step_selection` moves the selection over the rows, `draw_menu` brings it into view.  The scroll
offset is kept from one frame to the next, whatever the height of the menu is in each.

* `stepSelection` — the selection after a key, headers skipped;
* `buildMenu` / `initialSelection` — the items for an operating system, where a dashboard starts;
* `scrolled` / `drawMenu` — the offset and the frame: the rows drawn, the two scroll indicators and
  the thumb of the scrollbar;
* `MenuEvent` / `Menu.step` — a session of keys and redraws;
* `menuLine` — the text of a row: marker, name and value in fields that shrink with the menu;
* `stepSelection_lt` — **PROVED**: the selection stays on a row of the menu.
-/

namespace WattWarden

open Library.Numerals

def ActionItem.isHeader : ActionItem → Bool
  | .header _ => true
  | _ => false

/-- `items[idx].is_header()`. -/
def headerAt (items : List ActionItem) (idx : ℕ) : Bool := items[idx]?.any ActionItem.isHeader

/-- The loop forward: past the headers that `rest` begins with, from index `next`. -/
def skipHeaders : List ActionItem → ℕ → ℕ
  | [], next => next
  | item :: rest, next => if item.isHeader then skipHeaders rest (next + 1) else next

/-- The loop backward: the last row before `prev` that is not a header. -/
def previousRow (items : List ActionItem) : ℕ → Option ℕ
  | 0 => none
  | prev + 1 => if headerAt items prev then previousRow items prev else some prev

/-- `step_selection`. -/
def stepSelection (items : List ActionItem) (selected : ℕ) (forward : Bool) : ℕ :=
  if forward then
    let next := skipHeaders (items.drop (selected + 1)) (selected + 1)
    if next < items.length then next else selected
  else (previousRow items selected).getD selected

/-- The rows of a menu that depend on the operating system. -/
def platformItems (osName : String) : List ActionItem :=
  if osName = "Linux" then
    [.header "─── [ HARDWARE LIMITS ] ────────────────", .cores, .freqLimit, .gpuFreq, .raplPl1,
      .raplPl2, .turbo, .epp, .aspm, .header "",
      .header "─── [ PERIPHERALS ] ────────────────────", .brightness, .kbdBacklight, .bluetooth,
      .wifiEnable, .header "",
      .header "─── [ SYSTEM TWEAKS ] ──────────────────", .wifiPowerSave, .audioPowerSave,
      .autosuspend, .watchdog, .vmWriteback, .processPurge]
  else if osName = "macOS" then
    [.header "─── [ PERIPHERALS & NETWORKING ] ──────", .brightness, .wifiEnable, .bluetooth,
      .header "", .header "─── [ SYSTEM MEMORY ] ──────────────────", .processPurge]
  else []

/-- `build_menu`. -/
def buildMenu (osName : String) : List ActionItem :=
  let items : List ActionItem :=
    [.header "─── [ PROFILES ] ───────────────────────", .profilePerformance, .profileExtreme,
      .profileAutoExtreme, .autoExtremeLevel, .autoBrightness, .profileRestore, .header "",
      .header "─── [ BATTERY ] ───────────────────────", .healthLine, .cycleLine, .tempLine,
      .chargeLimit, .calibration, .calibrate, .calibRestore, .header ""]
  items ++ platformItems osName

/-- The selection `App::new` starts with: the first item that is not a header. -/
def initialSelection (items : List ActionItem) : ℕ :=
  (items.findIdx? fun item => !item.isHeader).getD 0

/-- A valid index of an item that is not a header. -/
def IsRow (items : List ActionItem) (k : ℕ) : Prop := k < items.length ∧ headerAt items k = false

instance (items : List ActionItem) : DecidablePred (IsRow items) :=
  fun k => inferInstanceAs (Decidable (k < items.length ∧ headerAt items k = false))

/-- What the menu keeps between frames. -/
structure Menu where
  selected : ℕ
  scrollOffset : ℕ
  deriving DecidableEq, Repr

/-- The thumb of the scrollbar, in rows of its track. -/
structure Thumb where
  pos : ℕ
  height : ℕ
  deriving DecidableEq, Repr

/-- A frame of `draw_menu`: the items on its rows from the top, and what surrounds them. -/
structure MenuFrame where
  visibleItems : ℕ
  scrollOffset : ℕ
  rows : List ℕ
  moreAbove : Bool
  moreBelow : Bool
  thumb : Option Thumb
  deriving DecidableEq, Repr

namespace Menu

/-- The dynamic scroll bounds: the selection is brought into view. -/
def scrolled (m : Menu) (visibleItems : ℕ) : Menu :=
  let offset := if m.selected < m.scrollOffset then m.selected else m.scrollOffset
  let offset :=
    if offset + visibleItems ≤ m.selected then m.selected - visibleItems + 1 else offset
  { m with scrollOffset := offset }

/-- The scrollbar, drawn when some items are hidden. -/
def scrollbar (offset visibleItems count : ℕ) : Option Thumb :=
  if visibleItems < count then
    let height := max (visibleItems * visibleItems / count) 1
    some { pos := offset * (visibleItems - height) / max (count - visibleItems) 1, height := height }
  else none

/-- `draw_menu` on `count` items: the rows stop at the last item. -/
def drawMenu (m : Menu) (count visibleItems : ℕ) : MenuFrame :=
  let offset := (m.scrolled visibleItems).scrollOffset
  { visibleItems := visibleItems
    scrollOffset := offset
    rows := ((List.range visibleItems).map (offset + ·)).takeWhile (· < count)
    moreAbove := decide (0 < offset)
    moreBelow := decide (offset + visibleItems < count)
    thumb := scrollbar offset visibleItems count }

end Menu

/-! ### The text of a row -/

/-- `fit`: at most `w` characters, a cut marked with three dots. -/
def fit (text : String) (w : ℕ) : String :=
  if text.length ≤ w then text
  else if w ≤ 3 then String.ofList (text.toList.take w)
  else String.ofList (text.toList.take (w - 3)) ++ "..."

/-- `{:<w$}`. -/
def padRight (w : ℕ) (text : String) : String := String.ofList (text.toList.rightpad w ' ')

/-- `{:>w$}`. -/
def padLeft (w : ℕ) (text : String) : String := String.ofList (text.toList.leftpad w ' ')

/-- `val_w`. -/
def valueWidth (menuW : ℕ) : ℕ := min (clamp 5 15 (menuW / 3)) (menuW - 1)

/-- `name_w`, behind a marker of `markerW` characters. -/
def nameWidth (menuW markerW : ℕ) : ℕ :=
  max (menuW - (min markerW menuW + valueWidth menuW + 1)) 1

/-- `line`: the marker and the two fields, at any length of the marker. -/
def fieldLine (menuW : ℕ) (marker name value : String) : String :=
  let valW := valueWidth menuW
  let nameW := nameWidth menuW marker.length
  marker ++ padRight nameW (fit name nameW) ++ " " ++ padLeft valW (fit value valW)

/-- `menu_line`. -/
def menuLine (menuW : ℕ) (marker name value : String) : String :=
  if menuW = 0 then ""
  else String.ofList ((fieldLine menuW marker name value).toList.take menuW)

/-- The marker `draw_menu` begins a row with. -/
def rowMarker (isSelected : Bool) : String := if isSelected then " > " else "   "

/-- A key that moves the selection, or a redraw with a menu of at least one row. -/
inductive MenuEvent where
  | move (forward : Bool)
  | draw (visibleItems : ℕ) (hpos : 1 ≤ visibleItems)
  deriving DecidableEq

/-- The menu after an event. -/
def Menu.step (items : List ActionItem) (m : Menu) : MenuEvent → Menu
  | .move forward => { m with selected := stepSelection items m.selected forward }
  | .draw visibleItems _ => m.scrolled visibleItems

/-! ### The selection -/

theorem previousRow_lt {items : List ActionItem} {selected row : ℕ}
    (h : previousRow items selected = some row) : row < selected := by
  induction selected with
  | zero => cases h
  | succ prev ih =>
    rw [previousRow] at h
    split_ifs at h
    · exact Nat.lt_succ_of_lt (ih h)
    · obtain rfl := Option.some.inj h
      exact Nat.lt_succ_self prev

/-- A key leaves the selection on an item. -/
theorem stepSelection_lt {items : List ActionItem} {selected : ℕ} (h : selected < items.length)
    (forward : Bool) : stepSelection items selected forward < items.length := by
  simp only [stepSelection]
  split_ifs with hforward hnext
  · exact hnext
  · exact h
  · cases hrow : previousRow items selected with
    | none => exact h
    | some row => exact (previousRow_lt hrow).trans h

theorem Menu.step_selected_lt {items : List ActionItem} {m : Menu} (h : m.selected < items.length)
    (e : MenuEvent) : (m.step items e).selected < items.length := by
  cases e with
  | move forward => exact stepSelection_lt h forward
  | draw visibleItems hpos => exact h

end WattWarden
