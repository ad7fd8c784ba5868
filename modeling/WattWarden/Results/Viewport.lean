import WattWarden.FrontEnds.Menu

/-!
# The menu's viewport through scrolling and resizing

`draw_menu` moves the scroll offset no further than the selection needs.  A frame that is higher
than the one before may therefore end below the last item.

* `scrolled_spec` — **PROVED**: the selection is in view, and where the offset then is;
* `rows_full_iff` — **PROVED**: a frame has no blank row exactly when it ends at an item;
* `thumb_in_track_of_full` — **PROVED**: with no blank row the thumb lies in its track;
* `consistent_iff` — **PROVED**: when one frame is consistent;
* `session_consistent_iff` — **PROVED**: a session draws only consistent frames exactly when each
  redraw is full in the state it meets.
-/

namespace WattWarden

open Library.Runs

namespace Menu

/-- The selection is in view, no row is blank while items are hidden, the thumb is in its track. -/
def Consistent (m : Menu) (count visibleItems : ℕ) : Prop :=
  let frame := m.drawMenu count visibleItems
  (frame.scrollOffset ≤ m.selected ∧ m.selected < frame.scrollOffset + visibleItems) ∧
    (visibleItems < count → frame.scrollOffset + visibleItems ≤ count) ∧
    ∀ thumb ∈ frame.thumb, thumb.pos + thumb.height ≤ visibleItems

/-- A frame over all items, a frame that ends at the selection because it has to move down to it,
or one whose offset, moved up to the selection at most, leaves enough items below. -/
def Full (m : Menu) (count visibleItems : ℕ) : Prop :=
  count ≤ visibleItems ∨ m.scrollOffset + visibleItems ≤ m.selected ∨
    min m.scrollOffset m.selected + visibleItems ≤ count

variable {m : Menu} {count visibleItems : ℕ}

/-- The offset of a frame: it ends at the selection, or is the old one moved up to the selection. -/
theorem scrolled_spec (m : Menu) (visibleItems : ℕ) :
    (m.scrollOffset + visibleItems ≤ m.selected ∧
        (m.scrolled visibleItems).scrollOffset = m.selected - visibleItems + 1) ∨
      (m.selected < m.scrollOffset + visibleItems ∧
        (m.scrolled visibleItems).scrollOffset = min m.scrollOffset m.selected) ∨
      (visibleItems = 0 ∧ m.selected < m.scrollOffset) := by
  simp only [scrolled]
  split_ifs <;> omega

/-- The selection is in view in every frame with a row. -/
theorem selected_in_view (m : Menu) (hpos : 1 ≤ visibleItems) :
    (m.scrolled visibleItems).scrollOffset ≤ m.selected ∧
      m.selected < (m.scrolled visibleItems).scrollOffset + visibleItems := by
  rcases scrolled_spec m visibleItems with ⟨hdown, heq⟩ | ⟨hview, heq⟩ | ⟨hzero, -⟩
  · omega
  · omega
  · omega

/-- The rows before the last item are the first ones of the range. -/
theorem takeWhile_lt_range (offset count visibleItems : ℕ) :
    ((List.range visibleItems).map (offset + ·)).takeWhile (· < count)
      = (List.range (min visibleItems (count - offset))).map (offset + ·) := by
  induction visibleItems with
  | zero => simp
  | succ v ih =>
    rw [List.range_succ, List.map_append, List.takeWhile_append, ih]
    by_cases h : offset + v < count
    · rw [show min v (count - offset) = v by omega, show min (v + 1) (count - offset) = v + 1 by omega]
      simp [List.range_succ, h]
    · rw [show min (v + 1) (count - offset) = min v (count - offset) by omega]
      split_ifs with hall
      · have hmin : v ≤ count - offset := by simpa using hall
        simp [h, hmin]
      · rfl

/-- No row of a frame is blank exactly when the items from the offset on fill it. -/
theorem rows_full_iff (m : Menu) (hpos : 1 ≤ visibleItems) :
    (m.drawMenu count visibleItems).rows.length = visibleItems ↔
      (m.drawMenu count visibleItems).scrollOffset + visibleItems ≤ count := by
  simp only [drawMenu, takeWhile_lt_range, List.length_map, List.length_range]
  omega

/-- With as many items from the offset on as the frame has rows, the thumb lies in its track. -/
theorem thumb_in_track_of_full {offset : ℕ} {thumb : Thumb} (hpos : 1 ≤ visibleItems)
    (hfull : offset + visibleItems ≤ count) (hthumb : thumb ∈ scrollbar offset visibleItems count) :
    thumb.pos + thumb.height ≤ visibleItems := by
  rw [scrollbar] at hthumb
  split_ifs at hthumb with hhidden
  · obtain rfl := Option.some.inj hthumb
    have hcount : max (count - visibleItems) 1 = count - visibleItems := by omega
    have hheight : max (visibleItems * visibleItems / count) 1 ≤ visibleItems := by
      have : visibleItems * visibleItems / count ≤ visibleItems :=
        Nat.div_le_of_le_mul (Nat.mul_le_mul_right visibleItems hhidden.le)
      omega
    have hthumbPos : offset * (visibleItems - max (visibleItems * visibleItems / count) 1) /
        (count - visibleItems) ≤ visibleItems - max (visibleItems * visibleItems / count) 1 :=
      Nat.div_le_of_le_mul (Nat.mul_le_mul_right _ (by omega))
    simp only [hcount]
    omega
  · cases hthumb

/-- **One frame.**  It is consistent exactly when it is full. -/
theorem consistent_iff (m : Menu) (hsel : m.selected < count) (hpos : 1 ≤ visibleItems) :
    m.Consistent count visibleItems ↔ m.Full count visibleItems := by
  have hspec := scrolled_spec m visibleItems
  have hblank : (visibleItems < count →
      (m.scrolled visibleItems).scrollOffset + visibleItems ≤ count) ↔
        m.Full count visibleItems := by
    rw [Full]
    omega
  rw [← hblank]
  refine ⟨fun h => h.2.1, fun h => ⟨selected_in_view m hpos, h, fun thumb hthumb => ?_⟩⟩
  by_cases hhidden : visibleItems < count
  · exact thumb_in_track_of_full hpos (h hhidden) hthumb
  · simp only [drawMenu, scrollbar, if_neg hhidden] at hthumb
    cases hthumb

/-- The frame an event draws, if it draws one, is consistent. -/
def DrawsConsistent (count : ℕ) (m : Menu) : MenuEvent → Prop
  | .move _ => True
  | .draw visibleItems _ => m.Consistent count visibleItems

/-- A redraw meets a full frame. -/
def DrawsFull (count : ℕ) (m : Menu) : MenuEvent → Prop
  | .move _ => True
  | .draw visibleItems _ => m.Full count visibleItems

/-- **A session of keys and redraws** shows only consistent frames exactly when each of its redraws
is full in the state it is made in. -/
theorem session_consistent_iff (items : List ActionItem) {selected : ℕ}
    (hsel : selected < items.length) (es : List MenuEvent) :
    StepsMeet (DrawsConsistent items.length) (Menu.step items) ⟨selected, 0⟩ es ↔
      StepsMeet (DrawsFull items.length) (Menu.step items) ⟨selected, 0⟩ es := by
  apply stepsMeet_iff fun m => m.selected < items.length
  · exact hsel
  · exact fun m e hm => step_selected_lt hm e
  · intro m e hm
    cases e with
    | move forward => exact Iff.rfl
    | draw visibleItems hpos => exact consistent_iff m hm hpos

/-- Drawn on 5 rows and then on 3, a menu of 8 items is full each time, and so consistent. -/
theorem session_consistent_iff_shrinking :
    let shrinking : List MenuEvent := [.draw 5 (by decide), .move false, .draw 3 (by decide)]
    let step := Menu.step (List.replicate 8 .turbo)
    StepsMeet (DrawsFull 8) step ⟨7, 0⟩ shrinking ∧
      StepsMeet (DrawsConsistent 8) step ⟨7, 0⟩ shrinking ∧
      (StepsMeet (DrawsConsistent 8) step ⟨7, 0⟩ shrinking ↔
        StepsMeet (DrawsFull 8) step ⟨7, 0⟩ shrinking) := by
  intro shrinking step
  have hiff := session_consistent_iff (List.replicate 8 .turbo) (show 7 < 8 by decide) shrinking
  have hfull : StepsMeet (DrawsFull 8) step ⟨7, 0⟩ shrinking :=
    ⟨.inr (.inl (by decide)), trivial, .inr (.inl (by decide)), trivial⟩
  exact ⟨hfull, hiff.mpr hfull, hiff⟩

/-- Scrolled to the last of 30 items on 5 rows and then drawn on 20, the menu has 15 blank rows and
its thumb ends 10 rows below the track. -/
theorem session_inconsistent_growing :
    ¬StepsMeet (DrawsConsistent 30) (Menu.step (List.replicate 30 .turbo)) ⟨29, 0⟩
      [.draw 5 (by decide), .draw 20 (by decide)] := by
  intro h
  exact absurd (h.2.1.2.1 (by decide)) (by decide)

end Menu

end WattWarden
