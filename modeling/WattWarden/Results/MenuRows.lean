import WattWarden.FrontEnds.Menu

/-!
# The width of a menu row

`menu_line` fits the name and the value to their fields, pads them and cuts the line at the width of
the menu.  The name gives way first: only where not even one of its columns is left does the last
cut reach the value.

* `length_fit` / `length_padRight` / `length_padLeft` — **PROVED**: the widths of the fields;
* `nameWidth_of_room` — **PROVED**: with room for a column of the name, the fields tile the row;
* `menuLine_spec` — **PROVED**: a row has the width of the menu, and with room it is its fields;
* `value_suffix` — **PROVED**: with room, a value that fits its field ends the row in full;
* `rowMarker_room_iff` — **PROVED**: the rows of the dashboard have room from ten columns on.
-/

namespace WattWarden

open Library.Numerals

variable {menuW w : ℕ} {marker name value text : String}

/-! ### The fields -/

theorem length_fit (text : String) (w : ℕ) : (fit text w).length = min text.length w := by
  rw [fit]
  split_ifs with hfits hshort
  · exact (min_eq_left hfits).symm
  · rw [String.length_ofList, List.length_take, String.length_toList, min_comm]
  · rw [String.length_append, String.length_ofList, List.length_take, String.length_toList,
      show ("..." : String).length = 3 from rfl]
    omega

theorem fit_of_le (h : text.length ≤ w) : fit text w = text := if_pos h

theorem length_padRight (h : text.length ≤ w) : (padRight w text).length = w := by
  rw [padRight, String.length_ofList, List.length_rightpad, String.length_toList]
  exact max_eq_left h

theorem length_padLeft (h : text.length ≤ w) : (padLeft w text).length = w := by
  rw [padLeft, String.length_ofList, List.length_leftpad, String.length_toList]
  exact max_eq_left h

/-- The field of a text fitted to it. -/
theorem length_field (text : String) (w : ℕ) :
    (padRight w (fit text w)).length = w ∧ (padLeft w (fit text w)).length = w := by
  have hle : (fit text w).length ≤ w := by
    rw [length_fit]
    exact min_le_right _ _
  exact ⟨length_padRight hle, length_padLeft hle⟩

/-- With room for a column of the name, the fields tile the row and the value has its full field. -/
theorem nameWidth_of_room {markerW : ℕ} (h : markerW + valueWidth menuW + 2 ≤ menuW) :
    nameWidth menuW markerW = menuW - (markerW + valueWidth menuW + 1) ∧
      valueWidth menuW = clamp 5 15 (menuW / 3) := by
  rw [nameWidth]
  rw [valueWidth] at h ⊢
  omega

/-! ### The line before the cut -/

theorem length_fieldLine (menuW : ℕ) (marker name value : String) :
    (fieldLine menuW marker name value).length
      = marker.length + nameWidth menuW marker.length + 1 + valueWidth menuW := by
  have hname := (length_field name (nameWidth menuW marker.length)).1
  have hvalue := (length_field value (valueWidth menuW)).2
  rw [fieldLine, String.length_append, String.length_append, String.length_append, hname, hvalue,
    show (" " : String).length = 1 from rfl]

/-- The line is never narrower than the menu. -/
theorem le_length_fieldLine (menuW : ℕ) (marker name value : String) :
    menuW ≤ (fieldLine menuW marker name value).length := by
  rw [length_fieldLine, nameWidth]
  omega

/-- With room for the marker, a column of the name, a space and the value, nothing is cut. -/
theorem menuLine_of_room (hroom : marker.length + valueWidth menuW + 2 ≤ menuW) :
    menuLine menuW marker name value = fieldLine menuW marker name value := by
  have hlength : (fieldLine menuW marker name value).toList.length ≤ menuW := by
    rw [String.length_toList, length_fieldLine, (nameWidth_of_room hroom).1]
    omega
  rw [menuLine, if_neg (by omega), List.take_of_length_le hlength, String.ofList_toList]

/-! ### The row -/

/-- **A menu row.**  It has the width of the menu.  With room for the marker, a column of the name,
a space and the value, it is the marker, the name in what is left, a space and the value in its full
field. -/
theorem menuLine_spec (menuW : ℕ) (marker name value : String) :
    (menuLine menuW marker name value).length = menuW ∧
      (marker.length + valueWidth menuW + 2 ≤ menuW →
        menuLine menuW marker name value =
            marker ++ padRight (menuW - (marker.length + valueWidth menuW + 1))
                (fit name (menuW - (marker.length + valueWidth menuW + 1))) ++ " " ++
              padLeft (valueWidth menuW) (fit value (valueWidth menuW)) ∧
          valueWidth menuW = clamp 5 15 (menuW / 3)) := by
  constructor
  · by_cases hzero : menuW = 0
    · rw [menuLine, if_pos hzero]
      exact hzero.symm
    · rw [menuLine, if_neg hzero, String.length_ofList, List.length_take, String.length_toList]
      exact min_eq_left (le_length_fieldLine menuW marker name value)
  · intro hroom
    obtain ⟨hname, hvalue⟩ := nameWidth_of_room hroom
    refine ⟨?_, hvalue⟩
    rw [menuLine_of_room hroom, fieldLine, hname]

/-- A row of forty columns. -/
theorem menuLine_forty :
    menuLine 40 " > " "Charge Limit" "[80%]" = " > Charge Limit                    [80%]" := by
  have h := (menuLine_spec 40 " > " "Charge Limit" "[80%]").2 (by decide)
  rw [h.1]
  rfl

/-- With room, a value that fits its field ends the row in full. -/
theorem value_suffix (hroom : marker.length + valueWidth menuW + 2 ≤ menuW)
    (hvalue : value.length ≤ valueWidth menuW) :
    value.toList <:+ (menuLine menuW marker name value).toList := by
  rw [menuLine_of_room hroom, fieldLine, fit_of_le hvalue, String.toList_append, padLeft,
    String.toList_ofList]
  exact List.leftpad_suffix.trans (List.suffix_append _ _)

/-- The rows `draw_menu` draws have this room from ten columns on. -/
theorem rowMarker_room_iff (isSelected : Bool) :
    (rowMarker isSelected).length + valueWidth menuW + 2 ≤ menuW ↔ 10 ≤ menuW := by
  have hmarker : (rowMarker isSelected).length = 3 := by cases isSelected <;> rfl
  rw [hmarker, valueWidth, clamp]
  split_ifs <;> omega

end WattWarden
