import Mathlib.Data.List.TakeWhile
import WattWarden.Library.Numerals

/-!
# Lists of words on one line

Attribute files that hold a choice print all the words on one line, each followed by a blank.  Reading
the line back gives the words.

* `splitWords_append_space` — **PROVED**: a space cuts a line into two lines, each read by itself;
* `splitWhitespace_trim` — **PROVED**: what is trimmed belongs to no word;
* `unwords` / `splitWhitespace_unwords` — **PROVED**: a printed line of words reads back as the words.
-/

namespace Library.Numerals

/-- **A space cuts the line in two.** -/
theorem splitWords_append_space {c : Char} (hc : isSpace c = true) (word xs ys : List Char) :
    splitWords word (xs ++ c :: ys) = splitWords word xs ++ splitWords [] ys := by
  induction xs generalizing word with
  | nil =>
    show (if isSpace c = true then if word = [] then splitWords [] ys
      else word.reverse :: splitWords [] ys else splitWords (c :: word) ys)
      = (if word = [] then [] else [word.reverse]) ++ splitWords [] ys
    rw [if_pos hc]
    by_cases hword : word = []
    · simp [hword]
    · simp [hword]
  | cons x xs ih =>
    rw [List.cons_append, splitWords, splitWords]
    by_cases hx : isSpace x = true
    · rw [if_pos hx, if_pos hx, ih]
      by_cases hword : word = []
      · rw [if_pos hword, if_pos hword]
      · rw [if_neg hword, if_neg hword, List.cons_append]
    · rw [if_neg hx, if_neg hx, ih]

/-- Text without spaces is one word. -/
theorem splitWords_of_word {xs : List Char} (h : ∀ c ∈ xs, isSpace c = false) (word : List Char) :
    splitWords word xs = if word.reverse ++ xs = [] then [] else [word.reverse ++ xs] := by
  induction xs generalizing word with
  | nil => simp [splitWords]
  | cons x xs ih =>
    rw [List.forall_mem_cons] at h
    rw [splitWords, h.1, if_neg Bool.false_ne_true, ih h.2]
    simp

/-- Spaces belong to no word. -/
theorem splitWords_of_spaces {xs : List Char} (h : ∀ c ∈ xs, isSpace c = true) :
    splitWords [] xs = [] := by
  induction xs with
  | nil => rfl
  | cons x xs ih =>
    rw [List.forall_mem_cons] at h
    rw [splitWords, if_pos h.1, if_pos rfl]
    exact ih h.2

theorem splitWords_append_spaces {ys : List Char} (h : ∀ c ∈ ys, isSpace c = true)
    (xs : List Char) : splitWords [] (xs ++ ys) = splitWords [] xs := by
  cases ys with
  | nil => rw [List.append_nil]
  | cons y ys =>
    rw [List.forall_mem_cons] at h
    rw [splitWords_append_space h.1, splitWords_of_spaces h.2, List.append_nil]

theorem splitWords_dropWhile (xs : List Char) :
    splitWords [] (xs.dropWhile isSpace) = splitWords [] xs := by
  induction xs with
  | nil => rfl
  | cons x xs ih =>
    rw [List.dropWhile_cons]
    split
    · rename_i hx
      rw [ih]
      exact (splitWords_append_space hx [] [] xs).symm
    · rfl

/-- **What is trimmed belongs to no word.** -/
theorem splitWhitespace_trim (s : String) : splitWhitespace (trim s) = splitWhitespace s := by
  have hend : ∀ xs : List Char,
      splitWords [] (xs.reverse.dropWhile isSpace).reverse = splitWords [] xs := by
    intro xs
    have hspaces : ∀ c ∈ (xs.reverse.takeWhile isSpace).reverse, isSpace c = true := by
      intro c hc
      exact List.mem_takeWhile_imp (List.mem_reverse.mp hc)
    have hsplit : (xs.reverse.dropWhile isSpace).reverse ++ (xs.reverse.takeWhile isSpace).reverse
        = xs := by
      rw [← List.reverse_append, List.takeWhile_append_dropWhile, List.reverse_reverse]
    rw [← splitWords_append_spaces hspaces, hsplit]
  rw [splitWhitespace, splitWhitespace, trim, trimChars, String.toList_ofList, hend,
    splitWords_dropWhile]

/-- The words of a line, each followed by a blank. -/
def unwords : List (List Char) → List Char
  | [] => []
  | w :: ws => w ++ ' ' :: unwords ws

/-- Characters that make a word: at least one, and no space. -/
def IsWord (w : List Char) : Prop := w ≠ [] ∧ ∀ c ∈ w, isSpace c = false

theorem splitWords_unwords {ws : List (List Char)} (h : ∀ w ∈ ws, IsWord w) :
    splitWords [] (unwords ws) = ws := by
  induction ws with
  | nil => rfl
  | cons w ws ih =>
    rw [List.forall_mem_cons] at h
    rw [unwords, splitWords_append_space (by decide), ih h.2, splitWords_of_word h.1.2]
    simp [h.1.1]

/-- **A printed line reads back as its words.** -/
theorem splitWhitespace_unwords {ws : List String} (h : ∀ w ∈ ws, IsWord w.toList) :
    splitWhitespace (String.ofList (unwords (ws.map String.toList) ++ ['\n'])) = ws := by
  have hwords : ∀ w ∈ ws.map String.toList, IsWord w := by
    intro w hw
    obtain ⟨s, hs, rfl⟩ := List.mem_map.mp hw
    exact h s hs
  have hline : ∀ c ∈ ['\n'], isSpace c = true := List.forall_mem_singleton.mpr (by decide)
  rw [splitWhitespace, String.toList_ofList, splitWords_append_spaces hline,
    splitWords_unwords hwords, List.map_map]
  simp [Function.comp_def]

end Library.Numerals
