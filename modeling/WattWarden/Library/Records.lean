import WattWarden.Library.TextSearch

/-!
# Rows of named fields

Text files that hold one record a line: a first column and then `key=value` fields, separated by
commas.  A reader takes the lines, the columns of a line, and the value of a column under a key.

* `field` / `row` / `sheet` — printing;
* `columns` / `fieldOf` / `TextSearch.lines` — reading;
* `columns_row`, `fieldOf_field`, `lines_sheet` — **PROVED**: what is printed is read back, as long as
  no text contains the separator it is printed between.
-/

namespace Library.Records

open Library.TextSearch

/-! ### Printing -/

/-- `key=value` -/
def field (f : String × String) : String := f.1 ++ "=" ++ f.2

/-- A first column and fields, with commas between them. -/
def row (first : String) (fields : List (String × String)) : String :=
  fields.foldl (fun text f => text ++ "," ++ field f) first

/-- Rows, each with its line feed. -/
def sheet (rows : List String) : String := String.join (rows.map (· ++ "\n"))

theorem toList_field (f : String × String) : (field f).toList = f.1.toList ++ '=' :: f.2.toList := by
  rw [field, String.toList_append, String.toList_append]
  exact List.append_assoc _ _ _

theorem toList_row (first : String) (fields : List (String × String)) :
    (row first fields).toList = first.toList ++ fields.flatMap fun f => ',' :: (field f).toList := by
  induction fields generalizing first with
  | nil => exact (List.append_nil _).symm
  | cons f fields ih =>
    show (row (first ++ "," ++ field f) fields).toList = _
    rw [ih, String.toList_append, String.toList_append, List.flatMap_cons]
    simp

theorem sheet_cons (text : String) (rows : List String) :
    sheet (text :: rows) = text ++ "\n" ++ sheet rows := by
  rw [sheet, List.map_cons, String.join_cons]
  rfl

theorem sheet_append (rows rows' : List String) : sheet (rows ++ rows') = sheet rows ++ sheet rows' := by
  induction rows with
  | nil => exact (String.empty_append).symm
  | cons text rows ih =>
    rw [List.cons_append, sheet_cons, sheet_cons, ih]
    exact String.append_assoc.symm

theorem join_sheets {α : Type*} (f : α → List String) (xs : List α) :
    String.join (xs.map fun x => sheet (f x)) = sheet (xs.flatMap f) := by
  induction xs with
  | nil => rfl
  | cons x xs ih => rw [List.map_cons, String.join_cons, ih, List.flatMap_cons, sheet_append]

/-! ### Reading -/

/-- The columns of a row. -/
def columns (text : String) : List String := (text.toList.splitOn ',').map String.ofList

/-- The value of a column, when it is a field with this key. -/
def fieldOf (key column : String) : Option String :=
  ((splitOnce '=' column.toList).filter fun parts => decide (String.ofList parts.1 = key)).map
    fun parts => String.ofList parts.2

/-- **A field is read back**, its value whatever it contains. -/
theorem fieldOf_field {key : String} (h : '=' ∉ key.toList) (value : String) :
    fieldOf key (field (key, value)) = some value := by
  have hsplit : splitOnce '=' (field (key, value)).toList = some (key.toList, value.toList) :=
    splitOnce_eq_some_iff.mpr ⟨toList_field _, h⟩
  rw [fieldOf, hsplit]
  simp [Option.filter]

theorem splitOn_flatMap {c : Char} {first : List Char} {parts : List (List Char)}
    (hfirst : c ∉ first) (hparts : ∀ part ∈ parts, c ∉ part) :
    (first ++ parts.flatMap fun part => c :: part).splitOn c = first :: parts := by
  induction parts generalizing first with
  | nil =>
    rw [List.flatMap_nil, List.append_nil]
    exact List.splitOn_eq_singleton hfirst
  | cons part parts ih =>
    rw [List.forall_mem_cons] at hparts
    rw [List.flatMap_cons, List.cons_append, List.splitOn_append_cons_self_of_not_mem hfirst,
      ih hparts.1 hparts.2]

/-- **A row is read back.** -/
theorem columns_row {first : String} {fields : List (String × String)} (hfirst : ',' ∉ first.toList)
    (hfields : ∀ f ∈ fields, ',' ∉ (field f).toList) :
    columns (row first fields) = first :: fields.map field := by
  have hparts : ∀ part ∈ fields.map fun f => (field f).toList, ',' ∉ part := by
    intro part hpart
    obtain ⟨f, hf, rfl⟩ := List.mem_map.mp hpart
    exact hfields f hf
  have hlist : (row first fields).toList
      = first.toList ++ (fields.map fun f => (field f).toList).flatMap fun part => ',' :: part := by
    rw [toList_row, List.flatMap_map]
  rw [columns, hlist, splitOn_flatMap hfirst hparts]
  simp [Function.comp_def]

/-- A line without a line feed, up to its own. -/
theorem lines_append_newline {line : List Char} (rest : List Char) {read : List Char}
    (hline : '\n' ∉ line) (hreturn : (read.reverse ++ line).getLast? ≠ some '\r') :
    lines read (line ++ '\n' :: rest) = (read.reverse ++ line) :: lines [] rest := by
  induction line generalizing read with
  | nil =>
    rw [List.append_nil] at hreturn ⊢
    have hhead : read.head? ≠ some '\r' := by
      rwa [List.getLast?_reverse] at hreturn
    rw [List.nil_append, lines, if_pos rfl, if_neg hhead]
  | cons c line ih =>
    rw [List.mem_cons, not_or] at hline
    rw [List.cons_append, lines, if_neg (Ne.symm hline.1)]
    have hmove : (c :: read).reverse ++ line = read.reverse ++ c :: line := by simp
    rw [← hmove] at hreturn ⊢
    exact ih hline.2 hreturn

/-- Behind a line feed the lines start afresh. -/
theorem lines_append_feed (text rest read : List Char) :
    lines read (text ++ '\n' :: rest) = lines read (text ++ ['\n']) ++ lines [] rest := by
  induction text generalizing read with
  | nil => rfl
  | cons c text ih =>
    rw [List.cons_append, List.cons_append, lines, lines]
    split
    · rw [ih, List.cons_append]
    · exact ih _

/-- **A sheet is read back**, when its rows contain no line end. -/
theorem lines_sheet {rows : List String} (hfeed : ∀ text ∈ rows, '\n' ∉ text.toList)
    (hreturn : ∀ text ∈ rows, text.toList.getLast? ≠ some '\r') :
    (lines [] (sheet rows).toList).map String.ofList = rows := by
  induction rows with
  | nil => rfl
  | cons text rows ih =>
    rw [List.forall_mem_cons] at hfeed hreturn
    have hlist : (sheet (text :: rows)).toList = text.toList ++ '\n' :: (sheet rows).toList := by
      rw [sheet_cons, String.toList_append, String.toList_append]
      exact List.append_assoc _ _ _
    have hline : lines [] (text.toList ++ '\n' :: (sheet rows).toList)
        = text.toList :: lines [] (sheet rows).toList :=
      lines_append_newline _ hfeed.1 hreturn.1
    rw [hlist, hline, List.map_cons, ih hfeed.2 hreturn.2]
    simp

end Library.Records
