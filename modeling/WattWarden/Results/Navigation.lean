import Mathlib.Order.SuccPred.LinearLocallyFinite
import Mathlib.Order.Interval.Finset.Nat
import WattWarden.FrontEnds.Menu

/-!
# Navigation among the rows of a menu

The rows of a menu are the indices of its items that are not headers.  The two loops of
`step_selection` are the successor and the predecessor of the order of the rows, each held at the
last one: what is known of such orders then speaks of the keys.

* `skipHeaders_spec` / `previousRow_spec` — **PROVED**: what each loop stops at;
* `stepSelection_forward` / `stepSelection_backward` — **PROVED**: the nearest row, or none is left;
* `Row` with its `SuccOrder` and `PredOrder` — **PROVED**: the keys as the operations of an order;
* `navigation_spec` — **PROVED**: safe, nearest, reversible and complete navigation.
-/

namespace WattWarden

open Library.Runs

variable {items : List ActionItem} {selected : ℕ}

/-- `a` is before `b`, and no row lies between them. -/
def Adjacent (items : List ActionItem) (a b : ℕ) : Prop :=
  a < b ∧ ∀ j, a < j → j < b → ¬IsRow items j

/-! ### The two loops -/

/-- The loop forward stops at the first row from `next` on, or past the last item. -/
theorem skipHeaders_spec {rest : List ActionItem} {next : ℕ} (hrest : items.drop next = rest) :
    next ≤ skipHeaders rest next ∧
      (skipHeaders rest next < items.length → IsRow items (skipHeaders rest next)) ∧
      ∀ j, next ≤ j → j < skipHeaders rest next → ¬IsRow items j := by
  induction rest generalizing next with
  | nil =>
    have hend : items.length ≤ next := List.drop_eq_nil_iff.mp hrest
    refine ⟨le_rfl, fun hlt => absurd hlt ?_, fun j hj hlt => absurd hlt ?_⟩
    · exact Nat.not_lt.mpr hend
    · exact Nat.not_lt.mpr hj
  | cons item rest ih =>
    have hitem : items[next]? = some item := by
      rw [← Nat.add_zero next, ← List.getElem?_drop, hrest]
      rfl
    have htail : items.drop (next + 1) = rest := by
      rw [← List.tail_drop, hrest]
      rfl
    have hhead : headerAt items next = item.isHeader := by
      rw [headerAt, hitem]
      rfl
    obtain ⟨hle, hrow, hnone⟩ := ih htail
    rw [skipHeaders]
    split_ifs with hheader
    · refine ⟨by omega, hrow, fun j hj hlt => ?_⟩
      obtain rfl | hj := Nat.eq_or_lt_of_le hj
      · intro h
        rw [IsRow, hhead, hheader] at h
        exact Bool.noConfusion h.2
      · exact hnone j hj hlt
    · refine ⟨le_rfl, fun hlt => ⟨hlt, ?_⟩, fun j hj hlt => by omega⟩
      rw [hhead]
      exact Bool.eq_false_iff.mpr hheader

/-- The loop backward stops at the last row before `selected`. -/
theorem previousRow_spec (h : selected ≤ items.length) :
    (∀ row, previousRow items selected = some row → IsRow items row ∧ Adjacent items row selected) ∧
      (previousRow items selected = none → ∀ j < selected, ¬IsRow items j) := by
  induction selected with
  | zero =>
    refine ⟨fun row hrow => ?_, fun _ j hj => absurd hj j.not_lt_zero⟩
    cases hrow
  | succ prev ih =>
    obtain ⟨hsome, hnone⟩ := ih (by omega)
    rw [previousRow]
    split_ifs with hheader
    · have hprev : ¬IsRow items prev := fun hrow => by
        rw [IsRow, hheader] at hrow
        exact Bool.noConfusion hrow.2
      refine ⟨fun row hrow => ?_, fun hempty j hj => ?_⟩
      · obtain ⟨hisRow, hlt, hbetween⟩ := hsome row hrow
        refine ⟨hisRow, by omega, fun j hj hjlt => ?_⟩
        obtain rfl | hjlt := Nat.eq_or_lt_of_le (Nat.le_of_lt_succ hjlt)
        · exact hprev
        · exact hbetween j hj hjlt
      · obtain rfl | hj := Nat.eq_or_lt_of_le (Nat.le_of_lt_succ hj)
        · exact hprev
        · exact hnone hempty j hj
    · refine ⟨fun row hrow => ?_, fun hempty => hempty.elim⟩
      obtain rfl := Option.some.inj hrow
      exact ⟨⟨by omega, Bool.eq_false_iff.mpr hheader⟩, Nat.lt_succ_self _,
        fun j hj hjlt => by omega⟩

/-! ### A step -/

/-- A key down: the nearest row after the selection, if there is one. -/
theorem stepSelection_forward (items : List ActionItem) (selected : ℕ) :
    (IsRow items (stepSelection items selected true) ∧
        Adjacent items selected (stepSelection items selected true)) ∨
      stepSelection items selected true = selected ∧ ∀ j, IsRow items j → j ≤ selected := by
  have hrest : items.drop (selected + 1) = items.drop (selected + 1) := rfl
  obtain ⟨hle, hrow, hnone⟩ := skipHeaders_spec hrest
  simp only [stepSelection, if_true]
  split_ifs with hnext
  · exact Or.inl ⟨hrow hnext, hle, hnone⟩
  · refine Or.inr ⟨rfl, fun j hj => ?_⟩
    by_contra hlt
    exact hnone j (by omega) (by have := hj.1; omega) hj

/-- A key up: the nearest row before the selection, if there is one. -/
theorem stepSelection_backward (h : selected ≤ items.length) :
    (IsRow items (stepSelection items selected false) ∧
        Adjacent items (stepSelection items selected false) selected) ∨
      stepSelection items selected false = selected ∧ ∀ j, IsRow items j → selected ≤ j := by
  obtain ⟨hsome, hnone⟩ := previousRow_spec h
  show (IsRow items ((previousRow items selected).getD selected) ∧
      Adjacent items ((previousRow items selected).getD selected) selected) ∨
    (previousRow items selected).getD selected = selected ∧ ∀ j, IsRow items j → selected ≤ j
  cases hrow : previousRow items selected with
  | none => exact Or.inr ⟨rfl, fun j hj => Nat.not_lt.mp fun hlt => hnone hrow j hlt hj⟩
  | some row => exact Or.inl (hsome row hrow)

theorem stepSelection_isRow (h : IsRow items selected) (forward : Bool) :
    IsRow items (stepSelection items selected forward) := by
  cases forward with
  | true =>
    obtain hnext | ⟨hstay, -⟩ := stepSelection_forward items selected
    · exact hnext.1
    · rwa [hstay]
  | false =>
    obtain hprev | ⟨hstay, -⟩ := stepSelection_backward h.1.le
    · exact hprev.1
    · rwa [hstay]

theorem run_isRow (h : IsRow items selected) (keys : List Bool) :
    IsRow items (run (stepSelection items) selected keys) := by
  induction keys generalizing selected with
  | nil => exact h
  | cons forward keys ih => exact ih (stepSelection_isRow h forward)

/-! ### The order of the rows -/

/-- The rows of a menu. -/
abbrev Row (items : List ActionItem) : Type := {k : ℕ // IsRow items k}

namespace Row

/-- The selection after a key, as a row. -/
def step (row : Row items) (forward : Bool) : Row items :=
  ⟨stepSelection items row forward, stepSelection_isRow row.2 forward⟩

theorem forward_spec (row : Row items) :
    (∀ other, row < other ↔ row.step true ≤ other) ∨ row.step true = row ∧ IsMax row := by
  obtain ⟨-, hlt, hnone⟩ | ⟨hstay, hlast⟩ := stepSelection_forward items row
  · refine Or.inl fun other => ⟨fun h => ?_, fun h => ?_⟩
    · exact Nat.not_lt.mp fun hbefore => hnone other h hbefore other.2
    · exact Nat.lt_of_lt_of_le hlt h
  · exact Or.inr ⟨Subtype.ext hstay, fun other _ => hlast other other.2⟩

theorem backward_spec (row : Row items) :
    (∀ other, other < row ↔ other ≤ row.step false) ∨ row.step false = row ∧ IsMin row := by
  obtain ⟨-, hlt, hnone⟩ | ⟨hstay, hfirst⟩ := stepSelection_backward row.2.1.le
  · refine Or.inl fun other => ⟨fun h => ?_, fun h => ?_⟩
    · exact Nat.not_lt.mp fun hafter => hnone other hafter h other.2
    · exact Nat.lt_of_le_of_lt h hlt
  · exact Or.inr ⟨Subtype.ext hstay, fun other _ => hfirst other other.2⟩

/-- A key down is the successor. -/
instance : SuccOrder (Row items) :=
  SuccOrder.ofCore (fun row => row.step true)
    (fun {row} hmax other => by
      obtain hnext | ⟨-, hlast⟩ := forward_spec row
      · exact hnext other
      · exact absurd hlast hmax)
    (fun row hmax => by
      obtain hnext | ⟨hstay, -⟩ := forward_spec row
      · exact absurd ((hnext _).mpr le_rfl) hmax.not_lt
      · exact hstay)

/-- A key up is the predecessor. -/
instance : PredOrder (Row items) :=
  PredOrder.ofCore (fun row => row.step false)
    (fun {row} hmin other => by
      obtain hprev | ⟨-, hfirst⟩ := backward_spec row
      · exact hprev other
      · exact absurd hfirst hmin)
    (fun row hmin => by
      obtain hprev | ⟨hstay, -⟩ := backward_spec row
      · exact absurd ((hprev _).mpr le_rfl) hmin.not_lt
      · exact hstay)

/-- A key that moved the selection is undone by the opposite key. -/
theorem step_step_not {row : Row items} {forward : Bool} (hmoved : row.step forward ≠ row) :
    (row.step forward).step (!forward) = row := by
  cases forward with
  | true =>
    have hmax : ¬IsMax row := fun hmax => hmoved (Order.succ_eq_iff_isMax.mpr hmax)
    show Order.pred (Order.succ row) = row
    exact Order.pred_succ_of_not_isMax hmax
  | false =>
    have hmin : ¬IsMin row := fun hmin => hmoved (Order.pred_eq_iff_isMin.mpr hmin)
    show Order.succ (Order.pred row) = row
    exact Order.succ_pred_of_not_isMin hmin

theorem val_iterate_step (row : Row items) (forward : Bool) (n : ℕ) :
    ((fun r : Row items => r.step forward)^[n] row).val
      = (fun k => stepSelection items k forward)^[n] row := by
  have hsemi : Function.Semiconj (Subtype.val (p := IsRow items)) (fun r => step r forward)
      (fun k => stepSelection items k forward) := fun _ => rfl
  exact (hsemi.iterate_right n) row

/-- Every other row is reached by repeating one key. -/
theorem exists_iterate_step (row other : Row items) :
    ∃ (forward : Bool) (n : ℕ), (fun r : Row items => r.step forward)^[n] row = other := by
  obtain hle | hle := le_total row other
  · exact ⟨true, hle.exists_succ_iterate⟩
  · exact ⟨false, hle.exists_pred_iterate⟩

end Row

/-! ### A session -/

/-- **Navigation.**  From a row, keys select rows only; each key goes to the nearest row on its side,
or nowhere if none is there; the opposite key undoes a key that moved; and one key repeated reaches
any other row. -/
theorem navigation_spec (items : List ActionItem) (selected : ℕ) (h : IsRow items selected) :
    (∀ keys, IsRow items (run (stepSelection items) selected keys)) ∧
      ((IsRow items (stepSelection items selected true) ∧
          Adjacent items selected (stepSelection items selected true)) ∨
        stepSelection items selected true = selected ∧ ∀ j, IsRow items j → j ≤ selected) ∧
      ((IsRow items (stepSelection items selected false) ∧
          Adjacent items (stepSelection items selected false) selected) ∨
        stepSelection items selected false = selected ∧ ∀ j, IsRow items j → selected ≤ j) ∧
      (∀ forward, stepSelection items selected forward ≠ selected →
        stepSelection items (stepSelection items selected forward) (!forward) = selected) ∧
      ∀ other, IsRow items other → ∃ (forward : Bool) (n : ℕ),
        (fun k => stepSelection items k forward)^[n] selected = other := by
  refine ⟨run_isRow h, stepSelection_forward items selected, stepSelection_backward h.1.le, ?_, ?_⟩
  · intro forward hmoved
    let row : Row items := ⟨selected, h⟩
    have hrow : row.step forward ≠ row := fun heq => hmoved (congrArg Subtype.val heq)
    exact congrArg Subtype.val (Row.step_step_not hrow)
  · intro other hother
    obtain ⟨forward, n, hn⟩ := Row.exists_iterate_step ⟨selected, h⟩ ⟨other, hother⟩
    have hval := Row.val_iterate_step ⟨selected, h⟩ forward n
    rw [hn] at hval
    exact ⟨forward, n, hval.symm⟩

/-- Two keys down lead from the second of six items to the last, past the headers. -/
theorem navigation_six_items :
    let items : List ActionItem := [.header "─── [ PROFILES ] ───", .profilePerformance, .header "",
      .profileExtreme, .header "─── [ BATTERY ] ───", .healthLine]
    Adjacent items 1 (stepSelection items 1 true) ∧
      stepSelection items (stepSelection items 1 true) false = 1 := by
  have h := navigation_spec [.header "─── [ PROFILES ] ───", .profilePerformance, .header "",
    .profileExtreme, .header "─── [ BATTERY ] ───", .healthLine] 1 (by decide)
  obtain ⟨-, hnext, -, hundo, -⟩ := h
  refine ⟨?_, hundo true (by decide)⟩
  obtain hnext | hstay := hnext
  · exact hnext.2
  · exact absurd hstay.1 (by decide)

/-- The first item that is not a header is a row. -/
theorem initialSelection_isRow (h : ∃ k, IsRow items k) : IsRow items (initialSelection items) := by
  obtain ⟨k, hk, hheader⟩ := h
  rw [headerAt, List.getElem?_eq_getElem hk] at hheader
  cases hfind : items.findIdx? fun item => !item.isHeader with
  | none =>
    have hall := List.findIdx?_eq_none_iff.mp hfind items[k] (List.getElem_mem hk)
    rw [show items[k].isHeader = false from hheader] at hall
    exact Bool.noConfusion hall
  | some first =>
    obtain ⟨hlt, hfirst, -⟩ := List.findIdx?_eq_some_iff_getElem.mp hfind
    rw [initialSelection, hfind]
    refine ⟨hlt, ?_⟩
    rw [Option.getD_some, headerAt, List.getElem?_eq_getElem hlt]
    exact Bool.not_eq_true' _ |>.mp hfirst

/-- Every menu begins with the row of the performance profile. -/
theorem buildMenu_isRow_one (osName : String) : IsRow (buildMenu osName) 1 :=
  ⟨by rw [buildMenu, List.length_append]; exact Nat.lt_add_right _ (by decide), rfl⟩

end WattWarden
