import PackGuard.Settings

/-!
# What settings without a defect are

Read off the checks: there are cells, they are numbered by their position in the chain, and the
nominal maximum current is a positive number.
-/

namespace PackGuard.Settings

variable {s : Settings}

/-- Without a defect no check has found anything. -/
theorem check_of_sound (h : s.defect? = none) {d : Defect} {broken : Bool}
    (check : (d, broken) ∈ s.checks) : broken = false := by
  have unfound := List.find?_eq_none.1 (Option.map_eq_none_iff.1 h)
  simpa using unfound _ check

theorem cells_of_sound (h : s.defect? = none) : s.pack.cells ≠ [] := by
  have nonempty : s.pack.cells.isEmpty = false := check_of_sound h (.head _)
  simpa using nonempty

theorem inOrder_of_sound (h : s.defect? = none) : inOrder 1 s.pack.cells = true := by
  have ordered : (!inOrder 1 s.pack.cells) = false := check_of_sound h (.tail _ (.head _))
  simpa using ordered

theorem maxCurrent_of_sound (h : s.defect? = none) :
    s.pack.maxCurrent.isFinite = true ∧ 0 < s.pack.maxCurrent := by
  have positive : (!(s.pack.maxCurrent.isFinite && 0 < s.pack.maxCurrent)) = false :=
    check_of_sound h (.tail _ (.tail _ (.head _)))
  simpa using positive

/-- Cells that stand in order are numbered by their position. -/
theorem index_of_inOrder {first : Nat} {cells : List CellSettings}
    (h : inOrder first cells = true) {k : Nat} {cell : CellSettings}
    (found : cells[k]? = some cell) : cell.index.toNat = first + k := by
  induction cells generalizing first k with
  | nil => simp at found
  | cons c cells ih =>
      simp only [inOrder, Bool.and_eq_true, beq_iff_eq] at h
      cases k with
      | zero =>
          simp only [List.getElem?_cons_zero, Option.some.injEq] at found
          rw [← found]
          exact h.1
      | succ k =>
          rw [List.getElem?_cons_succ] at found
          rw [ih h.2 found]
          omega

end PackGuard.Settings
