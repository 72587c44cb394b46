import PackGuard.Engine
import PackGuard.Proofs.Number.NotANumber

/-!
# The allowed current is a number

A derating factor can be a NaN, where two infinite distances are divided. The least of all factors
starts from one and a NaN loses against it, so **the factor of a survey is a number**
(`isNaN_survey`). The nominal maximum is finite and positive, and its product with the factor is a
number too (`isNaN_limit`).
-/

namespace PackGuard

open Binary

namespace Findings

variable {f : Findings}

theorem addValue_factor (f : Findings) (e : Entity) (q : Quantity) (l : Limit) (v : Float32) :
    (f.addValue e q l v).factor = lesser f.factor (derating v l) := by
  simp only [addValue, addFault, addAdvisory, apply_ite Findings.factor, ite_self]

theorem addStale_factor (f : Findings) (e : Entity) (v : Option Float32) :
    (f.addStale e v).factor = 0 := rfl

theorem isNaN_check (h : f.factor.isNaN = false) (e : Entity) (q : Quantity) (l : Limit)
    (r : Reading) : (f.check e q l r).factor.isNaN = false := by
  unfold check
  split
  · cases r with
    | fresh v => simp only [addValue_factor, isNaN_lesser, h, Bool.false_and]
    | stale | noData => simp only [addStale_factor, isNaN_zero]
  · exact h

theorem isNaN_checkCell (h : f.factor.isNaN = false) (s : CellSettings) (c : CellReading) :
    (f.checkCell s c).factor.isNaN = false :=
  isNaN_check (isNaN_check h ..) ..

theorem isNaN_checkCells (h : f.factor.isNaN = false) (cells : List (CellSettings × CellReading)) :
    (cells.foldl (fun f c => f.checkCell c.1 c.2) f).factor.isNaN = false := by
  induction cells generalizing f with
  | nil => exact h
  | cons c cells ih => exact ih (isNaN_checkCell h c.1 c.2)

end Findings

/-- **The factor of a survey is a number.** -/
theorem isNaN_survey (s : PackSettings) (snap : Snapshot) :
    (survey s snap).factor.isNaN = false :=
  Findings.isNaN_checkCells (Findings.isNaN_check (Findings.isNaN_check (f := {}) rfl ..) ..) _

namespace Engine

theorem withDivergence_factor (s : PackSettings) (count : Nat) (delta : Option Float32)
    (f : Findings) : (withDivergence s count delta f).factor = f.factor := by
  unfold withDivergence
  split
  · split <;> rfl
  · rfl

/-- **The allowed current is a number.** -/
theorem isNaN_limit {e : Engine} (finite : e.settings.maxCurrent.isFinite = true)
    (positive : 0 < e.settings.maxCurrent) (snap : Snapshot) :
    (e.evaluate snap).1.limit.isNaN = false := by
  simp only [evaluate, allowedCurrent]
  split
  · refine isNaN_mul finite positive ?_
    rw [withDivergence_factor]
    exact isNaN_survey e.settings snap
  · exact isNaN_zero

end Engine

end PackGuard
