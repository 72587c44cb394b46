import PackGuard.Label
import PackGuard.Ranked

/-!
# Active faults and advisories

A fault is kept under its entity and kind, with the offending value where there is one; an advisory
under its entity, quantity and kind. Both sets come out in report order: the pack, the cells by
number, the devices; then by quantity and kind. The first fault is the one that is named as the
cause when the contactor opens.
-/

namespace PackGuard

/-! ## 1. Faults -/

/-- Which fault: of whom, and of what kind. -/
structure FaultKey where
  entity : Entity
  kind : FaultKind
deriving DecidableEq, Repr

/-- There are eight places for the faults of each entity. -/
theorem FaultKind.rank_lt (k : FaultKind) : k.rank < 8 := by cases k <;> decide

instance : Ranked FaultKey where
  rank k := 8 * k.entity.rank + k.kind.rank
  rank_inj {a b} h := by
    have ha := a.kind.rank_lt
    have hb := b.kind.rank_lt
    obtain ⟨ae, ak⟩ := a
    obtain ⟨be, bk⟩ := b
    simp only at h ha hb
    have entities : ae = be := Entity.rank_inj (by omega)
    have kinds : ak = bk := FaultKind.rank_inj (by omega)
    rw [entities, kinds]

/-- The active faults, each with its offending value, which is absent for a channel that never
    delivered one. -/
abbrev FaultSet := RankedMap FaultKey (Option Float32)

namespace FaultSet

/-- Whether an entity has any active fault. -/
def affects (s : FaultSet) (e : Entity) : Bool := s.keys.any fun k => k.entity == e

/-- The fault to name as a cause. -/
def first? (s : FaultSet) : Option FaultKey := s.keys.head?

end FaultSet

/-! ## 2. Advisories -/

/-- Which advisory: about whom, which quantity, of what kind. -/
structure AdvisoryKey where
  entity : Entity
  quantity : Quantity
  kind : AdvisoryKind
deriving DecidableEq, Repr

/-- There are four places for the quantities of each entity. -/
theorem Quantity.rank_lt (q : Quantity) : q.rank < 4 := by cases q <;> decide

/-- There are four places for the advisories of each quantity. -/
theorem AdvisoryKind.rank_lt (k : AdvisoryKind) : k.rank < 4 := by cases k <;> decide

instance : Ranked AdvisoryKey where
  rank k := 16 * k.entity.rank + 4 * k.quantity.rank + k.kind.rank
  rank_inj {a b} h := by
    have ha := a.kind.rank_lt
    have hb := b.kind.rank_lt
    have qa := a.quantity.rank_lt
    have qb := b.quantity.rank_lt
    obtain ⟨ae, aq, ak⟩ := a
    obtain ⟨be, bq, bk⟩ := b
    simp only at h ha hb qa qb
    have entities : ae = be := Entity.rank_inj (by omega)
    have quantities : aq = bq := Quantity.rank_inj (by omega)
    have kinds : ak = bk := AdvisoryKind.rank_inj (by omega)
    rw [entities, quantities, kinds]

/-- The active advisories, each with the value that gave rise to it. -/
abbrev AdvisorySet := RankedMap AdvisoryKey Float32

end PackGuard
