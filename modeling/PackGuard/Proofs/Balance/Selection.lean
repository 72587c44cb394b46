import PackGuard.Balance

/-!
# What is selected

A cell is selected only if nothing excludes it and its voltage is fresh (`mem_select`), and no more
cells are selected than the settings allow (`length_select_le`).
-/

namespace PackGuard.Balance

variable {s : BalanceSettings} {cs : List Candidate}

/-- What is eligible is a candidate that nothing excludes, with its fresh voltage. -/
theorem eligible?_eq_some {low high : Float32} {c : Candidate} {e : CellIndex × Float32}
    (h : eligible? s low high c = some e) :
    c.excluded = false ∧ c.voltage = some e.2 ∧ c.index = e.1 := by
  unfold eligible? at h
  split at h
  · cases h
  · next included =>
      obtain ⟨v, fresh, h⟩ := Option.bind_eq_some_iff.1 h
      split at h
      · cases h
        exact ⟨by simpa using included, fresh, rfl⟩
      · cases h

theorem firstOf_sublist {α : Type} (most : UInt16) (xs : List α) : (firstOf most xs).Sublist xs := by
  unfold firstOf
  split
  · exact List.Sublist.refl xs
  · exact List.take_sublist _ xs

/-- **A selected cell is a candidate that nothing excludes and whose voltage is fresh.** -/
theorem mem_select {n : CellIndex} (h : n ∈ select s cs) :
    ∃ c ∈ cs, c.index = n ∧ c.excluded = false ∧ c.voltage.isSome = true := by
  unfold select at h
  split at h
  · cases h
  · next low high _ =>
      rw [List.mem_mergeSort] at h
      obtain ⟨e, chosen, rfl⟩ := List.mem_map.1 h
      have ranked := (firstOf_sublist s.most _).subset chosen
      rw [List.mem_mergeSort] at ranked
      obtain ⟨c, hc, eligible⟩ := List.mem_filterMap.1 ranked
      obtain ⟨included, fresh, index⟩ := eligible?_eq_some eligible
      exact ⟨c, hc, index, included, by rw [fresh]; rfl⟩

/-- **No more cells are selected than there may be.** -/
theorem length_select_le (bounded : s.most ≠ 0) (cs : List Candidate) :
    (select s cs).length ≤ s.most.toNat := by
  unfold select
  split
  · exact Nat.zero_le _
  · rw [List.length_mergeSort, List.length_map, firstOf, if_neg (by simpa using bounded)]
    exact List.length_take_le _ _

/-- Where there is no fresh voltage, nothing is selected. -/
theorem select_of_no_voltage (h : ∀ c ∈ cs, c.voltage = none) : select s cs = [] := by
  have nothing : voltages cs = [] := by
    simpa [voltages] using h
  simp [select, span?, nothing]

end PackGuard.Balance
