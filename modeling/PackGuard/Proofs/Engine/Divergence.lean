import PackGuard.Proofs.Engine.Findings

/-!
# When a divergence is reported

The voltage of the pack and the corrected sum of its cells are compared wherever all of these voltages
are fresh. A single difference beyond the tolerance may be chance, so only several of them are reported.

* `Snapshot.Shows`: the voltages of a complete snapshot. `PackSettings.difference`: what is computed of
  them.
* `PackSettings.Diverges`, `PackSettings.Agrees`: a complete snapshot does one or the other, an
  incomplete one neither.
* `divergence?_eq_some_iff`: **what an evaluation compares is the difference of a complete snapshot**.
* `divergingSince`: the diverging snapshots of a history behind the last one that agreed.
* `Engine.diverging_after`: **the engine's count is their number**, as far as it reaches.
* `Engine.divergence_exact`: **a divergence is reported exactly if the last snapshot diverges and enough
  of them have done so**; incomplete snapshots do not matter.
-/

namespace PackGuard

open Binary

/-! ## 1. Snapshots that can be compared -/

/-- All voltages are fresh. -/
def Snapshot.Complete (snap : Snapshot) : Prop :=
  snap.voltage.isFresh = true ∧ ∀ c ∈ snap.cells, c.voltage.isFresh = true

instance (snap : Snapshot) : Decidable snap.Complete := inferInstanceAs (Decidable (_ ∧ _))

/-- **The voltages that a snapshot shows**: that of the pack is `u`, those of the cells are `vs`, in
    their order, and all are fresh. -/
structure Snapshot.Shows (snap : Snapshot) (u : Float32) (vs : List Float32) : Prop where
  pack : snap.voltage = .fresh u
  cells : snap.cells.map (·.voltage) = vs.map .fresh

namespace PackSettings

/-- The difference between the voltage of the pack and the corrected sum of its cells. -/
def difference (s : PackSettings) (u : Float32) (vs : List Float32) : Float32 :=
  (u - s.cross.correction * vs.foldl (· + ·) 0).abs

/-- **A complete snapshot whose voltages differ by more than the tolerance.** -/
def Diverges (s : PackSettings) (snap : Snapshot) : Prop :=
  ∃ u vs, snap.Shows u vs ∧ s.cross.tolerance < s.difference u vs

/-- **A complete snapshot whose voltages do not.** -/
def Agrees (s : PackSettings) (snap : Snapshot) : Prop :=
  ∃ u vs, snap.Shows u vs ∧ ¬ s.cross.tolerance < s.difference u vs

end PackSettings

theorem Reading.isFresh_iff {r : Reading} : r.isFresh = true ↔ ∃ v, r = .fresh v := by
  cases r <;> simp [isFresh, fresh?]

theorem Reading.fresh?_eq_some_iff {r : Reading} {v : Float32} : r.fresh? = some v ↔ r = .fresh v := by
  cases r <;> simp [fresh?]

/-- A snapshot is complete exactly if it shows voltages. -/
theorem Snapshot.complete_iff {snap : Snapshot} : snap.Complete ↔ ∃ u vs, snap.Shows u vs := by
  constructor
  · rintro ⟨pack, cells⟩
    obtain ⟨u, fresh⟩ := Reading.isFresh_iff.1 pack
    have values : snap.cells.map (·.voltage) ∈ Set.range (List.map Reading.fresh) := by
      rw [Set.range_list_map]
      intro r mem
      obtain ⟨c, hc, rfl⟩ := List.mem_map.1 mem
      obtain ⟨v, shown⟩ := Reading.isFresh_iff.1 (cells c hc)
      exact ⟨v, shown.symm⟩
    obtain ⟨vs, same⟩ := values
    exact ⟨u, vs, fresh, same.symm⟩
  · rintro ⟨u, vs, fresh, same⟩
    refine ⟨fresh ▸ rfl, fun c mem => ?_⟩
    have shown : c.voltage ∈ vs.map Reading.fresh := same ▸ List.mem_map_of_mem mem
    obtain ⟨v, -, shown⟩ := List.mem_map.1 shown
    exact shown ▸ rfl

/-! ## 2. What is compared -/

/-- Without a sum so far there is none. -/
theorem foldl_sum_none (cells : List CellReading) :
    cells.foldl (fun acc c => acc.bind fun sum => c.voltage.fresh?.map fun v => sum + v) none =
      (none : Option Float32) := by
  induction cells with
  | nil => rfl
  | cons c cells ih => exact ih

/-- Cells are summed up as far as all of them show a voltage. -/
theorem foldl_sum_eq_some_iff {cells : List CellReading} {start sum : Float32} :
    cells.foldl (fun acc c => acc.bind fun sum => c.voltage.fresh?.map fun v => sum + v) (some start) =
        some sum ↔
      ∃ vs : List Float32, cells.map (·.voltage) = vs.map .fresh ∧ vs.foldl (· + ·) start = sum := by
  induction cells generalizing start with
  | nil => simp
  | cons c cells ih =>
      rw [List.foldl_cons, Option.bind_some]
      cases shown : c.voltage.fresh? with
      | none =>
          rw [Option.map_none, foldl_sum_none]
          refine iff_of_false nofun ?_
          rintro ⟨_ | ⟨v, vs⟩, same, -⟩
          · cases same
          · rw [Reading.fresh?_eq_some_iff.2 (List.cons.inj same).1] at shown
            cases shown
      | some v =>
          rw [Option.map_some, ih, List.map_cons, Reading.fresh?_eq_some_iff.1 shown]
          constructor
          · rintro ⟨vs, same, total⟩
            exact ⟨v :: vs, by rw [same, List.map_cons], total⟩
          · rintro ⟨_ | ⟨v', vs⟩, same, total⟩
            · cases same
            · obtain ⟨first, rest⟩ := List.cons.inj same
              cases first
              exact ⟨vs, rest, total⟩

/-- **What an evaluation compares is the difference of a complete snapshot.** -/
theorem divergence?_eq_some_iff {s : PackSettings} {snap : Snapshot} {d : Float32} :
    divergence? s snap = some d ↔ ∃ u vs, snap.Shows u vs ∧ s.difference u vs = d := by
  simp only [divergence?, cellSum?, Option.bind_eq_some_iff, Option.map_eq_some_iff,
    foldl_sum_eq_some_iff, Reading.fresh?_eq_some_iff]
  constructor
  · rintro ⟨u, pack, _, ⟨vs, cells, rfl⟩, rfl⟩
    exact ⟨u, vs, ⟨pack, cells⟩, by rw [PackSettings.difference, product_comm]⟩
  · rintro ⟨u, vs, ⟨pack, cells⟩, rfl⟩
    exact ⟨u, pack, _, ⟨vs, cells, rfl⟩, by rw [PackSettings.difference, product_comm]⟩

/-- It compares exactly the complete snapshots. -/
theorem isSome_divergence?_iff {s : PackSettings} {snap : Snapshot} :
    (divergence? s snap).isSome = true ↔ snap.Complete := by
  rw [Option.isSome_iff_exists, Snapshot.complete_iff]
  constructor
  · rintro ⟨d, compared⟩
    obtain ⟨u, vs, shows, -⟩ := divergence?_eq_some_iff.1 compared
    exact ⟨u, vs, shows⟩
  · rintro ⟨u, vs, shows⟩
    exact ⟨_, divergence?_eq_some_iff.2 ⟨u, vs, shows, rfl⟩⟩

namespace PackSettings

variable {s : PackSettings} {snap : Snapshot}

/-- What holds of the difference of a snapshot holds of what is compared. -/
theorem exists_shows_iff {P : Float32 → Prop} :
    (∃ u vs, snap.Shows u vs ∧ P (s.difference u vs)) ↔ ∃ d ∈ divergence? s snap, P d := by
  constructor
  · rintro ⟨u, vs, shows, holds⟩
    exact ⟨_, divergence?_eq_some_iff.2 ⟨u, vs, shows, rfl⟩, holds⟩
  · rintro ⟨d, compared, holds⟩
    obtain ⟨u, vs, shows, rfl⟩ := divergence?_eq_some_iff.1 compared
    exact ⟨u, vs, shows, holds⟩

theorem diverges_iff : s.Diverges snap ↔ ∃ d ∈ divergence? s snap, s.cross.tolerance < d :=
  exists_shows_iff

theorem agrees_iff : s.Agrees snap ↔ ∃ d ∈ divergence? s snap, ¬ s.cross.tolerance < d :=
  exists_shows_iff (P := fun d => ¬ s.cross.tolerance < d)

instance : Decidable (s.Diverges snap) := decidable_of_iff _ diverges_iff.symm

instance : Decidable (s.Agrees snap) := decidable_of_iff _ agrees_iff.symm

end PackSettings

/-! ## 3. What is counted -/

/-- **The diverging snapshots of a history behind the last one that agreed**, or behind its start. -/
def divergingSince (s : PackSettings) (history : List Snapshot) : Nat :=
  (history.rtakeWhile fun snap => ¬ s.Agrees snap).countP fun snap => s.Diverges snap

/-- One more snapshot counts as an evaluation counts it. -/
theorem divergingSince_concat (s : PackSettings) (history : List Snapshot) (snap : Snapshot) :
    divergingSince s (history ++ [snap]) =
      match divergence? s snap with
      | none => divergingSince s history
      | some d => if s.cross.tolerance < d then divergingSince s history + 1 else 0 := by
  have agrees : s.Agrees snap ↔ _ := PackSettings.agrees_iff
  have diverges : s.Diverges snap ↔ _ := PackSettings.diverges_iff
  unfold divergingSince
  rw [List.rtakeWhile_concat]
  cases compared : divergence? s snap with
  | none => simp [agrees, diverges, compared]
  | some d => by_cases beyond : s.cross.tolerance < d <;> simp [agrees, diverges, compared, beyond]

namespace Engine

theorem after_concat (s : PackSettings) (earlier : List Snapshot) (snap : Snapshot) :
    after s (earlier ++ [snap]) = ((after s earlier).evaluate snap).2 := by
  rw [after, List.foldl_concat]
  rfl

/-- **The engine's count is the number of diverging snapshots behind the last one that agreed**, up to
    the greatest count. -/
theorem diverging_after (s : PackSettings) (history : List Snapshot) :
    (after s history).diverging = min (divergingSince s history) mostDiverging := by
  induction history using List.reverseRecOn with
  | nil => rfl
  | append_singleton history snap ih =>
      rw [after_concat, divergingSince_concat]
      show countDiverging (after s history).settings (after s history).diverging
        (divergence? (after s history).settings snap) = _
      rw [settings_after, ih]
      cases divergence? s snap with
      | none => rfl
      | some d =>
          simp only [countDiverging]
          split
          · omega
          · rfl

/-- An incomplete snapshot leaves no trace. -/
theorem evaluate_of_incomplete {e : Engine} {snap : Snapshot} (incomplete : ¬ snap.Complete) :
    (e.evaluate snap).2 = e := by
  have silent : divergence? e.settings snap = none := by
    rwa [← Option.not_isSome_iff_eq_none, isSome_divergence?_iff]
  simp only [evaluate, silent, countDiverging]

/-- **So an engine remembers complete snapshots only.** -/
theorem after_filter (s : PackSettings) (history : List Snapshot) :
    after s (history.filter (·.Complete)) = after s history := by
  induction history using List.reverseRecOn with
  | nil => rfl
  | append_singleton history snap ih =>
      rw [List.filter_append, after_concat, ← ih]
      by_cases complete : snap.Complete
      · rw [List.filter_singleton, decide_eq_true complete]
        exact after_concat s _ snap
      · rw [List.filter_singleton, decide_eq_false complete, evaluate_of_incomplete complete]
        exact congrArg (after s) (List.append_nil _)

/-! ## 4. What is reported -/

/-- A survey reports no divergence. -/
theorem not_divergence_survey (s : PackSettings) (snap : Snapshot) (e : Entity) (q : Quantity) :
    (survey s snap).advisories.contains ⟨e, q, .divergence⟩ = false := by
  rw [Bool.eq_false_iff, ne_eq, survey_eq, Findings.contains_advisories_checkAll]
  rintro (before | ⟨⟨_, _, _, reading⟩, -, -, advises⟩)
  · cases before
  · cases advises

/-- A divergence is reported of the pack, if the count is high enough. -/
theorem contains_divergence_iff {s : PackSettings} {count : Nat} {delta : Option Float32}
    {snap : Snapshot} {e : Entity} {q : Quantity} :
    (withDivergence s count delta (survey s snap)).advisories.contains ⟨e, q, .divergence⟩ = true ↔
      (e = .pack ∧ q = .voltage) ∧ ∃ d ∈ delta, s.cross.cycles.toNat ≤ count := by
  have others := not_divergence_survey s snap e q
  cases delta with
  | none => exact iff_of_false (Bool.eq_false_iff.1 others) (by simp)
  | some d =>
      refine Findings.contains_addAdvisory_if.trans ?_
      simp only [others, Bool.false_eq_true, false_or, AdvisoryKey.mk.injEq, and_true, Option.mem_def,
        Option.some.injEq, exists_eq_left']
      exact and_comm

/-- **When a divergence is reported.** For a cross-check that asks for at least one cycle, whatever was
    evaluated before:

    * an evaluation has a divergence exactly if all voltages are fresh, and it is their difference;
    * it is reported, of the pack, exactly if it is beyond the tolerance and, the last snapshot included,
      at least as many snapshots as the cross-check asks for have diverged since the last one that agreed;
    * and incomplete snapshots, however many, might as well not have been evaluated. -/
theorem divergence_exact {s : PackSettings} (counting : 0 < s.cross.cycles) (earlier : List Snapshot)
    (snap : Snapshot) :
    ((report s earlier snap).divergence.isSome = true ↔ snap.Complete) ∧
    (∀ u vs, snap.Shows u vs → (report s earlier snap).divergence = some (s.difference u vs)) ∧
    (∀ e q, (report s earlier snap).advisories.contains ⟨e, q, .divergence⟩ = true ↔
      (e = .pack ∧ q = .voltage) ∧ s.Diverges snap ∧
        s.cross.cycles.toNat ≤ divergingSince s (earlier ++ [snap])) ∧
    report s (earlier.filter (·.Complete)) snap = report s earlier snap := by
  have divergence : (report s earlier snap).divergence = divergence? s snap := by
    simp only [report, evaluate, settings_after]
  have reached : s.cross.cycles.toNat ≤ mostDiverging := by
    have := s.cross.cycles.toNat_lt
    simp only [mostDiverging, UInt32.size]
    omega
  have positive : 0 < s.cross.cycles.toNat := counting
  refine ⟨?_, fun u vs shows => ?_, fun e q => ?_, ?_⟩
  · rw [divergence, isSome_divergence?_iff]
  · rw [divergence, divergence?_eq_some_iff]
    exact ⟨u, vs, shows, rfl⟩
  · have count := diverging_after s (earlier ++ [snap])
    rw [after_concat] at count
    simp only [evaluate, settings_after] at count
    simp only [report, evaluate, settings_after]
    rw [contains_divergence_iff, count, PackSettings.diverges_iff, divergingSince_concat]
    refine and_congr_right fun _ => ?_
    cases divergence? s snap with
    | none => simp
    | some d => by_cases beyond : s.cross.tolerance < d <;> simp [beyond] <;> omega
  · simp only [report, after_filter]

/-- The pack of two cells with its cells at 3 and 4 volts and another voltage of the pack. -/
def twoCellSnapshot (voltage : Reading) : Snapshot where
  voltage := voltage
  current := .fresh 20
  cells := [⟨1, .fresh 3, .fresh 25⟩, ⟨2, .fresh 4, .fresh 25⟩]

/-- The third diverging snapshot since one that agreed is reported, though there was an earlier one and
    one between them shows no voltage. -/
theorem divergence_beside_stale :
    0 < boundedPack.cross.cycles ∧ boundedPack.Diverges (twoCellSnapshot (.fresh 6)) ∧
    (report boundedPack ([.fresh 6, .fresh 7, .fresh 6, .stale 6, .fresh 8].map twoCellSnapshot)
      (twoCellSnapshot (.fresh 6))).advisories.contains ⟨.pack, .voltage, .divergence⟩ = true ∧
    (report boundedPack ([.fresh 7, .fresh 6, .stale 6, .fresh 6].map twoCellSnapshot)
      (twoCellSnapshot (.stale 6))).advisories.contains ⟨.pack, .voltage, .divergence⟩ = false := by
  have counting : 0 < boundedPack.cross.cycles := by decide
  have diverges : boundedPack.Diverges (twoCellSnapshot (.fresh 6)) := by decide +kernel
  refine ⟨counting, diverges, ?_, ?_⟩
  · exact ((divergence_exact counting _ _).2.2.1 _ _).2 ⟨⟨rfl, rfl⟩, diverges, by decide +kernel⟩
  · rw [Bool.eq_false_iff, ne_eq, (divergence_exact counting _ _).2.2.1]
    exact fun reported => absurd reported.2.1 (by decide +kernel)

end Engine

end PackGuard
