import PackGuard.Proofs.Balance.Selection
import PackGuard.Proofs.Controller.Runs
import PackGuard.Proofs.Poll.Cycles
import PackGuard.Proofs.Settings.Sound

/-!
# Reselecting now and then is as good as reselecting always

A tick selects the cells to bleed only if the cell voltages were polled since the last selection, the
set of active faults changed, or a command is due again. In a run whose channels are written by polls
between the ticks alone, nothing else bears on the selection:

* `candidates_of_sameKeys`: faults with the same keys exclude the same cells.
* `Synced`: the count of the last selection tells whether the voltages are those of the last
  selection. It is kept by every call, as long as the counter does not come round.
* `selected_at_every_tick`: **after every tick that leaves no command due, the cells that bleed are
  those that a selection from this tick's snapshot and faults gives.**
-/

namespace PackGuard

namespace Controller

/-! ## 1. What bears on a selection -/

/-- A fault set affects the entities of its keys. -/
theorem affects_of_sameKeys {a b : FaultSet} (h : a.sameKeys b = true) (e : Entity) :
    FaultSet.affects a e = FaultSet.affects b e := by
  unfold FaultSet.affects
  rw [RankedMap.sameKeys_iff.1 h]

theorem candidates_of_sameKeys {a b : FaultSet} (h : a.sameKeys b = true) (s : PackSettings)
    (snap : Snapshot) : candidates s a snap = candidates s b snap := by
  simp only [candidates, affects_of_sameKeys h]

/-- The cells that a selection gives with the controller's own faults and what is seen of its
    pack. -/
def selection (c : Controller) : List CellIndex :=
  Balance.select c.settings.balance (candidates c.settings.pack c.faults c.pack.snapshot)

/-- A selected cell has its number by its position, is to be balanced, has a fresh voltage and no
    fault. -/
theorem mem_selection {s : Settings} (sound : s.defect? = none) {faults : FaultSet}
    {snap : Snapshot} (numbered : snap.cells.map (·.index) = s.pack.cells.map (·.index))
    {n : CellIndex} (h : n ∈ Balance.select s.balance (candidates s.pack faults snap)) :
    ∃ k reading cell, n.toNat = k + 1 ∧ snap.cells[k]? = some reading ∧
      s.pack.cells[k]? = some cell ∧ reading.index = n ∧ cell.balance = true ∧
      reading.voltage.isFresh = true ∧ faults.affects (.cell n) = false := by
  obtain ⟨c, candidate, rfl, included, fresh⟩ := Balance.mem_select h
  obtain ⟨⟨reading, cell⟩, pair, rfl⟩ := List.mem_map.1 candidate
  obtain ⟨k, zipped⟩ := List.mem_iff_getElem?.1 pair
  obtain ⟨hr, hc⟩ := List.getElem?_zip_eq_some.1 zipped
  have same : reading.index = cell.index := by
    have at_k := congrArg (·[k]?) numbered
    simpa [hr, hc] using at_k
  have position := Settings.index_of_inOrder (Settings.inOrder_of_sound sound) hc
  simp only [Bool.or_eq_false_iff, Bool.not_eq_false'] at included
  refine ⟨k, reading, cell, ?_, hr, hc, rfl, included.1, fresh, included.2⟩
  show reading.index.toNat = k + 1
  rw [same, position]
  omega

/-! ## 2. One tick -/

/-- What a tick makes of the controller before it reselects. -/
theorem assessed_eq (c : Controller) (t : Moment) (fs : Files) :
    ∃ keepAlive expired engine published log,
      (c.updateKeepAlive t fs).assess t c.pack.snapshot = { c with
        keepAlive := keepAlive
        expired := expired
        engine := engine
        publishedLimit := published
        log := log
        faults := (c.engine.evaluate c.pack.snapshot).1.faults
        advisories := (c.engine.evaluate c.pack.snapshot).1.advisories
        limit := (c.engine.evaluate c.pack.snapshot).1.limit } := by
  obtain ⟨published, log, e⟩ := assess_eq (c.updateKeepAlive t fs) t c.pack.snapshot
  rw [e]
  exact ⟨_, _, _, _, _, rfl⟩

/-- What was commanded with success is what was selected. -/
theorem commandBank_settled {c : Controller} {t : Moment} {selected : List CellIndex}
    (settled : (c.commandBank t selected).balancePending = false) :
    (c.commandBank t selected).balancing = selected := by
  unfold commandBank at settled ⊢
  dsimp only at settled ⊢
  split at settled
  · cases settled
  · rfl

theorem updateBalance_settled {c : Controller} {t : Moment} {snap : Snapshot}
    (settled : (c.updateBalance t snap).balancePending = false) :
    (c.updateBalance t snap).balancing =
      Balance.select c.settings.balance (candidates c.settings.pack c.faults snap) := by
  unfold updateBalance at settled ⊢
  generalize Balance.select c.settings.balance (candidates c.settings.pack c.faults snap) = selected
    at settled ⊢
  dsimp only at settled ⊢
  by_cases change : (selected != c.balancing || c.balancePending) = true
  · simp only [change, if_true] at settled ⊢
    cases done : (c.commandBank t selected).balancePending with
    | true => simp only [done, if_true] at settled; cases settled
    | false =>
        simp only [Bool.false_eq_true, if_false]
        exact commandBank_settled done
  · simp only [change] at settled ⊢
    simp only [Bool.or_eq_true, bne_iff_ne, not_or, Decidable.not_not] at change
    exact change.1.symm

theorem updateBalance_snapshot (c : Controller) (t : Moment) (snap : Snapshot) :
    (c.updateBalance t snap).pack.snapshot = c.pack.snapshot := by
  unfold updateBalance
  dsimp only
  split
  · obtain ⟨bank, pending, balancing, log, e⟩ := c.commandBank_eq t
      (Balance.select c.settings.balance (candidates c.settings.pack c.faults snap))
    rw [e]
    split
    · rfl
    · exact Pack.snapshot_markAll _ _ _
  · exact Pack.snapshot_markAll _ _ _

/-- A tick reselects for the present count of the cell voltages, or has this count already, the same
    faults as before, and no command due. -/
theorem rebalance_cases (c : Controller) (t : Moment) (snap : Snapshot) (before : FaultSet) :
    c.rebalance t snap before =
        updateBalance { c with lastCellCycle := snap.cycles.cellVoltage } t snap ∨
      snap.cycles.cellVoltage = c.lastCellCycle ∧ c.faults.sameKeys before = true ∧
        c.balancePending = false ∧ c.rebalance t snap before = c := by
  unfold rebalance
  dsimp only
  split
  · exact .inl rfl
  · next idle =>
      simp only [Bool.or_eq_true, bne_iff_ne, Bool.not_eq_true', not_or, Decidable.not_not,
        Bool.not_eq_false, Bool.not_eq_true] at idle
      exact .inr ⟨idle.1.1, idle.1.2, idle.2, rfl⟩

/-- What a tick leaves of the pack and the settings, and the count for which it selected last. -/
theorem tickArmed_synced (c : Controller) (t : Moment) (fs : Files) :
    (c.tickArmed t fs).2.settings = c.settings ∧
      (c.tickArmed t fs).2.pack.snapshot = c.pack.snapshot ∧
      (c.tickArmed t fs).2.lastCellCycle = c.pack.snapshot.cycles.cellVoltage := by
  obtain ⟨keepAlive, expired, engine, published, log, e⟩ := assessed_eq c t fs
  show (c.prepare t fs).settings = _ ∧ (c.prepare t fs).pack.snapshot = _ ∧
    (c.prepare t fs).lastCellCycle = _
  refine ⟨(prepared_prepare c t fs).settings, ?_⟩
  unfold prepare
  rcases rebalance_cases ((c.updateKeepAlive t fs).assess t c.pack.snapshot) t c.pack.snapshot
    c.faults with reselects | ⟨same, -, -, idles⟩
  · obtain ⟨bank, pack, pending, balancing, log', e'⟩ := updateBalance_eq
      { (c.updateKeepAlive t fs).assess t c.pack.snapshot with
        lastCellCycle := c.pack.snapshot.cycles.cellVoltage } t c.pack.snapshot
    refine ⟨?_, ?_⟩
    · rw [reselects, updateBalance_snapshot, e]
    · rw [reselects, e']
  · rw [idles]
    refine ⟨by rw [e], same.symm⟩

/-- **A tick that leaves no command due has made the selection**, or had it from before. -/
theorem tickArmed_selection {c : Controller} {t : Moment} {fs : Files}
    (known : c.pack.snapshot.cycles.cellVoltage = c.lastCellCycle → c.balancePending = false →
      c.balancing = c.selection)
    (settled : (c.tickArmed t fs).2.balancePending = false) :
    (c.tickArmed t fs).2.balancing = (c.tickArmed t fs).2.selection := by
  have seen := (tickArmed_synced c t fs).2.1
  unfold selection
  rw [seen]
  obtain ⟨keepAlive, expired, engine, published, log, e⟩ := assessed_eq c t fs
  show (c.prepare t fs).balancing = Balance.select (c.prepare t fs).settings.balance
    (candidates (c.prepare t fs).settings.pack (c.prepare t fs).faults c.pack.snapshot)
  replace settled : (c.prepare t fs).balancePending = false := settled
  unfold prepare at settled ⊢
  rcases rebalance_cases ((c.updateKeepAlive t fs).assess t c.pack.snapshot) t c.pack.snapshot
    c.faults with reselects | ⟨same, faults, idle, idles⟩
  · rw [reselects] at settled ⊢
    rw [updateBalance_settled settled]
    obtain ⟨bank, pack, pending, balancing, log', e'⟩ := updateBalance_eq
      { (c.updateKeepAlive t fs).assess t c.pack.snapshot with
        lastCellCycle := c.pack.snapshot.cycles.cellVoltage } t c.pack.snapshot
    rw [e']
  · rw [idles, candidates_of_sameKeys faults]
    rw [e] at same idle ⊢
    exact known same idle

/-! ## 3. Runs -/

/-- **The count of the last selection tells whether it is out of date**, while the cell voltages have
    been polled so many times. -/
structure Synced (s : Settings) (polled : Nat) (c : Controller) : Prop where
  settings : c.settings = s
  numbered : c.pack.snapshot.cells.map (·.index) = s.pack.cells.map (·.index)
  count : c.pack.snapshot.cycles.cellVoltage = .ofNat polled
  selected : ∃ n ≤ polled, c.lastCellCycle = .ofNat n ∧
    (n = polled → c.balancePending = false → c.balancing = c.selection)

section Keeps

variable {s : Settings} {polled : Nat} {c : Controller}

/-- A controller that differs in nothing that bears on a selection. -/
theorem Synced.of_same (h : Synced s polled c) {next : Controller}
    (settings : next.settings = c.settings) (seen : next.pack.snapshot = c.pack.snapshot)
    (cycle : next.lastCellCycle = c.lastCellCycle) (faults : next.faults = c.faults)
    (balancing : next.balancing = c.balancing)
    (pending : next.balancePending = c.balancePending) : Synced s polled next := by
  obtain ⟨settled, numbered, count, n, le, last, selected⟩ := h
  refine ⟨settings.trans settled, by rw [seen]; exact numbered, by rw [seen]; exact count, n, le,
    cycle.trans last, fun now idle => ?_⟩
  unfold selection
  rw [balancing, settings, faults, seen]
  exact selected now (pending.symm.trans idle)

/-- As long as the counter has not come round, equal counts are the same poll. -/
theorem Synced.known (h : Synced s polled c) (few : polled < UInt64.size)
    (same : c.pack.snapshot.cycles.cellVoltage = c.lastCellCycle) (idle : c.balancePending = false) :
    c.balancing = c.selection := by
  obtain ⟨-, -, count, n, le, last, selected⟩ := h
  refine selected ?_ idle
  have eq := congrArg UInt64.toNat (last.symm.trans (same.symm.trans count))
  rwa [UInt64.toNat_ofNat_of_lt' (Nat.lt_of_le_of_lt le few),
    UInt64.toNat_ofNat_of_lt' few] at eq

theorem synced_tickArmed (h : Synced s polled c) (few : polled < UInt64.size) (t : Moment)
    (fs : Files) : Synced s polled (c.tickArmed t fs).2 := by
  obtain ⟨settings, seen, last⟩ := tickArmed_synced c t fs
  refine ⟨settings.trans h.settings, by rw [seen]; exact h.numbered, by rw [seen]; exact h.count,
    polled, Nat.le_refl _, last.trans h.count, fun _ settled => ?_⟩
  exact tickArmed_selection (h.known few) settled

theorem synced_arm (h : Synced s polled c) (t : Moment) : Synced s polled (c.arm t).2 := by
  rcases c.arm_cases t with ⟨-, e⟩ | ⟨fault, log, -, -, e⟩ | ⟨log, -, -, e⟩ <;> rw [e]
  · exact h
  · exact h.of_same rfl rfl rfl rfl rfl rfl
  · exact h.of_same rfl rfl rfl rfl rfl rfl

theorem synced_shutdown (h : Synced s polled c) (t : Moment) :
    Synced s polled (c.shutdown t).2 := by
  rcases c.shutdown_cases t with e | ⟨log, e⟩ <;> rw [e]
  · exact h
  · exact h.of_same rfl rfl rfl rfl rfl rfl

variable {σ : Type} [SensorLink σ]

/-- A poll puts the count one ahead of the last selection, or is refused. -/
theorem synced_pollOnce (sound : s.defect? = none) (h : Synced s polled c) (now : Nat)
    (link : σ) :
    Synced s polled (c.pollOnce now link).2.2.1 ∨
      Synced s (polled + 1) (c.pollOnce now link).2.2.1 := by
  cases alone : c.scheduler with
  | some scheduler =>
      have refused : (c.pollOnce now link).2.2.1 = c := by simp [pollOnce, alone]
      exact .inl (by rw [refused]; exact h)
  | none =>
      have cells : c.pack.numbers ≠ [] := by
        rw [← Pack.numbers_snapshot, h.numbered]
        simpa using Settings.cells_of_sound sound
      obtain ⟨numbers, count⟩ := pollOnce_cellVoltage alone cells now link
      obtain ⟨pack, e⟩ := c.pollOnce_eq now link
      rw [e] at numbers count ⊢
      obtain ⟨n, le, last, -⟩ := h.selected
      refine .inr ⟨h.settings, ?_, ?_, n, Nat.le_succ_of_le le, last, fun now => ?_⟩
      · rw [Pack.numbers_snapshot, numbers, ← Pack.numbers_snapshot]
        exact h.numbered
      · show pack.cycles.cellVoltage = _
        rw [count, UInt64.ofNat_add]
        exact congrArg (· + 1) h.count
      · omega

/-- A call that does not let the scheduler work polls once or not at all. -/
theorem synced_perform (sound : s.defect? = none) (h : Synced s polled c)
    (few : polled < UInt64.size) {d : Deed σ} (manual : ∀ link, d.call ≠ .work link) :
    Synced s polled (c.perform d) ∨ d.call.polls = true ∧ Synced s (polled + 1) (c.perform d) := by
  cases polls : d.call.polls with
  | false =>
      refine .inl (perform_cases h (synced_arm h _) ?_ (synced_shutdown h _) ?_)
      · exact fun fs _ _ => synced_tickArmed (synced_arm h _) few _ fs
      · exact fun next pack _ _ _ seen before => before.of_same rfl (seen polls) rfl rfl rfl rfl
  | true =>
      obtain ⟨t, call⟩ := d
      cases call with
      | work link => exact absurd rfl (manual link)
      | pollOnce link => exact (synced_pollOnce sound h t.now link).imp_right fun next => ⟨rfl, next⟩
      | _ => cases polls

end Keeps

variable {s : Settings} {relay : Actuator Position} {bank : Actuator (List CellIndex)} {wall : Nat}
  {stored : Files} {c : Controller}

/-- As it is built a controller bleeds no cell, and has no voltage to select one by. -/
theorem synced_build (built : build (some s) (some relay) (some bank) wall stored = .ok c) :
    Synced s 0 c := by
  rw [build_eq built]
  have unread : ∀ candidate ∈ candidates s.pack .empty (Pack.new s.pack s.poll.staleAfter).snapshot,
      candidate.voltage = none := by
    intro candidate h
    obtain ⟨⟨reading, cell⟩, pair, rfl⟩ := List.mem_map.1 h
    obtain ⟨x, hx, rfl⟩ := List.mem_map.1 (List.of_mem_zip pair).1
    obtain ⟨y, -, rfl⟩ := List.mem_map.1 hx
    rfl
  refine ⟨rfl, ?_, rfl, 0, Nat.le_refl _, rfl, fun _ _ => ?_⟩
  · simp [assembled, Pack.snapshot, Pack.new, Cell.new, Function.comp_def]
  · exact (Balance.select_of_no_voltage unread).symm

variable {σ : Type} [SensorLink σ]

/-- After a run without a working scheduler the controller has polled no more often than it was
    called to. -/
theorem synced_after (built : build (some s) (some relay) (some bank) wall stored = .ok c)
    {deeds : List (Deed σ)} (manual : ∀ d ∈ deeds, ∀ link, d.call ≠ .work link)
    (few : deeds.countP (·.call.polls) < UInt64.size) :
    ∃ polled ≤ deeds.countP (·.call.polls), Synced s polled (c.after deeds) := by
  have sound : s.defect? = none := sound_of_build built
  induction deeds with
  | nil => exact ⟨0, Nat.le_refl _, synced_build built⟩
  | cons d deeds ih =>
      rw [List.countP_cons] at few ⊢
      obtain ⟨polled, le, before⟩ := ih (fun d hd => manual d (List.mem_cons_of_mem _ hd)) (by omega)
      rcases synced_perform sound before (by omega) (manual d List.mem_cons_self) with
        after | ⟨polls, after⟩
      · exact ⟨polled, by omega, after⟩
      · exact ⟨polled + 1, by simp only [polls, if_true]; omega, after⟩

/-- **After every tick that leaves no command due, the cells that bleed are those that a selection
    gives.** The channels are written by polls between the ticks alone, fewer than the counter can
    count, whatever the sensors answer and whichever commands to the bleed resistors are refused.
    The selection is that from this tick's snapshot and faults. So each cell that bleeds is to be
    balanced and has a fresh voltage and no fault, and there are no more of them than there may
    be. -/
theorem selected_at_every_tick
    (built : build (some s) (some relay) (some bank) wall stored = .ok c)
    {deeds : List (Deed σ)} (manual : ∀ d ∈ deeds, ∀ link, d.call ≠ .work link)
    (few : deeds.countP (·.call.polls) < UInt64.size) {t : Moment} {fs : Files}
    {outcome : TickOutcome} {next : Controller}
    (ticked : (c.after deeds).tick t fs = (.ok outcome, next))
    (settled : next.balancePending = false) :
    (next.status t).balancing = outcome.balancing ∧
      outcome.balancing = Balance.select s.balance
        (candidates s.pack outcome.faults (c.after deeds).pack.snapshot) ∧
      (∀ n ∈ outcome.balancing, ∃ k reading cell, n.toNat = k + 1 ∧
        (c.after deeds).pack.snapshot.cells[k]? = some reading ∧ s.pack.cells[k]? = some cell ∧
        reading.index = n ∧ cell.balance = true ∧ reading.voltage.isFresh = true ∧
        FaultSet.affects outcome.faults (.cell n) = false) ∧
      (s.balance.most ≠ 0 → outcome.balancing.length ≤ s.balance.most.toNat) := by
  obtain ⟨polled, le, synced⟩ := synced_after built manual few
  rcases (c.after deeds).tick_cases t fs with ⟨-, e⟩ | ⟨-, ⟨f, -, e⟩ | ⟨-, e⟩⟩
  · rw [e] at ticked; cases ticked
  · rw [e] at ticked; cases ticked
  · have armed := synced_arm synced t
    have seen : ((c.after deeds).arm t).2.pack = (c.after deeds).pack := by
      rcases (c.after deeds).arm_cases t with ⟨-, e⟩ | ⟨fault, log, -, -, e⟩ | ⟨log, -, -, e⟩ <;>
        rw [e]
    rw [e] at ticked
    cases ticked
    have selected := tickArmed_selection (armed.known (Nat.lt_of_le_of_lt le few)) settled
    obtain ⟨settings, snapshot, -⟩ := tickArmed_synced ((c.after deeds).arm t).2 t fs
    unfold selection at selected
    rw [settings, snapshot, armed.settings, seen] at selected
    refine ⟨rfl, selected, fun n bleeds => ?_, fun bounded => ?_⟩
    · refine mem_selection (sound_of_build built) ?_ (selected ▸ bleeds)
      rw [← seen]
      exact armed.numbered
    · have bound : ((((c.after deeds).arm t).2.tickArmed t fs).2.balancing).length ≤
          s.balance.most.toNat := by
        rw [selected]
        exact Balance.length_select_le bounded _
      exact bound

/-- The settings of a pack of two cells of which one may bleed. -/
def twoCells : Settings where
  pack := .uniform 2 {} { limit := { max := some 100 } } {}
  balance := { most := 1 }

/-- A sensor of two cell voltages. -/
def sensorOf (first second : Int) : SimulatedSensor where
  counts := [(.packCurrent, 20), (.cellVoltage 1, first), (.cellVoltage 2, second)]

/-- The second cell was bleeding when the first became the highest, and the command of the tick at 100
    was refused. At 200 the first cell bleeds, as selected. -/
theorem selected_after_refusal :
    ∃ c outcome next,
      build (some twoCells) (some {})
        (some { plan := fun k => if k = 1 then some (.device .linkDown) else none }) 0 {} = .ok c ∧
      (c.after [⟨⟨100, 100⟩, .tick {}⟩, ⟨⟨50, 50⟩, .pollOnce (sensorOf 9 5)⟩,
        ⟨⟨0, 0⟩, .tick {}⟩, ⟨⟨0, 0⟩, .pollOnce (sensorOf 3 5)⟩]).tick ⟨200, 200⟩ {} =
          (.ok outcome, next) ∧
      outcome.balancing = [1] ∧
      outcome.balancing = Balance.select twoCells.balance
        (candidates twoCells.pack outcome.faults (c.after [⟨⟨100, 100⟩, .tick {}⟩,
          ⟨⟨50, 50⟩, .pollOnce (sensorOf 9 5)⟩, ⟨⟨0, 0⟩, .tick {}⟩,
          ⟨⟨0, 0⟩, .pollOnce (sensorOf 3 5)⟩]).pack.snapshot) := by
  have built := build_of_sound (s := twoCells) (by decide) {}
    { plan := fun k => if k = 1 then some (.device .linkDown) else none } 0 {}
  obtain ⟨outcome, next, result⟩ : ∃ outcome next, ((assembled twoCells {}
      { plan := fun k => if k = 1 then some (.device .linkDown) else none } 0 {}).after
      [⟨⟨100, 100⟩, .tick {}⟩, ⟨⟨50, 50⟩, .pollOnce (sensorOf 9 5)⟩,
        ⟨⟨0, 0⟩, .tick {}⟩, ⟨⟨0, 0⟩, .pollOnce (sensorOf 3 5)⟩]).tick ⟨200, 200⟩ {} =
          (.ok outcome, next) :=
    ⟨_, _, tick_of_armed (by decide +kernel) (by decide +kernel) _ _⟩
  have answered : ((Except.ok outcome : Except Failure TickOutcome), next) = _ := result.symm
  have settled : next.balancePending = false :=
    (congrArg (·.2.balancePending) answered).trans (by decide +kernel)
  have bleeds : outcome.balancing = [1] :=
    Option.some.inj ((congrArg (fun r => r.1.toOption.map (·.balancing)) answered).trans
      (by decide +kernel))
  have known := selected_at_every_tick built (by simp) (by decide +kernel) result settled
  exact ⟨_, outcome, next, built, result, bleeds, known.2.1⟩

end Controller

end PackGuard
