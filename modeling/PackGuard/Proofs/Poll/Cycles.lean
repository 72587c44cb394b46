import Mathlib.Logic.Function.Iterate
import PackGuard.Controller

/-!
# What a poll cycle counts, and what it leaves alone

A cycle writes tracks, the energy account and the counter of its cadence. It renumbers no cell, and
**it counts itself exactly once**, whatever the sensor link answers (`runCycle_cycles`). So a poll of
all cadences counts one cycle of the cell voltages, if there is a cell (`pollOnce_cellVoltage`).

Noting cells as chosen to bleed is not seen in a snapshot (`snapshot_markAll`).
-/

namespace PackGuard

/-! ## 1. Packs -/

/-- A change of one entry that a function does not see changes nothing that the function makes of
    the list. -/
theorem map_modify_of_same {α β : Type} {f : α → α} {g : α → β} (same : ∀ x, g (f x) = g x)
    (l : List α) (k : Nat) : (l.modify k f).map g = l.map g := by
  refine List.ext_getElem? fun i => ?_
  rw [List.getElem?_map, List.getElem?_map, List.getElem?_modify]
  cases l[i]? with
  | none => rfl
  | some x => by_cases h : k = i <;> simp [h, same]

namespace Pack

/-- The numbers of the cells, by their position in the chain. -/
def numbers (p : Pack) : List CellIndex := p.cells.map (·.index)

theorem numbers_snapshot (p : Pack) : p.snapshot.cells.map (·.index) = p.numbers := by
  simp [snapshot, numbers, Function.comp_def]

@[simp] theorem numbers_modifyTrack (p : Pack) (slot : Slot) (f : Track → Track) :
    (p.modifyTrack slot f).numbers = p.numbers := by
  cases slot with
  | packVoltage | packCurrent => rfl
  | cellVoltage k => exact map_modify_of_same (by intro _; rfl) p.cells k
  | cellTemperature k => exact map_modify_of_same (by intro _; rfl) p.cells k

@[simp] theorem cycles_modifyTrack (p : Pack) (slot : Slot) (f : Track → Track) :
    (p.modifyTrack slot f).cycles = p.cycles := by
  cases slot <;> rfl

/-- Noting a cell as chosen to bleed changes nothing that a reader sees. -/
theorem snapshot_markBalanced (p : Pack) (now : Nat) (n : CellIndex) :
    (p.markBalanced now n).snapshot = p.snapshot := by
  unfold markBalanced
  split
  · rfl
  · simp only [snapshot, map_modify_of_same, Cell.markBalanced, implies_true]

/-- Nor does noting several. -/
theorem snapshot_markAll (cells : List CellIndex) (now : Nat) (p : Pack) :
    (cells.foldl (·.markBalanced now ·) p).snapshot = p.snapshot := by
  induction cells generalizing p with
  | nil => rfl
  | cons n cells ih => rw [List.foldl_cons, ih, snapshot_markBalanced]

/-- The cell voltages are polled once if there is a cell. -/
theorem count_cadences_cellVoltage {p : Pack} (cells : p.numbers ≠ []) :
    p.cadences.count .cellVoltage = 1 := by
  have polled : (!(p.slots .cellVoltage).isEmpty) = true := by
    cases h : p.cells with
    | nil => simp [numbers, h] at cells
    | cons c cs => simp [slots, h]
  exact List.count_filter (p := fun c => !(p.slots c).isEmpty) polled

end Pack

/-! ## 2. Steps of a cycle -/

variable {σ : Type} [SensorLink σ]

namespace PollRun

/-- What a step counts: only the last one of a cycle counts, and it counts the cycle. -/
def counted (r : PollRun) (step : PollStep) (cycles : Cycles) : Cycles :=
  if step = .finish then cycles.bump r.cadence else cycles

theorem perform_cadence (r : PollRun) (w : Station σ) (now : Nat) (step : PollStep) :
    (r.perform w now step).1.cadence = r.cadence := by
  cases step with
  | read slot =>
      simp only [perform, take]
      cases w.pack.track? slot <;> rfl
  | publish slot =>
      simp only [perform, publish]
      split <;> rfl
  | observe | finish | pause => rfl

theorem perform_cycles (r : PollRun) (w : Station σ) (now : Nat) (step : PollStep) :
    (r.perform w now step).2.pack.cycles = r.counted step w.pack.cycles := by
  cases step with
  | read slot =>
      simp only [perform, take]
      cases w.pack.track? slot <;> rfl
  | publish slot =>
      simp only [perform, publish]
      split <;> simp [counted]
  | observe | finish | pause => rfl

theorem perform_numbers (r : PollRun) (w : Station σ) (now : Nat) (step : PollStep) :
    (r.perform w now step).2.pack.numbers = w.pack.numbers := by
  cases step with
  | read slot =>
      simp only [perform, take]
      cases w.pack.track? slot <;> rfl
  | publish slot =>
      simp only [perform, publish]
      split <;> simp
  | observe | finish | pause => rfl

end PollRun

/-- One step, and then the others, later if it was a pause. -/
theorem runSteps_cons (step : PollStep) (rest : List PollStep) (now : Nat) (r : PollRun)
    (w : Station σ) :
    ∃ later, runSteps (step :: rest) now r w =
      runSteps rest later (r.perform w now step).1 (r.perform w now step).2 := by
  cases step <;> exact ⟨_, rfl⟩

theorem runSteps_numbers (steps : List PollStep) (now : Nat) (r : PollRun) (w : Station σ) :
    (runSteps steps now r w).2.2.pack.numbers = w.pack.numbers := by
  induction steps generalizing now r w with
  | nil => rfl
  | cons step rest ih =>
      obtain ⟨later, e⟩ := runSteps_cons step rest now r w
      rw [e, ih, PollRun.perform_numbers]

/-- Steps count as often as they finish. -/
theorem runSteps_cycles (steps : List PollStep) (now : Nat) (r : PollRun) (w : Station σ) :
    (runSteps steps now r w).2.2.pack.cycles =
      (Cycles.bump · r.cadence)^[steps.count .finish] w.pack.cycles := by
  induction steps generalizing now r w with
  | nil => rfl
  | cons step rest ih =>
      obtain ⟨later, e⟩ := runSteps_cons step rest now r w
      rw [e, ih, PollRun.perform_cadence, PollRun.perform_cycles]
      by_cases last : step = .finish
      · subst last
        rw [List.count_cons_self, Function.iterate_succ_apply]
        rfl
      · rw [List.count_cons_of_ne last, PollRun.counted, if_neg last]

/-! ## 3. Whole cycles -/

theorem count_pauseSteps (ms : Nat) : (pauseSteps ms).count .finish = 0 := by
  unfold pauseSteps
  split <;> rfl

theorem count_readSteps (s : PollSettings) (slot : Slot) : (readSteps s slot).count .finish = 0 := by
  simp [readSteps, List.count_flatten, count_pauseSteps]

/-- A cycle finishes once. -/
theorem count_cycleSteps (s : PollSettings) (slots : List Slot) (c : Cadence) :
    (cycleSteps s slots c).count .finish = 1 := by
  have reading : ∀ slots : List Slot,
      (slots.flatMap fun slot => readSteps s slot ++ [.publish slot]).count .finish = 0 := by
    intro slots
    induction slots with
    | nil => rfl
    | cons slot slots ih =>
        rw [List.flatMap_cons, List.count_append, ih, List.count_append, count_readSteps]
        rfl
  have observing : (if c == .pack then [PollStep.observe] else []).count .finish = 0 := by
    split <;> rfl
  rw [cycleSteps, List.count_append, List.count_append, List.count_append, reading, observing,
    count_pauseSteps]
  rfl

/-- **A cycle counts itself once.** -/
theorem runCycle_cycles (s : PollSettings) (c : Cadence) (now : Nat) (w : Station σ) :
    (runCycle s c now w).2.2.pack.cycles = w.pack.cycles.bump c := by
  show (runSteps (cycleSteps s (w.pack.slots c) c) now { cadence := c } w).2.2.pack.cycles = _
  rw [runSteps_cycles, count_cycleSteps]
  rfl

theorem runCycle_numbers (s : PollSettings) (c : Cadence) (now : Nat) (w : Station σ) :
    (runCycle s c now w).2.2.pack.numbers = w.pack.numbers :=
  runSteps_numbers _ _ _ w

namespace Controller

theorem runCycles_numbers (s : PollSettings) (cadences : List Cadence) (now : Nat)
    (w : Station σ) : (runCycles s cadences now w).2.2.pack.numbers = w.pack.numbers := by
  induction cadences generalizing now w with
  | nil => rfl
  | cons c cadences ih => exact (ih _ _).trans (runCycle_numbers s c now w)

/-- A cycle of each of some cadences counts each as often as it is among them. -/
theorem runCycles_cycles (s : PollSettings) (cadences : List Cadence) (now : Nat)
    (w : Station σ) :
    (runCycles s cadences now w).2.2.pack.cycles = cadences.foldl Cycles.bump w.pack.cycles := by
  induction cadences generalizing now w with
  | nil => rfl
  | cons c cadences ih =>
      rw [List.foldl_cons, ← runCycle_cycles s c now w]
      exact ih _ _

/-- Only cycles of the cell voltages count for them. -/
theorem cellVoltage_foldl_bump (cadences : List Cadence) (cycles : Cycles) :
    (cadences.foldl Cycles.bump cycles).cellVoltage =
      cycles.cellVoltage + .ofNat (cadences.count .cellVoltage) := by
  induction cadences generalizing cycles with
  | nil => simp
  | cons c cadences ih =>
      rw [List.foldl_cons, ih]
      cases c with
      | pack | cellTemperature => rw [List.count_cons_of_ne (by decide)]; rfl
      | cellVoltage =>
          rw [List.count_cons_self, UInt64.ofNat_add, UInt64.add_comm (.ofNat _),
            ← UInt64.add_assoc]
          rfl

/-- **A poll of all cadences counts one cycle of the cell voltages**, if there is a cell, and
    renumbers no cell. -/
theorem pollOnce_cellVoltage {c : Controller} (alone : c.scheduler = none)
    (cells : c.pack.numbers ≠ []) (now : Nat) (link : σ) :
    (c.pollOnce now link).2.2.1.pack.numbers = c.pack.numbers ∧
      (c.pollOnce now link).2.2.1.pack.cycles.cellVoltage = c.pack.cycles.cellVoltage + 1 := by
  have polled : (c.pollOnce now link).2.2.1.pack =
      (runCycles c.settings.poll c.pack.cadences now ⟨link, c.pack⟩).2.2.pack := by
    simp [pollOnce, alone]
  rw [polled, runCycles_numbers, runCycles_cycles, cellVoltage_foldl_bump,
    Pack.count_cadences_cellVoltage cells]
  exact ⟨rfl, rfl⟩

end Controller

end PackGuard
