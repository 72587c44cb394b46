import Mathlib
import PackGuard.Proofs.Engine.Current
import PackGuard.Proofs.Settings.Sound

/-!
# What an evaluation reports

A snapshot holds one reading of each quantity of the pack and of every cell. An evaluation checks them
one after the other into one set of faults and one of advisories, in which readings of one entity can
meet under one key.

* `Measures`: which reading belongs to which quantity, with its settings.
* `Reading.Raises`, `Reading.Advises`: what a single reading gives rise to.
* `contains_check`, `contains_survey`: **a check adds what its reading gives rise to, and so a survey
  finds what any reading gives rise to, and nothing else**.
* `Engine.report_exact`: **the report of an evaluation is exactly that, whatever was evaluated
  before**; only the divergence advisory remembers anything.
-/

namespace PackGuard

/-! ## 1. What is measured -/

/-- **A snapshot of this pack**: its cells are the configured ones, in their order. -/
def Snapshot.Fits (snap : Snapshot) (s : PackSettings) : Prop :=
  snap.cells.map (·.index) = s.cells.map (·.index)

instance (snap : Snapshot) (s : PackSettings) : Decidable (snap.Fits s) :=
  inferInstanceAs (Decidable (_ = _))

/-- **The quantities of a pack**, each with its settings and its reading. Cells stand at the same
    place in the settings and in the snapshot. -/
inductive Measures (s : PackSettings) (snap : Snapshot) :
    Entity → Quantity → QuantitySettings → Reading → Prop
  | voltage : Measures s snap .pack .voltage s.voltage snap.voltage
  | current : Measures s snap .pack .current s.current snap.current
  | cellVoltage {k : Nat} {cell : CellSettings} {read : CellReading} (settings : s.cells[k]? = some cell)
      (reading : snap.cells[k]? = some read) :
      Measures s snap (.cell cell.index) .voltage cell.voltage read.voltage
  | cellTemperature {k : Nat} {cell : CellSettings} {read : CellReading}
      (settings : s.cells[k]? = some cell) (reading : snap.cells[k]? = some read) :
      Measures s snap (.cell cell.index) .temperature cell.temperature read.temperature

/-- **Where the cells are numbered in order, each quantity is measured once.** -/
theorem Measures.unique {s : PackSettings} {snap : Snapshot} (numbered : Settings.inOrder 1 s.cells = true)
    {e : Entity} {q : Quantity} {x y : QuantitySettings} {r t : Reading}
    (first : Measures s snap e q x r) (second : Measures s snap e q y t) : x = y ∧ r = t := by
  have place {k j : Nat} {c d : CellSettings} (hc : s.cells[k]? = some c) (hd : s.cells[j]? = some d)
      (same : c.index = d.index) : k = j := by
    have first := Settings.index_of_inOrder numbered hc
    have second := Settings.index_of_inOrder numbered hd
    rw [same] at first
    omega
  generalize he : e = e' at second
  generalize hq : q = q' at second
  cases first with
  | voltage => cases second <;> simp_all
  | current => cases second <;> simp_all
  | cellVoltage settings reading =>
      cases second with
      | voltage | current => cases he
      | cellTemperature => cases hq
      | cellVoltage settings' reading' =>
          cases place settings settings' (Entity.cell.inj he)
          rw [settings, Option.some.injEq] at settings'
          rw [reading, Option.some.injEq] at reading'
          exact ⟨settings' ▸ rfl, reading' ▸ rfl⟩
  | cellTemperature settings reading =>
      cases second with
      | voltage | current => cases he
      | cellVoltage => cases hq
      | cellTemperature settings' reading' =>
          cases place settings settings' (Entity.cell.inj he)
          rw [settings, Option.some.injEq] at settings'
          rw [reading, Option.some.injEq] at reading'
          exact ⟨settings' ▸ rfl, reading' ▸ rfl⟩

/-- One reading that is checked. -/
structure Observation where
  entity : Entity
  quantity : Quantity
  settings : QuantitySettings
  reading : Reading

/-- The readings of a cell, in the order in which they are checked. -/
def observationsOfCell (c : CellSettings × CellReading) : List Observation :=
  [⟨.cell c.2.index, .voltage, c.1.voltage, c.2.voltage⟩,
    ⟨.cell c.2.index, .temperature, c.1.temperature, c.2.temperature⟩]

/-- The readings of a snapshot, in the order in which they are checked. -/
def observations (s : PackSettings) (snap : Snapshot) : List Observation :=
  ⟨.pack, .voltage, s.voltage, snap.voltage⟩ :: ⟨.pack, .current, s.current, snap.current⟩ ::
    (s.cells.zip snap.cells).flatMap observationsOfCell

/-- Where the snapshot fits, a cell's reading carries the number of the cell. -/
theorem Snapshot.Fits.index {s : PackSettings} {snap : Snapshot} (fits : snap.Fits s) {k : Nat}
    {cell : CellSettings} {read : CellReading} (settings : s.cells[k]? = some cell)
    (reading : snap.cells[k]? = some read) : read.index = cell.index := by
  have same := congrArg (·[k]?) fits
  simpa [settings, reading] using same

/-- **What is checked is what is measured.** -/
theorem mem_observations_iff {s : PackSettings} {snap : Snapshot} (fits : snap.Fits s)
    {o : Observation} :
    o ∈ observations s snap ↔ Measures s snap o.entity o.quantity o.settings o.reading := by
  constructor
  · intro mem
    rcases List.mem_cons.1 mem with rfl | mem
    · exact .voltage
    rcases List.mem_cons.1 mem with rfl | mem
    · exact .current
    obtain ⟨⟨cell, read⟩, pair, mem⟩ := List.mem_flatMap.1 mem
    obtain ⟨k, place⟩ := List.mem_iff_getElem?.1 pair
    obtain ⟨settings, reading⟩ := List.getElem?_zip_eq_some.1 place
    have index := fits.index settings reading
    simp only [observationsOfCell, List.mem_cons, List.not_mem_nil, or_false] at mem
    rcases mem with rfl | rfl <;> rw [index]
    · exact .cellVoltage settings reading
    · exact .cellTemperature settings reading
  · intro measured
    have ofCell {k : Nat} {cell : CellSettings} {read : CellReading}
        (settings : s.cells[k]? = some cell) (reading : snap.cells[k]? = some read)
        (mem : o ∈ observationsOfCell (cell, read)) : o ∈ observations s snap := by
      have pair : (s.cells.zip snap.cells)[k]? = some (cell, read) :=
        List.getElem?_zip_eq_some.2 ⟨settings, reading⟩
      exact .tail _ (.tail _ (List.mem_flatMap.2 ⟨_, List.mem_of_getElem? pair, mem⟩))
    obtain ⟨entity, quantity, settings, reading⟩ := o
    cases measured with
    | voltage => exact .head _
    | current => exact .tail _ (.head _)
    | cellVoltage settings reading =>
        exact ofCell settings reading (by simp [observationsOfCell, fits.index settings reading])
    | cellTemperature settings reading =>
        exact ofCell settings reading (by simp [observationsOfCell, fits.index settings reading])

/-! ## 2. What a reading gives rise to -/

namespace Reading

/-- **The faults of a reading**: without a fresh value the channel is stale, and a fresh value is in
    excursion on each side on which it lies beyond the hard bound. -/
inductive Raises (q : Quantity) (l : Limit) : Reading → FaultKind → Prop
  | noData : Raises q l .noData .channelStale
  | stale (v : Float32) : Raises q l (.stale v) .channelStale
  | high {v : Float32} (above : ∃ bound ∈ l.max, bound < v) :
      Raises q l (.fresh v) (.ofExcursion q .high)
  | low {v : Float32} (below : ∃ bound ∈ l.min, v < bound) :
      Raises q l (.fresh v) (.ofExcursion q .low)

/-- **The advisories of a reading**: a fresh value beyond a bound of the advisory band. -/
inductive Advises (l : Limit) : Reading → AdvisoryKind → Prop
  | high {v : Float32} (above : ∃ bound ∈ l.ext.max, bound < v) : Advises l (.fresh v) .high
  | low {v : Float32} (below : ∃ bound ∈ l.ext.min, v < bound) : Advises l (.fresh v) .low

theorem raises_iff_of_not_fresh {q : Quantity} {l : Limit} {r : Reading} (stale : r.fresh? = none)
    {kind : FaultKind} : r.Raises q l kind ↔ kind = .channelStale := by
  constructor
  · intro h
    cases h with
    | noData | stale => rfl
    | high | low => cases stale
  · rintro rfl
    cases r with
    | fresh => cases stale
    | stale v => exact .stale v
    | noData => exact .noData

end Reading

theorem exceeds_iff {bound : Option Float32} {v : Float32} :
    exceeds bound v = true ↔ ∃ b ∈ bound, b < v := by
  cases bound <;> simp [exceeds]

theorem fallsBelow_iff {bound : Option Float32} {v : Float32} :
    fallsBelow bound v = true ↔ ∃ b ∈ bound, v < b := by
  cases bound <;> simp [fallsBelow]

/-! ## 3. Checks -/

theorem RankedMap.contains_insert_iff {κ ν : Type} [Ranked κ] {m : RankedMap κ ν} {k k' : κ} {v : ν} :
    (m.insert k v).contains k' = true ↔ m.contains k' = true ∨ k' = k := by
  rw [contains_insert, Bool.or_eq_true, beq_iff_eq, or_comm]
  exact or_congr_right ⟨fun same => (Ranked.rank_inj same).symm, fun same => same ▸ rfl⟩

namespace Findings

variable {f : Findings} {e : Entity} {q : Quantity} {l : Limit} {v : Float32}

theorem contains_addFault_if {c : Prop} [Decidable c] {kind : FaultKind} {v : Option Float32}
    {key : FaultKey} :
    (if c then f.addFault e kind v else f).faults.contains key = true ↔
      f.faults.contains key = true ∨ c ∧ key = ⟨e, kind⟩ := by
  split
  · next holds =>
      rw [addFault, RankedMap.contains_insert_iff]
      simp only [holds, true_and]
  · next not => simp [not]

theorem contains_addAdvisory_if {c : Prop} [Decidable c] {kind : AdvisoryKind} {key : AdvisoryKey} :
    (if c then f.addAdvisory e q kind v else f).advisories.contains key = true ↔
      f.advisories.contains key = true ∨ c ∧ key = ⟨e, q, kind⟩ := by
  split
  · next holds =>
      rw [addAdvisory, RankedMap.contains_insert_iff]
      simp only [holds, true_and]
  · next not => simp [not]

theorem faults_addAdvisory_if {c : Prop} [Decidable c] {kind : AdvisoryKind} :
    (if c then f.addAdvisory e q kind v else f).faults = f.faults := by
  split <;> rfl

theorem advisories_addFault_if {c : Prop} [Decidable c] {kind : FaultKind} {v : Option Float32} :
    (if c then f.addFault e kind v else f).advisories = f.advisories := by
  split <;> rfl

/-- A fresh value adds its excursions. -/
theorem contains_faults_addValue {key : FaultKey} :
    (f.addValue e q l v).faults.contains key = true ↔
      f.faults.contains key = true ∨ key.entity = e ∧ Reading.Raises q l (.fresh v) key.kind := by
  obtain ⟨entity, kind⟩ := key
  have raises : Reading.Raises q l (.fresh v) kind ↔
      (exceeds l.max v = true ∧ kind = .ofExcursion q .high) ∨
        (fallsBelow l.min v = true ∧ kind = .ofExcursion q .low) := by
    rw [exceeds_iff, fallsBelow_iff]
    constructor
    · intro h
      cases h with
      | high above => exact .inl ⟨above, rfl⟩
      | low below => exact .inr ⟨below, rfl⟩
    · rintro (⟨above, rfl⟩ | ⟨below, rfl⟩)
      · exact .high above
      · exact .low below
  simp only [addValue, faults_addAdvisory_if, contains_addFault_if, raises, FaultKey.mk.injEq]
  tauto

/-- A fresh value adds its advisories. -/
theorem contains_advisories_addValue {key : AdvisoryKey} :
    (f.addValue e q l v).advisories.contains key = true ↔
      f.advisories.contains key = true ∨
        (key.entity = e ∧ key.quantity = q) ∧ Reading.Advises l (.fresh v) key.kind := by
  obtain ⟨entity, quantity, kind⟩ := key
  have advises : Reading.Advises l (.fresh v) kind ↔
      (exceeds l.ext.max v = true ∧ kind = .high) ∨
        (fallsBelow l.ext.min v = true ∧ kind = .low) := by
    rw [exceeds_iff, fallsBelow_iff]
    constructor
    · intro h
      cases h with
      | high above => exact .inl ⟨above, rfl⟩
      | low below => exact .inr ⟨below, rfl⟩
    · rintro (⟨above, rfl⟩ | ⟨below, rfl⟩)
      · exact .high above
      · exact .low below
  simp only [addValue, advisories_addFault_if, contains_addAdvisory_if, advises, AdvisoryKey.mk.injEq]
  tauto

/-- **A check adds the faults that its reading gives rise to**, if the quantity is monitored. -/
theorem contains_faults_check {r : Reading} {key : FaultKey} :
    (f.check e q l r).faults.contains key = true ↔
      f.faults.contains key = true ∨
        l.monitored = true ∧ key.entity = e ∧ Reading.Raises q l r key.kind := by
  obtain ⟨entity, kind⟩ := key
  have stale {r : Reading} (noValue : r.fresh? = none) (v : Option Float32) :
      (f.addStale e v).faults.contains ⟨entity, kind⟩ = true ↔
        f.faults.contains ⟨entity, kind⟩ = true ∨ entity = e ∧ r.Raises q l kind := by
    rw [Reading.raises_iff_of_not_fresh noValue, ← FaultKey.mk.injEq]
    exact RankedMap.contains_insert_iff
  unfold check
  split
  · next monitored =>
      simp only [monitored, true_and]
      cases r with
      | fresh v => exact contains_faults_addValue
      | stale v => exact stale rfl (some v)
      | noData => exact stale rfl none
  · next unmonitored => simp [unmonitored]

/-- **A check adds the advisories that its reading gives rise to.** -/
theorem contains_advisories_check {r : Reading} {key : AdvisoryKey} :
    (f.check e q l r).advisories.contains key = true ↔
      f.advisories.contains key = true ∨
        (key.entity = e ∧ key.quantity = q) ∧ Reading.Advises l r key.kind := by
  obtain ⟨entity, quantity, kind⟩ := key
  have needs (h : Reading.Advises l r kind) : l.monitored = true ∧ r.fresh?.isSome = true := by
    cases h with
    | high above =>
        obtain ⟨bound, set, -⟩ := above
        simp [Limit.monitored, Option.mem_def.1 set, Reading.fresh?]
    | low below =>
        obtain ⟨bound, set, -⟩ := below
        simp [Limit.monitored, Option.mem_def.1 set, Reading.fresh?]
  unfold check
  split
  · cases r with
    | fresh v => exact contains_advisories_addValue
    | stale v => exact (or_iff_left fun h => by cases (needs h.2).2).symm
    | noData => exact (or_iff_left fun h => by cases (needs h.2).2).symm
  · next unmonitored => exact (or_iff_left fun h => unmonitored (needs h.2).1).symm

/-! ## 4. Surveys -/

/-- Check one reading after the other. -/
def checkAll (f : Findings) (os : List Observation) : Findings :=
  os.foldl (fun f o => f.check o.entity o.quantity o.settings.limit o.reading) f

/-- **Checking several readings adds the faults of all of them.** -/
theorem contains_faults_checkAll {os : List Observation} {key : FaultKey} :
    (f.checkAll os).faults.contains key = true ↔
      f.faults.contains key = true ∨ ∃ o ∈ os, o.settings.limit.monitored = true ∧
        key.entity = o.entity ∧ o.reading.Raises o.quantity o.settings.limit key.kind := by
  induction os generalizing f with
  | nil => simp [checkAll]
  | cons o os ih =>
      refine (ih (f := f.check o.entity o.quantity o.settings.limit o.reading)).trans ?_
      rw [contains_faults_check, or_assoc, List.exists_mem_cons_iff]

/-- **Checking several readings adds the advisories of all of them.** -/
theorem contains_advisories_checkAll {os : List Observation} {key : AdvisoryKey} :
    (f.checkAll os).advisories.contains key = true ↔
      f.advisories.contains key = true ∨ ∃ o ∈ os, (key.entity = o.entity ∧ key.quantity = o.quantity) ∧
        o.reading.Advises o.settings.limit key.kind := by
  induction os generalizing f with
  | nil => simp [checkAll]
  | cons o os ih =>
      refine (ih (f := f.check o.entity o.quantity o.settings.limit o.reading)).trans ?_
      rw [contains_advisories_check, or_assoc, List.exists_mem_cons_iff]

end Findings

/-- A survey checks all readings, starting from nothing. -/
theorem survey_eq (s : PackSettings) (snap : Snapshot) :
    survey s snap = Findings.checkAll {} (observations s snap) := by
  unfold survey Findings.checkAll observations
  rw [List.foldl_cons, List.foldl_cons, List.foldl_flatMap]
  rfl

section Survey

variable {s : PackSettings} {snap : Snapshot} (fits : snap.Fits s)
include fits

/-- **The faults of a survey are those of the monitored readings.** -/
theorem contains_faults_survey {e : Entity} {kind : FaultKind} :
    (survey s snap).faults.contains ⟨e, kind⟩ = true ↔
      ∃ q x r, Measures s snap e q x r ∧ x.limit.monitored = true ∧ r.Raises q x.limit kind := by
  rw [survey_eq, Findings.contains_faults_checkAll]
  constructor
  · rintro (before | ⟨o, mem, monitored, rfl, raises⟩)
    · cases before
    · exact ⟨_, _, _, (mem_observations_iff fits).1 mem, monitored, raises⟩
  · rintro ⟨q, x, r, measured, monitored, raises⟩
    have mem := (mem_observations_iff fits (o := ⟨e, q, x, r⟩)).2 measured
    exact .inr ⟨_, mem, monitored, rfl, raises⟩

/-- **The advisories of a survey are those of the readings.** -/
theorem contains_advisories_survey {e : Entity} {q : Quantity} {kind : AdvisoryKind} :
    (survey s snap).advisories.contains ⟨e, q, kind⟩ = true ↔
      ∃ x r, Measures s snap e q x r ∧ r.Advises x.limit kind := by
  rw [survey_eq, Findings.contains_advisories_checkAll]
  constructor
  · rintro (before | ⟨o, mem, ⟨rfl, rfl⟩, advises⟩)
    · cases before
    · exact ⟨_, _, (mem_observations_iff fits).1 mem, advises⟩
  · rintro ⟨x, r, measured, advises⟩
    have mem := (mem_observations_iff fits (o := ⟨e, q, x, r⟩)).2 measured
    exact .inr ⟨_, mem, ⟨rfl, rfl⟩, advises⟩

end Survey

/-! ## 5. What the engine remembers -/

/-- A quantity is monitored exactly if any bound is set. -/
theorem Limit.monitored_iff {l : Limit} : l.monitored = true ↔ l ≠ {} := by
  obtain ⟨min, max, ⟨extMin, extMax⟩, ⟨limMin, limMax⟩⟩ := l
  cases min <;> cases max <;> cases extMin <;> cases extMax <;> cases limMin <;> cases limMax <;>
    simp [Limit.monitored]

namespace RankedMap

variable {κ : Type} {ν : Type} [Ranked κ]

theorem nodup_keys (m : RankedMap κ ν) : m.keys.Nodup := by
  refine List.pairwise_map.2 (m.ordered.imp ?_)
  intro a b below same
  rw [RanksBelow, same] at below
  exact Nat.lt_irrefl _ below

theorem isEmpty_iff {m : RankedMap κ ν} : m.isEmpty = true ↔ ∀ k, ¬ m.contains k = true := by
  simp [contains_iff, keys, isEmpty, List.isEmpty_iff, List.eq_nil_iff_forall_not_mem]

/-- A key that is left out anyway changes nothing of what is left. -/
theorem filter_placeRanked {p : κ → Bool} {k : κ} (out : p k = false) (v : ν) (es : List (κ × ν)) :
    (placeRanked k v es).filter (p ·.1) = es.filter (p ·.1) := by
  induction es with
  | nil => simp [placeRanked, out]
  | cons e es ih =>
      obtain ⟨k', v'⟩ := e
      simp only [placeRanked]
      split
      · rw [List.filter_cons_of_neg (by simp [out])]
      · split
        · next same =>
            have same := Ranked.rank_inj same
            rw [List.filter_cons_of_neg (by simp [out]), List.filter_cons_of_neg (by simp [← same, out])]
        · simp only [List.filter_cons, ih]

end RankedMap

/-- The advisories about a bound, with their values. -/
def boundAdvisories (m : AdvisorySet) : List (AdvisoryKey × Float32) :=
  m.entries.filter (·.1.kind ≠ .divergence)

namespace Engine

/-- **A divergence adds one advisory of the pack, and nothing else.** -/
theorem withDivergence_cases (s : PackSettings) (count : Nat) (delta : Option Float32) (f : Findings) :
    withDivergence s count delta f = f ∨
      ∃ d, withDivergence s count delta f = f.addAdvisory .pack .voltage .divergence d := by
  unfold withDivergence
  split
  · next d =>
      split
      · exact .inr ⟨d, rfl⟩
      · exact .inl rfl
  · exact .inl rfl

section Divergence

variable {s : PackSettings} {count : Nat} {delta : Option Float32} {f : Findings}

theorem faults_withDivergence : (withDivergence s count delta f).faults = f.faults := by
  rcases withDivergence_cases s count delta f with same | ⟨d, added⟩
  · rw [same]
  · rw [added]; rfl

theorem boundAdvisories_withDivergence :
    boundAdvisories (withDivergence s count delta f).advisories = boundAdvisories f.advisories := by
  rcases withDivergence_cases s count delta f with same | ⟨d, added⟩
  · rw [same]
  · rw [added]
    exact RankedMap.filter_placeRanked (p := fun key : AdvisoryKey => key.kind ≠ .divergence) (by simp) d _

theorem contains_withDivergence {key : AdvisoryKey}
    (contained : (withDivergence s count delta f).advisories.contains key = true) :
    f.advisories.contains key = true ∨ key = ⟨.pack, .voltage, .divergence⟩ := by
  rcases withDivergence_cases s count delta f with same | ⟨d, added⟩
  · rw [same] at contained
    exact .inl contained
  · rw [added] at contained
    exact RankedMap.contains_insert_iff.1 contained

/-- An advisory about a bound is there with and without a divergence. -/
theorem contains_withDivergence_iff {key : AdvisoryKey} (bound : key.kind ≠ .divergence) :
    (withDivergence s count delta f).advisories.contains key = true ↔
      f.advisories.contains key = true := by
  refine ⟨fun h => (contains_withDivergence h).resolve_right ?_, fun h => ?_⟩
  · rintro rfl
    exact bound rfl
  · rcases withDivergence_cases s count delta f with same | ⟨d, added⟩
    · rwa [same]
    · rw [added]
      exact RankedMap.contains_insert_iff.2 (.inl h)

end Divergence

/-- The engine of a pack after it has evaluated some snapshots. -/
def after (s : PackSettings) (earlier : List Snapshot) : Engine :=
  earlier.foldl (fun e snap => (e.evaluate snap).2) { settings := s }

/-- What it then reports of a snapshot. -/
def report (s : PackSettings) (earlier : List Snapshot) (snap : Snapshot) : SafetyReport :=
  ((after s earlier).evaluate snap).1

/-- An evaluation leaves the settings alone. -/
theorem settings_evaluate (e : Engine) (snap : Snapshot) :
    (e.evaluate snap).2.settings = e.settings := rfl

theorem settings_after (s : PackSettings) (earlier : List Snapshot) : (after s earlier).settings = s := by
  unfold after
  induction earlier using List.reverseRecOn with
  | nil => rfl
  | append_singleton earlier snap ih => rw [List.foldl_concat, settings_evaluate, ih]

/-- The faults of a report are those of the survey. -/
theorem faults_report (s : PackSettings) (earlier : List Snapshot) (snap : Snapshot) :
    (report s earlier snap).faults = (survey s snap).faults := by
  simp only [report, evaluate, settings_after, faults_withDivergence]

/-- The allowed current of a report is that of the survey. -/
theorem limit_report (s : PackSettings) (earlier : List Snapshot) (snap : Snapshot) :
    (report s earlier snap).limit = allowedCurrent s (survey s snap) := by
  simp only [report, evaluate, settings_after, allowedCurrent, faults_withDivergence,
    withDivergence_factor]

/-- **The report of an evaluation is exactly what the readings give rise to.** Whatever was evaluated
    before:

    * a fault is there exactly if a monitored reading of its entity raises it;
    * a high or low advisory is there exactly if a fresh value lies beyond that bound of the advisory
      band;
    * any other advisory is the one divergence advisory of the pack;
    * and all but this one, with all values, with the divergence and with the allowed current, is the
      same after any other history. -/
theorem report_exact {s : PackSettings} {snap : Snapshot} (fits : snap.Fits s)
    (earlier : List Snapshot) :
    (∀ e kind, (report s earlier snap).faults.contains ⟨e, kind⟩ = true ↔
      ∃ q x r, Measures s snap e q x r ∧ x.limit ≠ {} ∧ r.Raises q x.limit kind) ∧
    (∀ e q, (report s earlier snap).advisories.contains ⟨e, q, .high⟩ = true ↔
      ∃ x v, Measures s snap e q x (.fresh v) ∧ ∃ bound ∈ x.limit.ext.max, bound < v) ∧
    (∀ e q, (report s earlier snap).advisories.contains ⟨e, q, .low⟩ = true ↔
      ∃ x v, Measures s snap e q x (.fresh v) ∧ ∃ bound ∈ x.limit.ext.min, v < bound) ∧
    (∀ key ∈ (report s earlier snap).advisories.keys, key.kind = .divergence →
      key = ⟨.pack, .voltage, .divergence⟩) ∧
    (report s earlier snap).advisories.keys.Nodup ∧
    ∀ others : List Snapshot,
      (report s others snap).faults = (report s earlier snap).faults ∧
      boundAdvisories (report s others snap).advisories =
        boundAdvisories (report s earlier snap).advisories ∧
      (report s others snap).divergence = (report s earlier snap).divergence ∧
      (report s others snap).limit = (report s earlier snap).limit := by
  have advisories (earlier : List Snapshot) :
      boundAdvisories (report s earlier snap).advisories =
        boundAdvisories (survey s snap).advisories := by
    simp only [report, evaluate, settings_after, boundAdvisories_withDivergence]
  have bound {key : AdvisoryKey} (about : key.kind ≠ .divergence) :
      (report s earlier snap).advisories.contains key = true ↔
        (survey s snap).advisories.contains key = true := by
    simp only [report, evaluate, settings_after]
    exact contains_withDivergence_iff about
  refine ⟨fun e kind => ?_, fun e q => ?_, fun e q => ?_, fun key mem about => ?_,
    RankedMap.nodup_keys _, fun others => ⟨?_, ?_, ?_, ?_⟩⟩
  · rw [faults_report, contains_faults_survey fits]
    simp only [Limit.monitored_iff]
  · rw [bound (by simp), contains_advisories_survey fits]
    constructor
    · rintro ⟨x, r, measured, advises⟩
      cases advises with
      | high above => exact ⟨x, _, measured, above⟩
    · rintro ⟨x, v, measured, above⟩
      exact ⟨x, _, measured, .high above⟩
  · rw [bound (by simp), contains_advisories_survey fits]
    constructor
    · rintro ⟨x, r, measured, advises⟩
      cases advises with
      | low below => exact ⟨x, _, measured, below⟩
    · rintro ⟨x, v, measured, below⟩
      exact ⟨x, _, measured, .low below⟩
  · have contained := RankedMap.contains_iff.2 mem
    simp only [report, evaluate, settings_after] at contained
    refine (contains_withDivergence contained).resolve_left fun found => ?_
    obtain ⟨entity, quantity, kind⟩ := key
    obtain ⟨x, r, -, advises⟩ := (contains_advisories_survey fits).1 found
    cases advises <;> cases about
  · rw [faults_report, faults_report]
  · rw [advisories, advisories]
  · simp only [report, evaluate, settings_after]
  · rw [limit_report, limit_report]

/-- A pack of two cells with bounds on voltages and temperatures. -/
def boundedPack : PackSettings where
  voltage := { limit := { max := some 8 } }
  current := { limit := { max := some 100 } }
  cells := [1, 2].map fun n =>
    { index := n
      voltage := { limit := { max := some 4, ext := { max := some 3.5 } } }
      temperature := { limit := { max := some 60 } } }

/-- A snapshot of it: the first cell is rather full, the second one's temperature is not known any
    more, and the pack voltage is not the sum of the cells. -/
def staleSnapshot : Snapshot where
  voltage := .fresh 6
  current := .fresh 20
  cells := [⟨1, .fresh 3.75, .fresh 25⟩, ⟨2, .fresh 3.25, .stale 25⟩]

/-- At the third evaluation of that snapshot the stale temperature and the full cell are reported as at
    the first, and the divergence with them. -/
theorem reports_stale_temperature :
    staleSnapshot.Fits boundedPack ∧
    (report boundedPack [staleSnapshot, staleSnapshot] staleSnapshot).faults.contains
      ⟨.cell 2, .channelStale⟩ = true ∧
    (report boundedPack [staleSnapshot, staleSnapshot] staleSnapshot).advisories.contains
      ⟨.cell 1, .voltage, .high⟩ = true ∧
    (report boundedPack [staleSnapshot, staleSnapshot] staleSnapshot).advisories.contains
      ⟨.pack, .voltage, .divergence⟩ = true ∧
    (report boundedPack [] staleSnapshot).faults =
      (report boundedPack [staleSnapshot, staleSnapshot] staleSnapshot).faults := by
  have fits : staleSnapshot.Fits boundedPack := rfl
  have full := @Measures.cellVoltage boundedPack staleSnapshot 0 _ _ rfl rfl
  have stale := @Measures.cellTemperature boundedPack staleSnapshot 1 _ _ rfl rfl
  obtain ⟨faults, high, -, -, -, alike⟩ := report_exact fits [staleSnapshot, staleSnapshot]
  refine ⟨fits, (faults _ _).2 ?_, (high _ _).2 ?_, by decide +kernel, (alike []).1⟩
  · exact ⟨_, _, _, stale, by decide, .stale 25⟩
  · exact ⟨_, _, full, 3.5, rfl, by decide⟩

end Engine

end PackGuard
