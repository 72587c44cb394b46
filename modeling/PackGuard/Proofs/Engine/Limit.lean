import PackGuard.Proofs.Config.Sound
import PackGuard.Proofs.Engine.Findings
import PackGuard.Proofs.Number.Single

/-!
# What the allowed current says of a pack

The allowed current is the nominal maximum times the least factor that any monitored reading allows.

* `Limit.Allows`: a reading strictly inside the hard bounds. `Limit.Eases`: one for which nothing tapers
  off either.
* `proportion_derating`, `derating_pos`, `derating_one`: **the factor of a value is a fraction; it is above
  zero only strictly inside the hard bounds, and one wherever nothing tapers off**.
* `factor_check`, `factor_checkAll_le`: a check takes the lesser of two factors, and so a survey
  the least of all.
* `Config.limit_certifies`: **a positive current limit certifies the pack**.
-/

namespace PackGuard

open Binary

/-! ## 1. Proportions -/

/-- A finite number from zero to one. -/
structure Proportion (x : Float32) : Prop where
  finite : x.isFinite = true
  nonneg : 0 ≤ toRat x
  le_one : toRat x ≤ 1

theorem proportion_zero : Proportion 0 := ⟨by decide, le_rfl, by rw [toRat_zero]; norm_num⟩

theorem proportion_one : Proportion 1 := ⟨by decide, by rw [toRat_one]; norm_num, toRat_one.le⟩

theorem proportion_clamp {x : Float32} (number : x.isNaN = false) : Proportion (clamp 0 1 x) := by
  obtain ⟨finite, low, high⟩ := clamp_mem proportion_zero.finite proportion_one.finite number (by decide)
  have nonneg := (le_iff_toRat proportion_zero.finite finite).1 low
  have most := (le_iff_toRat finite proportion_one.finite).1 high
  exact ⟨finite, by rwa [toRat_zero] at nonneg, by rwa [toRat_one] at most⟩

theorem Proportion.lesser {x y : Float32} (hx : Proportion x) (hy : Proportion y) :
    Proportion (lesser x y) := by
  obtain ⟨finite, least⟩ := toRat_lesser hx.finite hy.finite
  exact ⟨finite, least ▸ le_min hx.nonneg hy.nonneg, least ▸ (min_le_left _ _).trans hx.le_one⟩

/-- A part of a finite number is between zero and that number. -/
theorem mul_proportion {x y : Float32} (finite : x.isFinite = true) (nonneg : 0 ≤ toRat x)
    (proportion : Proportion y) :
    (x * y).isFinite = true ∧ 0 ≤ toRat (x * y) ∧ toRat (x * y) ≤ toRat x :=
  (stores_mul finite proportion.finite).mem writable_zero (writable_toRat x)
    (mul_nonneg nonneg proportion.nonneg) (mul_le_of_le_one_right nonneg proportion.le_one)

/-! ## 2. The factor of a value -/

/-- **A reading strictly inside the hard bounds**: fresh, finite, and beyond neither of them. -/
structure Limit.Allows (l : Limit) (v : Float32) : Prop where
  finite : v.isFinite = true
  above : ∀ bound ∈ l.min, bound < v
  below : ∀ bound ∈ l.max, v < bound

/-- **A value for which nothing tapers off**: wherever a hard bound comes with a bound of the band `lim`
    on its side, the value is not beyond that one either. -/
structure Limit.Eases (l : Limit) (v : Float32) : Prop extends l.Allows v where
  inLow : ∀ hard ∈ l.min, ∀ soft ∈ l.lim.min, soft ≤ v
  inHigh : ∀ hard ∈ l.max, ∀ soft ∈ l.lim.max, v ≤ soft

section Derating

variable {l : Limit} {v : Float32}

theorem deratingAbove_zero {bound : Float32} (set : bound ∈ l.max) (beyond : bound ≤ v) :
    deratingAbove v l = 0 := by
  unfold deratingAbove
  rw [Option.mem_def.1 set]
  cases l.lim.max <;> simp [taper, beyond]

theorem deratingBelow_zero {bound : Float32} (set : bound ∈ l.min) (beyond : v ≤ bound) :
    deratingBelow v l = 0 := by
  unfold deratingBelow
  rw [Option.mem_def.1 set]
  cases l.lim.min <;> simp [taper, beyond]

/-- The upper bounds take a part away only beyond the band `lim`. -/
theorem deratingAbove_cases (v : Float32) (l : Limit) :
    deratingAbove v l = 0 ∨ deratingAbove v l = 1 ∨ ∃ soft ∈ l.lim.max, soft < v := by
  unfold deratingAbove
  cases l.max with
  | none => exact .inr (.inl rfl)
  | some hard => cases l.lim.max <;> simp only [taper] <;> grind

/-- The lower bounds take a part away only beyond the band `lim`. -/
theorem deratingBelow_cases (v : Float32) (l : Limit) :
    deratingBelow v l = 0 ∨ deratingBelow v l = 1 ∨ ∃ soft ∈ l.lim.min, v < soft := by
  unfold deratingBelow
  cases l.min with
  | none => exact .inr (.inl rfl)
  | some hard => cases l.lim.min <;> simp only [taper] <;> grind

/-- Up to the band `lim` the upper bounds take nothing away. -/
theorem deratingAbove_one (below : ∀ bound ∈ l.max, v < bound)
    (inHigh : ∀ hard ∈ l.max, ∀ soft ∈ l.lim.max, v ≤ soft) : deratingAbove v l = 1 := by
  unfold deratingAbove
  cases max : l.max with
  | none => rfl
  | some hard =>
      have inside := not_le_of_lt (below hard max)
      cases soft : l.lim.max with
      | none => simp [taper, inside]
      | some soft' =>
          have flat : ¬ soft' < v := fun beyond => not_le_of_lt beyond (inHigh hard max soft' soft)
          simp [taper, inside, flat]

/-- Down to the band `lim` the lower bounds take nothing away. -/
theorem deratingBelow_one (above : ∀ bound ∈ l.min, bound < v)
    (inLow : ∀ hard ∈ l.min, ∀ soft ∈ l.lim.min, soft ≤ v) : deratingBelow v l = 1 := by
  unfold deratingBelow
  cases min : l.min with
  | none => rfl
  | some hard =>
      have inside := not_le_of_lt (above hard min)
      cases soft : l.lim.min with
      | none => simp [taper, inside]
      | some soft' =>
          have flat : ¬ v < soft' := fun beyond => not_le_of_lt beyond (inLow hard min soft' soft)
          simp [taper, inside, flat]

/-- **Where nothing tapers off, all of the nominal current is allowed.** -/
theorem derating_one (eases : l.Eases v) : derating v l = 1 := by
  unfold derating
  rw [if_pos eases.finite, deratingAbove_one eases.below eases.inHigh,
    deratingBelow_one eases.above eases.inLow]
  decide

variable (wf : l.WellFormed)
include wf

/-- Of the two sides at most one takes a part away, and this one alone can be a NaN. -/
theorem isNaN_deratings (finite : v.isFinite = true) :
    (lesser (deratingAbove v l) (deratingBelow v l)).isNaN = false := by
  rw [isNaN_lesser, Bool.and_eq_false_iff]
  rcases deratingAbove_cases v l with zero | one | ⟨high, setHigh, above⟩
  · exact .inl (zero ▸ by decide)
  · exact .inl (one ▸ by decide)
  rcases deratingBelow_cases v l with zero | one | ⟨low, setLow, below⟩
  · exact .inr (zero ▸ by decide)
  · exact .inr (one ▸ by decide)
  have finiteLow := wf.lim.finite.1 low setLow
  have finiteHigh := wf.lim.finite.2 high setHigh
  have ordered := (le_iff_toRat finiteLow finiteHigh).1 (wf.lim.ordered low setLow high setHigh)
  rw [lt_iff_toRat finiteHigh finite] at above
  rw [lt_iff_toRat finite finiteLow] at below
  linarith

/-- **The factor of a value is a fraction.** -/
theorem proportion_derating : Proportion (derating v l) := by
  unfold derating
  split
  · next finite => exact proportion_clamp (isNaN_deratings wf finite)
  · exact proportion_zero

/-- At or beyond a lower bound nothing is allowed. -/
theorem derating_at_min (finite : v.isFinite = true) {bound : Float32} (set : bound ∈ l.min)
    (beyond : v ≤ bound) : derating v l = 0 := by
  unfold derating
  rw [if_pos finite, deratingBelow_zero set beyond]
  rcases deratingAbove_cases v l with zero | one | ⟨soft, setSoft, above⟩
  · rw [zero]; decide
  · rw [one]; decide
  · have finiteBound := wf.finite.1 bound set
    have finiteSoft := wf.lim.finite.2 soft setSoft
    have inside := (lt_iff_toRat finiteBound finiteSoft).1 ((wf.lim.above bound set).2 soft setSoft)
    rw [lt_iff_toRat finiteSoft finite] at above
    rw [le_iff_toRat finite finiteBound] at beyond
    linarith

/-- At or beyond an upper bound nothing is allowed. -/
theorem derating_at_max (finite : v.isFinite = true) {bound : Float32} (set : bound ∈ l.max)
    (beyond : bound ≤ v) : derating v l = 0 := by
  unfold derating
  rw [if_pos finite, deratingAbove_zero set beyond]
  rcases deratingBelow_cases v l with zero | one | ⟨soft, setSoft, below⟩
  · rw [zero]; decide
  · rw [one]; decide
  · have finiteBound := wf.finite.2 bound set
    have finiteSoft := wf.lim.finite.1 soft setSoft
    have inside := (lt_iff_toRat finiteSoft finiteBound).1 ((wf.lim.below bound set).1 soft setSoft)
    rw [lt_iff_toRat finite finiteSoft] at below
    rw [le_iff_toRat finiteBound finite] at beyond
    linarith

/-- **Something is allowed only strictly inside the hard bounds.** -/
theorem derating_pos (pos : 0 < toRat (derating v l)) : l.Allows v := by
  have finite : v.isFinite = true := by
    by_contra infinite
    rw [derating, if_neg infinite, toRat_zero] at pos
    exact lt_irrefl _ pos
  refine ⟨finite, fun bound set => ?_, fun bound set => ?_⟩
  · refine lt_of_not_le (isNaN_of_isFinite finite) (isNaN_of_isFinite (wf.finite.1 bound set)) ?_
    intro beyond
    rw [derating_at_min wf finite set beyond, toRat_zero] at pos
    exact lt_irrefl _ pos
  · refine lt_of_not_le (isNaN_of_isFinite (wf.finite.2 bound set)) (isNaN_of_isFinite finite) ?_
    intro beyond
    rw [derating_at_max wf finite set beyond, toRat_zero] at pos
    exact lt_irrefl _ pos

end Derating

/-! ## 3. The factor of a survey -/

/-- The share of the nominal current that a reading allows; without a fresh value, none. -/
def Reading.share (l : Limit) : Reading → Float32
  | .fresh v => derating v l
  | _ => 0

/-- **Only a fresh value strictly inside the hard bounds allows anything.** -/
theorem allows_of_share_pos {l : Limit} (wf : l.WellFormed) {r : Reading}
    (pos : 0 < toRat (r.share l)) : ∃ v, r = .fresh v ∧ l.Allows v := by
  cases r with
  | fresh v => exact ⟨v, rfl, derating_pos wf pos⟩
  | noData | stale => exact absurd pos (not_lt.2 toRat_zero.le)

namespace Findings

variable {f : Findings} {os : List Observation}

/-- **A check takes the lesser of two factors.** -/
theorem factor_check (proportion : Proportion f.factor) (e : Entity) (q : Quantity) {l : Limit}
    (wf : l.WellFormed) (r : Reading) :
    Proportion (f.check e q l r).factor ∧
    toRat (f.check e q l r).factor =
      if l.monitored then min (toRat f.factor) (toRat (r.share l)) else toRat f.factor := by
  have zero : min (toRat f.factor) (toRat 0) = toRat 0 := min_eq_right proportion.nonneg
  unfold check
  split
  · cases r with
    | fresh v =>
        have share := proportion_derating (v := v) wf
        simp only [addValue_factor]
        exact ⟨proportion.lesser share, (toRat_lesser proportion.finite share.finite).2⟩
    | stale | noData =>
        simp only [addStale_factor, Reading.share]
        exact ⟨proportion_zero, zero.symm⟩
  · exact ⟨proportion, rfl⟩

/-- **The factor after several checks is a fraction, and at most what each of them allows.** -/
theorem factor_checkAll_le (proportion : Proportion f.factor)
    (wf : ∀ o ∈ os, o.settings.limit.WellFormed) :
    Proportion (f.checkAll os).factor ∧ toRat (f.checkAll os).factor ≤ toRat f.factor ∧
    ∀ o ∈ os, o.settings.limit.monitored = true →
      toRat (f.checkAll os).factor ≤ toRat (o.reading.share o.settings.limit) := by
  induction os generalizing f with
  | nil => exact ⟨proportion, le_rfl, List.forall_mem_nil _⟩
  | cons o os ih =>
      obtain ⟨own, others⟩ := List.forall_mem_cons.1 wf
      obtain ⟨next, step⟩ := factor_check proportion o.entity o.quantity own o.reading
      obtain ⟨last, least, rest⟩ := ih next others
      refine ⟨last, least.trans ?_, List.forall_mem_cons.2 ⟨fun monitored => least.trans ?_, rest⟩⟩
      · rw [step]
        split
        · exact min_le_left _ _
        · exact le_rfl
      · rw [step, if_pos monitored]
        exact min_le_right _ _

/-- Checks that allow everything leave the factor as it is. -/
theorem factor_checkAll_one (proportion : Proportion f.factor)
    (wf : ∀ o ∈ os, o.settings.limit.WellFormed)
    (all : ∀ o ∈ os, o.settings.limit.monitored = true → o.reading.share o.settings.limit = 1) :
    toRat (f.checkAll os).factor = toRat f.factor := by
  induction os generalizing f with
  | nil => rfl
  | cons o os ih =>
      obtain ⟨own, others⟩ := List.forall_mem_cons.1 wf
      obtain ⟨one, rest⟩ := List.forall_mem_cons.1 all
      obtain ⟨next, step⟩ := factor_check proportion o.entity o.quantity own o.reading
      refine (ih next others rest).trans (step.trans ?_)
      split
      · next monitored =>
          rw [one monitored, toRat_one]
          exact min_eq_left proportion.le_one
      · rfl

end Findings

/-! ## 4. The allowed current -/

section Survey

variable {s : PackSettings} {snap : Snapshot} (fits : snap.Fits s)
  (wf : ∀ {e q x r}, Measures s snap e q x r → x.limit.WellFormed)
include fits wf

/-- **The factor of a survey is a fraction, and at most what each monitored reading allows.** -/
theorem factor_survey_le :
    Proportion (survey s snap).factor ∧
    ∀ {e q x r}, Measures s snap e q x r → x.limit.monitored = true →
      toRat (survey s snap).factor ≤ toRat (r.share x.limit) := by
  have limits : ∀ o ∈ observations s snap, o.settings.limit.WellFormed := fun o mem =>
    wf ((mem_observations_iff fits).1 mem)
  obtain ⟨proportion, -, least⟩ := Findings.factor_checkAll_le (f := {}) proportion_one limits
  rw [survey_eq]
  refine ⟨proportion, fun {e q x r} measured monitored => ?_⟩
  exact least ⟨e, q, x, r⟩ ((mem_observations_iff fits).2 measured) monitored

/-- A survey whose readings allow everything has the factor one. -/
theorem factor_survey_one
    (all : ∀ {e q x r}, Measures s snap e q x r → x.limit.monitored = true → r.share x.limit = 1) :
    toRat (survey s snap).factor = 1 := by
  rw [survey_eq, Findings.factor_checkAll_one (f := {}) proportion_one, toRat_one]
  · exact fun o mem => wf ((mem_observations_iff fits).1 mem)
  · exact fun o mem => all ((mem_observations_iff fits).1 mem)

/-- **Readings strictly inside their hard bounds raise no fault.** -/
theorem faults_survey_isEmpty
    (all : ∀ {e q x r}, Measures s snap e q x r → x.limit.monitored = true →
      ∃ v, r = .fresh v ∧ x.limit.Allows v) :
    (survey s snap).faults.isEmpty = true := by
  refine RankedMap.isEmpty_iff.2 fun ⟨e, kind⟩ contained => ?_
  obtain ⟨q, x, r, measured, monitored, raises⟩ := (contains_faults_survey fits).1 contained
  obtain ⟨v, rfl, allows⟩ := all measured monitored
  cases raises with
  | high above =>
      obtain ⟨bound, set, above⟩ := above
      have finite := (wf measured).finite.2 bound set
      have below := allows.below bound set
      rw [lt_iff_toRat finite allows.finite] at above
      rw [lt_iff_toRat allows.finite finite] at below
      linarith
  | low below =>
      obtain ⟨bound, set, below⟩ := below
      have finite := (wf measured).finite.1 bound set
      have above := allows.above bound set
      rw [lt_iff_toRat allows.finite finite] at below
      rw [lt_iff_toRat finite allows.finite] at above
      linarith

variable (finite : s.maxCurrent.isFinite = true)
include finite

/-- **The allowed current lies between zero and the nominal maximum.** -/
theorem allowedCurrent_mem (positive : 0 < toRat s.maxCurrent) :
    (Engine.allowedCurrent s (survey s snap)).isFinite = true ∧
      0 ≤ toRat (Engine.allowedCurrent s (survey s snap)) ∧
      toRat (Engine.allowedCurrent s (survey s snap)) ≤ toRat s.maxCurrent := by
  unfold Engine.allowedCurrent
  split
  · exact mul_proportion finite positive.le (factor_survey_le fits wf).1
  · exact ⟨proportion_zero.finite, proportion_zero.nonneg, toRat_zero.symm ▸ positive.le⟩

/-- **Where current is allowed, every monitored reading is strictly inside its hard bounds.** -/
theorem allows_of_allowedCurrent_pos (pos : 0 < toRat (Engine.allowedCurrent s (survey s snap)))
    {e : Entity} {q : Quantity} {x : QuantitySettings} {r : Reading} (measured : Measures s snap e q x r)
    (monitored : x.limit.monitored = true) : ∃ v, r = .fresh v ∧ x.limit.Allows v := by
  obtain ⟨proportion, least⟩ := factor_survey_le fits wf
  unfold Engine.allowedCurrent at pos
  split at pos
  · -- a factor of zero would leave nothing of the maximum
    have positive : 0 < toRat (survey s snap).factor := by
      refine proportion.nonneg.lt_of_ne fun zero => ?_
      have nothing := ((stores_mul finite proportion.finite).of_eq
        (by rw [← zero, mul_zero])).exact writable_zero
      exact absurd pos (not_lt.2 nothing.2.le)
    exact allows_of_share_pos (wf measured) (positive.trans_le (least measured monitored))
  · exact absurd pos (not_lt.2 toRat_zero.le)

/-- **Where nothing tapers off, the nominal maximum is allowed.** -/
theorem allowedCurrent_eq (positive : 0 < toRat s.maxCurrent)
    (all : ∀ {e q x r}, Measures s snap e q x r → x.limit.monitored = true →
      ∃ v, r = .fresh v ∧ x.limit.Eases v) :
    Engine.allowedCurrent s (survey s snap) = s.maxCurrent := by
  have sane := faults_survey_isEmpty fits wf fun measured monitored =>
    (all measured monitored).imp fun _ h => ⟨h.1, h.2.toAllows⟩
  have one := factor_survey_one fits wf fun measured monitored => by
    obtain ⟨v, rfl, eases⟩ := all measured monitored
    exact derating_one eases
  obtain ⟨proportion, -⟩ := factor_survey_le fits wf
  obtain ⟨product, whole⟩ := ((stores_mul finite proportion.finite).of_eq
    (by rw [one, mul_one])).exact (writable_toRat s.maxCurrent)
  rw [Engine.allowedCurrent, if_pos sane]
  exact eq_of_toRat product finite whole (whole ▸ positive.ne')

end Survey

namespace Config

variable {c : Config}

/-- **All limits of a configuration without a defect are well-formed.** -/
theorem wellFormed_of_measures (sound : c.defect? = none) {snap : Snapshot} {e : Entity} {q : Quantity}
    {x : QuantitySettings} {r : Reading} (measured : Measures c.resolve.pack snap e q x r) :
    x.limit.WellFormed := by
  have cells {k : Nat} {cell : CellSettings} (settings : c.resolve.pack.cells[k]? = some cell) :
      ∃ index, cell = c.resolveCell index := by
    obtain ⟨k, -, rfl⟩ := List.mem_map.1 (List.mem_of_getElem? settings)
    exact ⟨_, rfl⟩
  cases measured with
  | voltage => exact QuantityConfig.wellFormed_of_sound (quantities_of_sound sound).1
  | current => exact QuantityConfig.wellFormed_of_sound (quantities_of_sound sound).2.1
  | cellVoltage settings =>
      obtain ⟨index, rfl⟩ := cells settings
      exact QuantityConfig.wellFormed_of_sound (voltage_of_sound sound index)
  | cellTemperature settings =>
      obtain ⟨index, rfl⟩ := cells settings
      exact QuantityConfig.wellFormed_of_sound (temperature_of_sound sound index)

/-- The nominal maximum is the upper bound of the current. -/
theorem exists_maxCurrent (sound : c.defect? = none) :
    ∃ top ∈ c.current.max, c.resolve.pack.maxCurrent = top := by
  obtain ⟨-, positive⟩ := maxCurrent_of_sound sound
  change 0 < c.current.max.getD 0 at positive
  show ∃ top ∈ c.current.max, c.current.max.getD 0 = top
  cases max : c.current.max with
  | none =>
      rw [max] at positive
      exact absurd positive (by decide)
  | some top => exact ⟨top, rfl, rfl⟩

/-- **A positive current limit certifies the pack.** For a configuration that passes its check and a
    snapshot of its pack, whatever was evaluated before: the allowed current is a number from zero to
    the nominal maximum; with any fault it is zero; where it is above zero every monitored reading is
    fresh, finite and strictly inside its hard bounds; and where all monitored readings are that and
    within the band `lim` besides, it is the nominal maximum. -/
theorem limit_certifies (sound : c.defect? = none) {snap : Snapshot}
    (fits : snap.Fits c.resolve.pack) (earlier : List Snapshot) :
    ∃ top ∈ c.current.max,
      (Engine.report c.resolve.pack earlier snap).limit.isNaN = false ∧
      0 ≤ (Engine.report c.resolve.pack earlier snap).limit ∧
      (Engine.report c.resolve.pack earlier snap).limit ≤ top ∧
      ((Engine.report c.resolve.pack earlier snap).faults.isEmpty = false →
        (Engine.report c.resolve.pack earlier snap).limit = 0) ∧
      (0 < (Engine.report c.resolve.pack earlier snap).limit →
        ∀ e q x r, Measures c.resolve.pack snap e q x r → x.limit ≠ {} →
          ∃ v, r = .fresh v ∧ x.limit.Allows v) ∧
      ((∀ e q x r, Measures c.resolve.pack snap e q x r → x.limit ≠ {} →
          ∃ v, r = .fresh v ∧ x.limit.Eases v) →
        (Engine.report c.resolve.pack earlier snap).limit = top) := by
  obtain ⟨top, set, max⟩ := exists_maxCurrent sound
  obtain ⟨finite, positive⟩ := maxCurrent_of_sound sound
  have wf {e q x r} (measured : Measures c.resolve.pack snap e q x r) : x.limit.WellFormed :=
    wellFormed_of_measures sound measured
  have pos := toRat_pos finite positive
  obtain ⟨number, low, high⟩ := allowedCurrent_mem fits wf finite pos
  rw [Engine.limit_report, Engine.faults_report]
  refine ⟨top, set, isNaN_of_isFinite number, ?_, ?_, fun fault => ?_,
    fun allowed e q x r measured bound => ?_, fun all => ?_⟩
  · rwa [le_iff_toRat (by decide) number, toRat_zero]
  · rwa [← max, le_iff_toRat number finite]
  · rw [Engine.allowedCurrent, fault]
    rfl
  · exact allows_of_allowedCurrent_pos fits wf finite (toRat_pos number allowed) measured
      (Limit.monitored_iff.2 bound)
  · rw [← max]
    exact allowedCurrent_eq fits wf finite pos fun measured monitored =>
      all _ _ _ _ measured (Limit.monitored_iff.1 monitored)

/-- A snapshot of the pack of two cells in which the second one is rather full. -/
def taperedSnapshot : Snapshot where
  voltage := .fresh 7
  current := .fresh 20
  cells := [⟨1, .fresh 3.25, .noData⟩, ⟨2, .fresh 3.75, .noData⟩]

/-- Half of the maximum is allowed there, and so the second cell is strictly inside its hard bounds. -/
theorem certifies_twoCellConfig :
    twoCellConfig.defect? = none ∧ taperedSnapshot.Fits twoCellConfig.resolve.pack ∧
    (Engine.report twoCellConfig.resolve.pack [] taperedSnapshot).limit = 50 ∧
    ∃ cell ∈ twoCellConfig.resolve.pack.cells, cell.index = 2 ∧ cell.voltage.limit.min = some 3 ∧
      cell.voltage.limit.Allows 3.75 := by
  have sound : twoCellConfig.defect? = none := by decide +kernel
  have fits : taperedSnapshot.Fits twoCellConfig.resolve.pack := by decide +kernel
  have half : (Engine.report twoCellConfig.resolve.pack [] taperedSnapshot).limit = 50 := by
    decide +kernel
  have full := @Measures.cellVoltage twoCellConfig.resolve.pack taperedSnapshot 1 _ _ rfl rfl
  have mem : twoCellConfig.resolveCell 2 ∈ twoCellConfig.resolve.pack.cells := by decide +kernel
  obtain ⟨top, -, -, -, -, -, certified, -⟩ := limit_certifies sound fits []
  obtain ⟨v, fresh, allows⟩ := certified (by rw [half]; decide) _ _ _ _ full (by decide +kernel)
  cases fresh
  exact ⟨sound, fits, half, _, mem, rfl, by decide +kernel, allows⟩

end Config

end PackGuard
