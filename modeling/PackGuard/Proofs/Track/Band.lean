import PackGuard.Proofs.Config.Sound
import PackGuard.Proofs.Engine.Findings
import PackGuard.Proofs.Track.Freshness

/-!
# Whether smoothing can lead out of a band

A channel is fed values from a band. What it publishes is their average, every step of which is rounded
three times.

* `SteadyBand`: what keeps the steps of a band in it: a span that can be stored, and with the weight one a
  sum of average and rounded difference that stays inside.
* `smooth_within`, `within_after`: **a steady band is left neither by a step nor by a history**.
* `steady_of_steps`: no other band is left by no step.
* `not_excursion`: a value in the hard band is reported as no excursion.
* `QuantityConfig.stays_within_iff`: **nothing leads out of the hard band of a quantity, whatever its
  calibration, exactly if the band is steady**.
* `sum_near`: a positive band that reaches no further than twice its lower bound is steady.
* `Config.overshoots`: not every band is.
-/

namespace PackGuard

open Binary

/-! ## 1. Bands -/

/-- In the interval between two bounds. -/
def Within (lo hi x : Float32) : Prop := lo ≤ x ∧ x ≤ hi

instance (lo hi x : Float32) : Decidable (Within lo hi x) := inferInstanceAs (Decidable (_ ∧ _))

/-- **What keeps the steps of a band in it**: its span can be stored, and where a new value counts with
    the weight one, the average and the rounded difference add up to something inside. -/
structure SteadyBand (lo hi w : Float32) : Prop where
  span : (hi - lo).isFinite = true
  sum : w = 1 → ∀ a p, Within lo hi a → Within lo hi p → Within lo hi (a + (p - a))

section Bands

variable {lo hi : Float32} (hlo : lo.isFinite = true) (hhi : hi.isFinite = true)
include hlo hhi

/-- Between finite bounds there are finite numbers only. -/
theorem within_iff {x : Float32} :
    Within lo hi x ↔ x.isFinite = true ∧ toRat lo ≤ toRat x ∧ toRat x ≤ toRat hi := by
  constructor
  · rintro ⟨above, below⟩
    have finite := isFinite_of_between hlo hhi above below
    exact ⟨finite, (le_iff_toRat hlo finite).1 above, (le_iff_toRat finite hhi).1 below⟩
  · rintro ⟨finite, above, below⟩
    exact ⟨(le_iff_toRat hlo finite).2 above, (le_iff_toRat finite hhi).2 below⟩

/-- The differences inside a band can be stored if the span can. -/
theorem isFinite_sub_of_span (span : (hi - lo).isFinite = true) {a p : Float32}
    (ha : Within lo hi a) (hp : Within lo hi p) : (p - a).isFinite = true := by
  obtain ⟨finiteA, lowA, highA⟩ := (within_iff hlo hhi).1 ha
  obtain ⟨finiteP, lowP, highP⟩ := (within_iff hlo hhi).1 hp
  refine ((stores_sub finiteP finiteA).abs_le_of_abs_le (stores_sub hhi hlo) span ?_).1
  rw [abs_of_nonneg (a := toRat hi - toRat lo) (by linarith), abs_le]
  constructor <;> linarith

/-- **A step does not lead out of a steady band.** -/
theorem smooth_within {w : Float32} (steady : SteadyBand lo hi w) (weight : IsWeight w) {a p : Float32}
    (ha : Within lo hi a) (hp : Within lo hi p) : Within lo hi (smooth a p w) := by
  have span := isFinite_sub_of_span hlo hhi steady.span ha hp
  obtain ⟨finiteA, lowA, highA⟩ := (within_iff hlo hhi).1 ha
  obtain ⟨finiteP, lowP, highP⟩ := (within_iff hlo hhi).1 hp
  rcases weight.apart with rfl | below
  · obtain ⟨same, value⟩ := smooth_one finiteA span
    rw [within_iff hlo hhi, same, value, ← within_iff hlo hhi]
    exact steady.sum rfl a p ha hp
  · obtain ⟨kept, least, most⟩ :=
      smooth_between finiteA finiteP span weight.finite weight.nonneg below
    exact (within_iff hlo hhi).2
      ⟨kept, (le_min lowA lowP).trans least, most.trans (max_le highA highP)⟩

/-- The sum of an average and a rounded difference depends on their values alone. -/
theorem within_sum_congr {a a' p p' : Float32} (ha : a.isFinite = true) (ha' : a'.isFinite = true)
    (hp : p.isFinite = true) (hp' : p'.isFinite = true) (sameA : toRat a' = toRat a)
    (sameP : toRat p' = toRat p) (span : (p - a).isFinite = true) :
    Within lo hi (a' + (p' - a')) ↔ Within lo hi (a + (p - a)) := by
  obtain ⟨finite, difference⟩ := ((stores_sub hp' ha').of_eq (by rw [sameA, sameP])).same
    (stores_sub hp ha)
  rw [span] at finite
  obtain ⟨kept, sum⟩ := ((stores_add ha' finite).of_eq (by rw [sameA, difference])).same
    (stores_add ha span)
  rw [within_iff hlo hhi, within_iff hlo hhi, kept, sum]

end Bands

/-- **A positive band that reaches no further than twice its lower bound is steady**: all differences in
    it are exact. -/
theorem sum_near {lo hi : Float32} (hlo : lo.isFinite = true) (hhi : hi.isFinite = true)
    (positive : 0 < lo) (near : toRat hi ≤ 2 * toRat lo) {a p : Float32} (ha : Within lo hi a)
    (hp : Within lo hi p) : Within lo hi (a + (p - a)) := by
  obtain ⟨finiteA, lowA, highA⟩ := (within_iff hlo hhi).1 ha
  obtain ⟨finiteP, lowP, highP⟩ := (within_iff hlo hhi).1 hp
  have pos := toRat_pos hlo positive
  obtain ⟨finite, difference⟩ := sub_near finiteP finiteA (by linarith) (by linarith) (by linarith)
    (by linarith)
  obtain ⟨kept, value⟩ := ((stores_add finiteA finite).of_eq
    (by rw [difference, add_sub_cancel])).exact (writable_toRat p)
  rw [within_iff hlo hhi, kept, value]
  exact ⟨rfl, lowP, highP⟩

/-! ## 2. Histories -/

/-- All raw values of a history are calibrated to values in a band. -/
def Calibration.FeedsWithin (c : Calibration) (lo hi : Float32) (history : List Intake) : Prop :=
  ∀ raw, .value raw ∈ history → Within lo hi (c.toPhysical raw)

namespace Track

/-- **No history leads out of a steady band.** -/
theorem within_after {a : Acquisition} {lo hi : Float32} (hlo : lo.isFinite = true)
    (hhi : hi.isFinite = true) (steady : SteadyBand lo hi (smoothingWeight a.samples a.decay))
    (channel : Channel) (staleAfter : UInt32) {history : List Intake}
    (fed : a.calibration.FeedsWithin lo hi history) {v : Float32}
    (shown : ((new channel a staleAfter).after history).reading.last? = some v) : Within lo hi v := by
  have kept : ∀ v ∈ ((new channel a staleAfter).after history).average, Within lo hi v := by
    refine average_after (fun p (inside : Within lo hi p) => inside) (fun _ _ ha hp => ?_) rfl fed
    exact smooth_within hlo hhi steady (isWeight_smoothingWeight _ _) ha hp
  refine kept v ?_
  unfold reading at shown
  split at shown
  · cases shown
  · next average =>
      rw [average]
      split at shown <;> exact shown

/-- The reading after two raw values shows one step. -/
theorem reading_after_two (channel : Channel) (a : Acquisition) (staleAfter : UInt32)
    {first second : Float32} (finite : (a.calibration.toPhysical first).isFinite = true)
    (number : (a.calibration.toPhysical second).isNaN = false) :
    ((new channel a staleAfter).after [.value first, .value second]).reading.last? =
      some (smooth (a.calibration.toPhysical first) (a.calibration.toPhysical second)
        (smoothingWeight a.samples a.decay)) := by
  obtain ⟨weight, positive, -⟩ := smoothingWeight_mem a.samples a.decay
  have kept := isNaN_smooth finite number weight positive
  have seeded := average_seeded (t := new channel a staleAfter) rfl (isNaN_of_isFinite finite)
  have step := next_of_average seeded second
  have possible : ((new channel a staleAfter).applyRaw first).staleAfter ≤ mostFailures :=
    staleAfter_new_le channel a staleAfter
  have shown := shown_of_number possible (step ▸ kept)
  exact shown.trans (congrArg some step)

end Track

/-! ## 3. Excursions -/

/-- The kinds of excursions tell the quantities apart. -/
theorem FaultKind.quantity_of_excursion {q q' : Quantity} {side side' : Side}
    (same : ofExcursion q side = ofExcursion q' side') : q = q' := by
  cases q <;> cases side <;> cases q' <;> cases side' <;> first | rfl | cases same

theorem FaultKind.excursion_ne_stale (q : Quantity) (side : Side) :
    ofExcursion q side ≠ .channelStale := by
  cases q <;> cases side <;> nofun

/-- **A reading in its hard band is reported as no excursion.** -/
theorem not_excursion {s : PackSettings} {snap : Snapshot} (fits : snap.Fits s)
    (numbered : Settings.inOrder 1 s.cells = true) {e : Entity} {q : Quantity} {x : QuantitySettings}
    {r : Reading} (measured : Measures s snap e q x r) {lo hi : Float32} (low : x.limit.min = some lo)
    (high : x.limit.max = some hi) (inside : ∀ v, r.last? = some v → Within lo hi v)
    (earlier : List Snapshot) (side : Side) :
    (Engine.report s earlier snap).faults.contains ⟨e, .ofExcursion q side⟩ = false := by
  rw [Bool.eq_false_iff, Engine.faults_report, ne_eq, contains_faults_survey fits]
  rintro ⟨q', y, t, other, -, raises⟩
  generalize kind : FaultKind.ofExcursion q side = k at raises
  cases raises with
  | noData | stale => exact FaultKind.excursion_ne_stale q side kind
  | high above =>
      cases FaultKind.quantity_of_excursion kind
      obtain ⟨rfl, rfl⟩ := measured.unique numbered other
      obtain ⟨bound, set, above⟩ := above
      rw [high] at set
      cases set
      exact not_le_of_lt above (inside _ rfl).2
  | low below =>
      cases FaultKind.quantity_of_excursion kind
      obtain ⟨rfl, rfl⟩ := measured.unique numbered other
      obtain ⟨bound, set, below⟩ := below
      rw [low] at set
      cases set
      exact not_le_of_lt below (inside _ rfl).1

/-! ## 4. Quantities -/

/-- With the scale one and no offset a finite value is calibrated to itself. -/
theorem toRat_toPhysical {raw : Float32} (finite : raw.isFinite = true) :
    (({} : Calibration).toPhysical raw).isFinite = true ∧
      toRat (({} : Calibration).toPhysical raw) = toRat raw := by
  obtain ⟨kept, product⟩ := ((stores_mul finite (y := 1) (by decide)).of_eq
    (by rw [toRat_one, mul_one])).exact (writable_toRat raw)
  exact ((stores_add kept (y := 0) (by decide)).of_eq
    (by rw [product, toRat_zero, add_zero])).exact (writable_toRat raw)

/-- So it stays in a band between finite bounds. -/
theorem within_toPhysical {lo hi raw : Float32} (hlo : lo.isFinite = true) (hhi : hi.isFinite = true)
    (inside : Within lo hi raw) : Within lo hi (({} : Calibration).toPhysical raw) := by
  obtain ⟨finite, above, below⟩ := (within_iff hlo hhi).1 inside
  obtain ⟨kept, same⟩ := toRat_toPhysical finite
  exact (within_iff hlo hhi).2 ⟨kept, same ▸ above, same ▸ below⟩

/-- **A band that no step between calibrated values leads out of is steady.** Calibration keeps the values
    but not the sign of a zero, so the raw and the calibrated steps are compared by their values. -/
theorem steady_of_steps {lo hi w : Float32} (hlo : lo.isFinite = true) (hhi : hi.isFinite = true)
    (ordered : lo ≤ hi)
    (steps : ∀ {a p}, Within lo hi a → Within lo hi p →
      Within lo hi (smooth (({} : Calibration).toPhysical a) (({} : Calibration).toPhysical p) w)) :
    SteadyBand lo hi w := by
  have finite {x : Float32} (inside : Within lo hi x) : x.isFinite = true := ((within_iff hlo hhi).1 inside).1
  have inLow : Within lo hi lo := ⟨(le_iff_toRat hlo hlo).2 le_rfl, ordered⟩
  have inHigh : Within lo hi hi := ⟨ordered, (le_iff_toRat hhi hhi).2 le_rfl⟩
  have span : (hi - lo).isFinite = true := by
    obtain ⟨finiteLow, sameLow⟩ := toRat_toPhysical hlo
    obtain ⟨finiteHigh, sameHigh⟩ := toRat_toPhysical hhi
    obtain ⟨same, -⟩ := ((stores_sub finiteHigh finiteLow).of_eq (by rw [sameLow, sameHigh])).same
      (stores_sub hhi hlo)
    exact same ▸ isFinite_of_smooth (finite (steps inLow inHigh))
  refine ⟨span, fun one a p ha hp => ?_⟩
  have inside := one ▸ steps ha hp
  obtain ⟨finiteA, sameA⟩ := toRat_toPhysical (finite ha)
  obtain ⟨finiteP, sameP⟩ := toRat_toPhysical (finite hp)
  obtain ⟨same, value⟩ := smooth_one finiteA (isFinite_of_smooth (finite inside))
  rw [within_iff hlo hhi, same, value, ← within_iff hlo hhi] at inside
  exact (within_sum_congr hlo hhi (finite ha) finiteA (finite hp) finiteP sameA sameP
    (isFinite_sub_of_span hlo hhi span ha hp)).1 inside

namespace QuantityConfig

/-- The quantity with another calibration. -/
def recalibrated (q : QuantityConfig) (scale offset : Option Float32) : QuantityConfig :=
  { q with scale := scale, offset := offset }

/-- Without a calibration of its own a sound quantity stays sound. -/
theorem sound_uncalibrated {q : QuantityConfig} (sound : q.defect? = none) :
    (q.recalibrated none none).defect? = none := by
  have checks := firstPresent_eq_none_iff.1 sound
  refine firstPresent_eq_none_iff.2 ?_
  simp only [QuantityConfig.checks, List.forall_mem_append, List.forall_mem_cons] at checks ⊢
  obtain ⟨⟨⟨bounds, lim⟩, ext⟩, -, -, rest⟩ := checks
  exact ⟨⟨⟨bounds, lim⟩, ext⟩, rfl, rfl, rest⟩

/-- **Nothing leads out of the hard band of a quantity exactly if the band is steady.** For a quantity
    that passes its check, the following two say the same:

    * Under every calibration that passes the check as well, and after every history of raw values that
      are calibrated to values in the band and of failures, whatever the channel shows is in the band,
      and no evaluation of a pack in which it stands for this quantity reports an excursion of it.
    * The span of the band can be stored, and if a new value counts with the weight one, then
      `a + (p - a)` is in the band for all `a` and `p` in the band. -/
theorem stays_within_iff {q : QuantityConfig} (sound : q.defect? = none) {lo hi : Float32}
    (low : q.min = some lo) (high : q.max = some hi) :
    (∀ scale offset, (q.recalibrated scale offset).defect? = none →
      ∀ channel staleAfter history,
        (q.recalibrated scale offset).resolve.channel.calibration.FeedsWithin lo hi history →
        ∀ reading, reading =
          ((Track.new channel (q.recalibrated scale offset).resolve.channel staleAfter).after
            history).reading →
        (∀ v, reading.last? = some v → Within lo hi v) ∧
        ∀ s snap earlier e quantity x side, snap.Fits s → Settings.inOrder 1 s.cells = true →
          Measures s snap e quantity x reading → x.limit = q.resolve.limit →
          (Engine.report s earlier snap).faults.contains ⟨e, .ofExcursion quantity side⟩ = false) ↔
    SteadyBand lo hi (smoothingWeight q.resolve.channel.samples q.resolve.channel.decay) := by
  have bounds := (wellFormed_of_sound sound).finite
  have hlo : lo.isFinite = true := bounds.1 lo low
  have hhi : hi.isFinite = true := bounds.2 hi high
  have ordered : lo ≤ hi := by
    have := (wellFormed_of_sound sound).ordered lo low hi high
    rw [lt_iff_toRat hlo hhi] at this
    exact (le_iff_toRat hlo hhi).2 this.le
  constructor
  · intro stays
    refine steady_of_steps hlo hhi ordered fun {a p} ha hp => ?_
    have finite {raw : Float32} (inside : Within lo hi raw) :=
      ((within_iff hlo hhi).1 (within_toPhysical hlo hhi inside)).1
    have fed : ({} : Calibration).FeedsWithin lo hi [.value a, .value p] := by
      intro raw mem
      simp only [List.mem_cons, Intake.value.injEq, List.not_mem_nil, or_false] at mem
      rcases mem with rfl | rfl
      · exact within_toPhysical hlo hhi ha
      · exact within_toPhysical hlo hhi hp
    -- two raw values show what one step leads to
    refine (stays none none (sound_uncalibrated sound) .packVoltage 1 _ fed _ rfl).1 _ ?_
    exact Track.reading_after_two .packVoltage (q.recalibrated none none).resolve.channel 1
      (finite ha) (isNaN_of_isFinite (finite hp))
  · intro steady scale offset _ channel staleAfter history fed reading shown
    have inside : ∀ v, reading.last? = some v → Within lo hi v := by
      rintro v last
      rw [shown] at last
      exact Track.within_after (a := (q.recalibrated scale offset).resolve.channel) hlo hhi steady
        channel staleAfter fed last
    refine ⟨inside, fun s snap earlier e quantity x side fits numbered measured limit => ?_⟩
    exact not_excursion fits numbered measured (limit ▸ low) (limit ▸ high) inside earlier side

/-- The voltage of a cell, without any smoothing. -/
def plainVoltage : QuantityConfig where
  min := some 2.5
  max := some 4.5

/-- Its band is steady, though every value counts with the weight one: nothing in it is more than a
    factor of two apart. -/
theorem plainVoltage_stays :
    plainVoltage.defect? = none ∧ smoothingWeight 1 none = 1 ∧
    ∀ history, (Calibration.mk 0.001 0).FeedsWithin 2.5 4.5 history →
      ∀ v, ((Track.new (.cellVoltage 1) { calibration := ⟨0.001, 0⟩ } 3).after history).reading.last? =
        some v → Within 2.5 4.5 v := by
  have sound : plainVoltage.defect? = none := by decide +kernel
  have steady : SteadyBand 2.5 4.5
      (smoothingWeight plainVoltage.resolve.channel.samples plainVoltage.resolve.channel.decay) := by
    refine ⟨by decide, fun _ a p ha hp => sum_near (by decide) (by decide) (by decide) ?_ ha hp⟩
    rw [toRat_of_unpack (s := .positive) (m := 9437184) (e := -21) (h := by decide) rfl,
      toRat_of_unpack (s := .positive) (m := 10485760) (e := -22) (h := by decide) rfl]
    norm_num [signed]
  refine ⟨sound, by decide, fun history fed v shown => ?_⟩
  exact ((stays_within_iff sound rfl rfl).2 steady (some 0.001) none (by decide +kernel) (.cellVoltage 1) 3
    history fed _ rfl).1 v shown

end QuantityConfig

namespace Config

/-- A pack whose current has a band as wide as twice its bounds, in steps of less than ten
    microamperes. -/
def fineConfig : Config where
  pack := { cells := 1 }
  current := { min := some (-100), max := some 100, scale := some 7.62939453125e-06 }

/-- The current of that pack as its channel shows it. -/
def fineCurrent (history : List Intake) : Reading :=
  ((Track.new .packCurrent fineConfig.current.resolve.channel 3).after history).reading

/-- **A band is left without a single value outside.** Almost the whole band lies between the two
    values, their difference is rounded up, and so the current is shown, and reported, beyond its upper
    bound. -/
theorem overshoots :
    fineConfig.defect? = none ∧
    fineConfig.current.resolve.channel.calibration.FeedsWithin (-100) 100
      [.value (-13107199), .value 13107200] ∧
    fineCurrent [.value (-13107199), .value 13107200] = .fresh 100.00001 ∧ (100 : Float32) < 100.00001 ∧
    (Engine.report fineConfig.resolve.pack []
      { voltage := .noData, current := fineCurrent [.value (-13107199), .value 13107200]
        cells := [⟨1, .noData, .noData⟩] }).faults.contains ⟨.pack, .overcurrent⟩ = true := by
  refine ⟨by decide +kernel, ?_, by decide +kernel, by decide +kernel, by decide +kernel⟩
  intro raw mem
  simp only [List.mem_cons, Intake.value.injEq, List.not_mem_nil, or_false] at mem
  rcases mem with rfl | rfl <;> decide +kernel

end Config

end PackGuard
