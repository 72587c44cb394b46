import PackGuard.Proofs.Track.Freshness

/-!
# How far an average drifts

With the weight one a step can miss the new value, and so lead past the values that came in. What it
misses is a part of the difference, so the next step does not add to it.

* `smooth_one_near`: with the weight one a step misses the new value by `2 ^ -23` of the difference at
  most.
* `smooth_cases`: **a step ends between the average and the new value, or that near to the new value**.
* `Track.average_bounded`: **the average of values from an interval leaves it by `2 ^ -22` of its length
  at most**, after any history.
* `towards_antitone`: **the distance from a value that stays the same never grows**.
-/

namespace PackGuard

open Binary

/-! ## 1. A step -/

/-- **With the weight one a step misses the new value by a small part of the difference.** The
    difference is rounded, and then the sum, to a number that is no farther from the exact sum than the
    new value is. -/
theorem smooth_one_near {a p : Float32} (ha : a.isFinite = true) (hp : p.isFinite = true)
    (finite : (smooth a p 1).isFinite = true) :
    |toRat (smooth a p 1) - toRat p| ≤ |toRat p - toRat a| / 2 ^ 23 := by
  have span := isFinite_of_smooth finite
  obtain ⟨same, value⟩ := smooth_one ha span
  have rounds := (stores_add ha span).rounds_toRat (same ▸ finite)
  have nearest := rounds.nearest (writable_toRat p).rounds
  have missed : |toRat a + toRat (p - a) - toRat p| ≤ |toRat p - toRat a| / 2 ^ 24 := by
    rw [show toRat a + toRat (p - a) - toRat p = toRat (p - a) - (toRat p - toRat a) by ring]
    exact sub_error hp ha span
  rw [abs_sub_comm (toRat p)] at nearest
  rw [value]
  calc |toRat (a + (p - a)) - toRat p|
      ≤ |toRat (a + (p - a)) - (toRat a + toRat (p - a))| + |toRat a + toRat (p - a) - toRat p| :=
        abs_sub_le _ _ _
    _ ≤ |toRat p - toRat a| / 2 ^ 24 + |toRat p - toRat a| / 2 ^ 24 :=
        add_le_add (nearest.trans missed) missed
    _ = |toRat p - toRat a| / 2 ^ 23 := by ring

section Stored

variable {a p w : Float32} (ha : a.isFinite = true) (hp : p.isFinite = true) (weight : IsWeight w)
  (finite : (smooth a p w).isFinite = true)
include ha hp weight finite

/-- **A step that is stored ends between the average and the new value, or near to the new value.** -/
theorem smooth_cases :
    (min (toRat a) (toRat p) ≤ toRat (smooth a p w) ∧
      toRat (smooth a p w) ≤ max (toRat a) (toRat p)) ∨
    |toRat (smooth a p w) - toRat p| ≤ |toRat p - toRat a| / 2 ^ 23 := by
  rcases weight.apart with rfl | below
  · exact .inr (smooth_one_near ha hp finite)
  · have span := isFinite_of_smooth finite
    exact .inl (smooth_between ha hp span weight.finite weight.nonneg below).2

/-- A step does not lead away from the new value. -/
theorem smooth_approaches :
    |toRat (smooth a p w) - toRat p| ≤ |toRat a - toRat p| := by
  rcases smooth_cases ha hp weight finite with ⟨least, most⟩ | near
  · rcases le_total (toRat a) (toRat p) with up | down
    · rw [min_eq_left up] at least
      rw [max_eq_right up] at most
      rw [abs_sub_comm, abs_sub_comm (toRat a), abs_of_nonneg (sub_nonneg.2 most),
        abs_of_nonneg (sub_nonneg.2 up)]
      linarith
    · rw [min_eq_right down] at least
      rw [max_eq_left down] at most
      rw [abs_of_nonneg (sub_nonneg.2 least), abs_of_nonneg (sub_nonneg.2 down)]
      linarith
  · rw [abs_sub_comm (toRat a)]
    exact near.trans (div_le_self (abs_nonneg _) (by norm_num))

end Stored

/-! ## 2. Values from an interval -/

namespace Binary

/-- The greatest finite number. -/
def greatestFinite : Float32 := .ofBits 0x7f7fffff

theorem toRat_greatestFinite : toRat greatestFinite = 16777215 * 2 ^ 104 := by
  rw [toRat_of_unpack (s := .positive) (m := 16777215) (e := 104) (h := by decide) rfl]
  norm_num [signed]

end Binary

/-- A quarter of the range is a moderate size. -/
theorem moderate_of_quarter {x : Float32} (finite : x.isFinite = true)
    (small : |toRat x| ≤ toRat greatestFinite / 4) : Moderate x := by
  refine ⟨finite, small.trans ?_⟩
  rw [toRat_greatestFinite]
  norm_num

/-- A finite number with a value between two bounds. -/
structure Inside (lo hi : ℚ) (x : Float32) : Prop where
  finite : x.isFinite = true
  low : lo ≤ toRat x
  high : toRat x ≤ hi

/-- How far an average may be outside an interval: `2 ^ -22` of its length. -/
def drift (lo hi : ℚ) : ℚ := 2 ^ (-22 : ℤ) * (hi - lo)

theorem Inside.widen {lo hi : ℚ} {x : Float32} (h : Inside lo hi x) :
    Inside (lo - drift lo hi) (hi + drift lo hi) x := by
  have : 0 ≤ drift lo hi := mul_nonneg (by positivity) (by linarith [h.low, h.high])
  exact ⟨h.finite, by linarith [h.low], by linarith [h.high]⟩

/-- **A step from inside the widened interval stays there.** What it misses the new value by is less than
    the drift, for the widened interval is less than twice as long as the interval. -/
theorem Inside.step {lo hi : ℚ} (low : |lo| ≤ toRat greatestFinite / 4)
    (high : |hi| ≤ toRat greatestFinite / 4) {a p w : Float32}
    (ha : Inside (lo - drift lo hi) (hi + drift lo hi) a) (hp : Inside lo hi p)
    (weight : IsWeight w) :
    Inside (lo - drift lo hi) (hi + drift lo hi) (smooth a p w) := by
  obtain ⟨finiteA, lowA, highA⟩ := ha
  obtain ⟨finiteP, lowP, highP⟩ := hp
  have length : 2 ^ 22 * drift lo hi = hi - lo := by
    unfold drift
    rw [zpow_neg, ← mul_assoc]
    norm_num
  have small : |toRat a| ≤ 2 ^ 127 := by
    rw [toRat_greatestFinite, abs_le] at low high
    rw [abs_le]
    constructor <;> norm_num at * <;> linarith
  have moderate : Moderate p := by
    refine moderate_of_quarter finiteP (abs_le.2 ?_)
    rw [abs_le] at low high
    constructor <;> linarith
  have finite := (smooth_moderate finiteA small moderate weight).1
  rcases smooth_cases finiteA finiteP weight finite with ⟨least, most⟩ | near
  · refine ⟨finite, le_trans (le_min lowA (by linarith)) least, most.trans (max_le highA (by linarith))⟩
  · have apart : |toRat p - toRat a| ≤ 2 * (hi - lo) := by
      rw [abs_le]
      constructor <;> linarith
    have missed : |toRat (smooth a p w) - toRat p| ≤ drift lo hi := by
      refine near.trans ?_
      rw [div_le_iff₀ (by positivity)]
      linarith
    obtain ⟨below, above⟩ := abs_le.1 missed
    exact ⟨finite, by linarith, by linarith⟩

theorem toRat_hundred : toRat 100 = 100 := (toRat_ofNat (n := 100) (by norm_num)).2

theorem toRat_nearHundred : toRat (-99.99999) = -(13107199 * 2 ^ (-17 : ℤ)) :=
  toRat_of_unpack (s := .negative) (h := by decide) rfl

namespace Track

/-- **The average of values from an interval.** For any number of samples and any decay, and for any
    interval whose bounds are at most a quarter of the greatest finite number: after any history of raw
    values that are calibrated to values in the interval and of failures, with at least one raw value,
    there is an average; it is finite, and at most `2 ^ -22` of the length of the interval outside it. -/
theorem average_bounded (a : Acquisition) (channel : Channel) (staleAfter : UInt32) {lo hi : ℚ}
    (low : |lo| ≤ toRat greatestFinite / 4) (high : |hi| ≤ toRat greatestFinite / 4)
    {history : List Intake}
    (fed : ∀ raw, .value raw ∈ history → Inside lo hi (a.calibration.toPhysical raw))
    (produced : ∃ raw, .value raw ∈ history) :
    ∃ v, ((new channel a staleAfter).after history).average = some v ∧
      Inside (lo - drift lo hi) (hi + drift lo hi) v := by
  refine exists_average (fun p inside => inside.widen) (fun x p before inside => ?_) rfl fed
    (fun v kept => isNaN_of_isFinite kept.finite) produced
  exact before.step low high inside (isWeight_smoothingWeight a.samples a.decay)

/-- Steps of less than ten microamperes, without any smoothing. -/
def fineSteps : Acquisition where
  calibration := { scale := 7.62939453125e-06 }

/-- Its average is above the greatest value that came in, by less than that. -/
theorem average_fineSteps :
    ((new .packCurrent fineSteps 3).after [.value (-13107199), .value 13107200]).average =
      some 100.00001 ∧
    100 < toRat 100.00001 ∧ toRat 100.00001 ≤ 100 + drift (-100) 100 := by
  have shown : ((new .packCurrent fineSteps 3).after [.value (-13107199), .value 13107200]).average =
      some 100.00001 := by
    decide +kernel
  have first : Inside (-100) 100 (fineSteps.calibration.toPhysical (-13107199)) := by
    rw [show fineSteps.calibration.toPhysical (-13107199) = -99.99999 by decide +kernel]
    refine ⟨by decide, ?_, ?_⟩ <;> rw [toRat_nearHundred] <;> norm_num
  have second : Inside (-100) 100 (fineSteps.calibration.toPhysical 13107200) := by
    rw [show fineSteps.calibration.toPhysical 13107200 = 100 by decide +kernel]
    exact ⟨by decide, by rw [toRat_hundred]; norm_num, toRat_hundred.le⟩
  have fed : ∀ raw, .value raw ∈ [Intake.value (-13107199), .value 13107200] →
      Inside (-100) 100 (fineSteps.calibration.toPhysical raw) := by
    intro raw mem
    simp only [List.mem_cons, Intake.value.injEq, List.not_mem_nil, or_false] at mem
    rcases mem with rfl | rfl
    · exact first
    · exact second
  have high : |(100 : ℚ)| ≤ toRat greatestFinite / 4 := by
    rw [toRat_greatestFinite]
    norm_num
  have low : |(-100 : ℚ)| ≤ toRat greatestFinite / 4 := by rwa [abs_neg]
  obtain ⟨v, average, -, -, most⟩ :=
    average_bounded fineSteps .packCurrent 3 low high fed ⟨13107200, by simp⟩
  rw [shown] at average
  cases average
  refine ⟨shown, ?_, most⟩
  rw [toRat_of_unpack (s := .positive) (m := 13107201) (e := -17) (h := by decide) rfl]
  norm_num [signed]

end Track

/-! ## 3. A value that stays the same -/

/-- The average after so many steps towards one value. -/
def towards (p w : Float32) (n : ℕ) (a : Float32) : Float32 := (fun x => smooth x p w)^[n] a

theorem towards_succ (p w : Float32) (n : ℕ) (a : Float32) :
    towards p w (n + 1) a = smooth (towards p w n a) p w :=
  Function.iterate_succ_apply' _ n a

/-- Towards a moderate value the average stays within twice the range. -/
theorem towards_moderate {a p w : Float32} (ha : a.isFinite = true) (size : |toRat a| ≤ 2 ^ 127)
    (hp : Moderate p) (weight : IsWeight w) (n : ℕ) :
    (towards p w n a).isFinite = true ∧ |toRat (towards p w n a)| ≤ 2 ^ 127 := by
  induction n with
  | zero => exact ⟨ha, size⟩
  | succ n ih =>
      rw [towards_succ]
      exact smooth_moderate ih.1 ih.2 hp weight

/-- **The distance from a value that stays the same never grows.** For any number of samples and any
    decay, and for an average and a value that are at most a quarter of the greatest finite number: after
    any number of steps towards the value the average is finite, and no further step makes it more
    distant. -/
theorem towards_antitone (samples : UInt32) (decay : Option UInt32) {a p : Float32}
    (ha : a.isFinite = true) (hp : p.isFinite = true)
    (sizeA : |toRat a| ≤ toRat greatestFinite / 4) (sizeP : |toRat p| ≤ toRat greatestFinite / 4) :
    (∀ n, (towards p (smoothingWeight samples decay) n a).isFinite = true) ∧
    Antitone fun n => |toRat (towards p (smoothingWeight samples decay) n a) - toRat p| := by
  have weight := isWeight_smoothingWeight samples decay
  have size : |toRat a| ≤ 2 ^ 127 := (moderate_of_quarter ha sizeA).small.trans (by norm_num)
  have kept (n : ℕ) : (towards p (smoothingWeight samples decay) n a).isFinite = true :=
    (towards_moderate ha size (moderate_of_quarter hp sizeP) weight n).1
  refine ⟨kept, antitone_nat_of_succ_le fun n => ?_⟩
  have stored := kept (n + 1)
  rw [towards_succ] at stored ⊢
  exact smooth_approaches (kept n) hp weight stored

/-- The first step misses its value, the second one does not, and neither is a step away. -/
theorem towards_hundred :
    towards 100 (smoothingWeight 1 none) 1 (-99.99999) = 100.00001 ∧
    towards 100 (smoothingWeight 1 none) 2 (-99.99999) = 100 ∧
    Antitone fun n => |toRat (towards 100 (smoothingWeight 1 none) n (-99.99999)) - toRat 100| := by
  have small : |toRat (-99.99999)| ≤ toRat greatestFinite / 4 := by
    rw [toRat_nearHundred, toRat_greatestFinite]
    norm_num
  have small' : |toRat 100| ≤ toRat greatestFinite / 4 := by
    rw [toRat_hundred, toRat_greatestFinite]
    norm_num
  refine ⟨by decide +kernel, by decide +kernel, ?_⟩
  exact (towards_antitone 1 none (by decide) (by decide) small small').2

end PackGuard
