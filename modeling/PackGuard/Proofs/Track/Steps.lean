import PackGuard.Proofs.Track.Smoothing

/-!
# One step of the average

The average moves towards a new value by a part of their difference: three operations, and each of
them rounds.

* `Rounds.part_le`: a part that is clearly less than the whole stays so when both are rounded.
* `smooth_between`: **with a weight below one a step ends between the average and the new value**, as
  long as their difference can be stored at all.
* `smooth_one`: with the weight one it ends at the sum of the average and the rounded difference, which
  is close to the new value but not always at it.
-/

namespace PackGuard

open Binary
open Float.Model (Format UnpackedFloat)

namespace Binary

/-! ## 1. A part of a difference -/

/-- **A part that is clearly less than the whole stays so when both are rounded.** The difference is
    one that is written out as long as it is too small for full precision. -/
theorem Rounds.part_le {d d' w x : ℚ} (point : d < 2 ^ (-126 : ℤ) → Writable d) (nonneg : 0 ≤ d)
    (whole : Rounds .binary32 d d') (most : w ≤ 1023 / 1024)
    (part : Rounds .binary32 (d' * w) x) : x ≤ d := by
  rcases lt_or_ge d (2 ^ (-126 : ℤ)) with small | normal
  · -- nothing of the difference is lost
    have kept := whole.unique (point small).rounds
    rw [kept] at part
    exact part.mono (point small).rounds (mul_le_of_le_one_right nonneg (by linarith))
  have pos : 0 < d := lt_of_lt_of_le (by positivity) normal
  have nonneg' : 0 ≤ d' := (whole.roundsTo pos).nonneg
  rcases le_or_gt (d' * w) (2 ^ (-126 : ℤ)) with tiny | noticeable
  · exact (part.mono (writable_two_zpow (by norm_num) (by norm_num)).rounds tiny).trans normal
  · have first := (abs_le.1 ((whole.roundsTo pos).relative normal)).2
    have second := (abs_le.1 ((part.roundsTo (lt_trans (by positivity) noticeable)).relative noticeable.le)).2
    have less : d' * w ≤ d' * (1023 / 1024) := mul_le_mul_of_nonneg_left most nonneg'
    have digits : (2 : ℚ) ^ Format.binary32.mantissaBits = 16777216 := by
      show (2 : ℚ) ^ 24 = 16777216
      norm_num
    rw [digits] at first second
    linarith

end Binary

/-! ## 2. A step between finite numbers -/

section Steps

variable {a p w : Float32} (ha : a.isFinite = true) (hp : p.isFinite = true)
  (span : (p - a).isFinite = true)
include ha hp span

/-- **With a weight below one a step ends between the average and the new value.** -/
theorem smooth_between (hw : w.isFinite = true) (least : 0 ≤ toRat w) (most : toRat w ≤ 1023 / 1024) :
    (smooth a p w).isFinite = true ∧ min (toRat a) (toRat p) ≤ toRat (smooth a p w) ∧
      toRat (smooth a p w) ≤ max (toRat a) (toRat p) := by
  have whole := (stores_sub hp ha).rounds_toRat span
  have product := stores_mul span hw
  have less : |toRat (p - a) * toRat w| ≤ |toRat (p - a)| := by
    rw [abs_mul, abs_of_nonneg least]
    exact mul_le_of_le_one_right (abs_nonneg _) (by linarith)
  have finite := (product.abs_le_of_abs_le (stores_self span) span less).1
  have part := product.rounds_toRat finite
  have sum := stores_add ha finite
  rcases le_total (toRat a) (toRat p) with up | down
  · have nonneg : 0 ≤ toRat (p - a) := Rounds.zero.mono whole (sub_nonneg.2 up)
    have least' := Rounds.zero.mono part (mul_nonneg nonneg least)
    have most' := Rounds.part_le (writable_sub p a (sub_nonneg.2 up)) (sub_nonneg.2 up) whole most part
    rw [min_eq_left up, max_eq_right up]
    exact sum.mem (writable_toRat a) (writable_toRat p) (by linarith) (by linarith)
  · have nonpos : toRat (p - a) ≤ 0 := whole.mono .zero (sub_nonpos.2 down)
    have least' := part.mono .zero (mul_nonpos_of_nonpos_of_nonneg nonpos least)
    have whole' := whole.neg
    have part' := part.neg
    rw [neg_sub] at whole'
    rw [← neg_mul] at part'
    have most' := Rounds.part_le (writable_sub a p (sub_nonneg.2 down)) (sub_nonneg.2 down) whole' most
      part'
    rw [min_eq_right down, max_eq_left down]
    exact sum.mem (writable_toRat p) (writable_toRat a) (by linarith) (by linarith)

end Steps

/-- **With the weight one a step ends at the sum of the average and the rounded difference.** -/
theorem smooth_one {a p : Float32} (ha : a.isFinite = true) (span : (p - a).isFinite = true) :
    (smooth a p 1).isFinite = (a + (p - a)).isFinite ∧
      toRat (smooth a p 1) = toRat (a + (p - a)) := by
  obtain ⟨finite, same⟩ := ((stores_mul span (y := 1) (by decide)).of_eq
    (by rw [toRat_one, mul_one])).exact (writable_toRat (p - a))
  exact ((stores_add ha finite).of_eq (by rw [same])).same (stores_add ha span)

/-- A number of at most half the range of steps from zero, by which nothing can be led out of it. -/
structure Moderate (x : Float32) : Prop where
  finite : x.isFinite = true
  small : |toRat x| ≤ 2 ^ 126

/-- **Moderate values keep an average within twice their range**, with any weight. -/
theorem smooth_moderate {a p w : Float32} (ha : a.isFinite = true) (size : |toRat a| ≤ 2 ^ 127)
    (hp : Moderate p) (weight : IsWeight w) :
    (smooth a p w).isFinite = true ∧ |toRat (smooth a p w)| ≤ 2 ^ 127 := by
  obtain ⟨lowA, highA⟩ := abs_le.1 size
  obtain ⟨lowP, highP⟩ := abs_le.1 hp.small
  have bound : Writable (3 * 2 ^ 126) := by
    have w := writable_of_mantissa (n := 3 * 2 ^ 22) (k := 104) (by norm_num) (by norm_num) le_rfl
    norm_num at w ⊢
    exact w
  have top : Writable (2 ^ 127) := by
    exact_mod_cast writable_two_zpow (k := 127) (by norm_num) le_rfl
  obtain ⟨span, -, -⟩ := (stores_sub hp.finite ha).mem bound.neg bound (by linarith) (by linarith)
  rcases weight.apart with rfl | below
  · have moved := ((stores_sub hp.finite ha).rounds_toRat span).error_le (k := 104) (by decide) (by
      show |toRat p - toRat a| < 2 ^ ((24 : ℤ) + 104)
      rw [abs_lt]
      constructor <;> norm_num <;> linarith)
    obtain ⟨low, high⟩ := abs_le.1 moved
    obtain ⟨finite, least, most⟩ := (stores_add ha span).mem top.neg top
      (by norm_num at *; linarith) (by norm_num at *; linarith)
    obtain ⟨same, value⟩ := smooth_one ha span
    rw [same, value]
    exact ⟨finite, abs_le.2 ⟨least, most⟩⟩
  · obtain ⟨finite, least, most⟩ := smooth_between ha hp.finite span weight.finite weight.nonneg below
    refine ⟨finite, abs_le.2 ⟨le_trans (le_min lowA ?_) least, most.trans (max_le highA ?_)⟩⟩ <;>
      linarith

/-! ## 3. A step that is lost -/

/-- **Where the difference cannot be stored, nothing finite comes out.** -/
theorem isFinite_of_smooth {a p w : Float32} (finite : (smooth a p w).isFinite = true) :
    (p - a).isFinite = true :=
  (isFinite_of_mul (isFinite_of_add finite).2).1

/-- From a finite average a step gives a number. -/
theorem isNaN_smooth {a p w : Float32} (finite : a.isFinite = true) (number : p.isNaN = false)
    (hw : w.isFinite = true) (positive : 0 < w) : (smooth a p w).isNaN = false := by
  have difference := isNaN_sub_of_finite number finite
  have part : ((p - a) * w).isNaN = false := by
    rw [product_comm]
    exact isNaN_mul hw positive difference
  exact isNaN_add (isNaN_of_isFinite finite) part (.inl finite)

/-- What takes an infinity away: one of the other sign, or no number at all. -/
def Cancels (s : UnpackedFloat.Sign) (u : UnpackedFloat) : Prop := u = .infinity (-s) ∨ u = .notANumber

section Cancels

variable {s : UnpackedFloat.Sign} {u : UnpackedFloat}

theorem Cancels.pack (h : Cancels s u) :
    Cancels s (UnpackedFloat.unpack .binary32 (UnpackedFloat.pack .binary32 u)) := by
  rcases h with rfl | rfl
  · exact .inl (unpack_pack_infinity (-s))
  · exact .inr (unpack_pack_notANumber (by decide))

theorem cancels_sub (number : u.isNaN = false) : Cancels s (UnpackedFloat.sub .binary32 u (.infinity s)) := by
  cases u with
  | notANumber => cases number
  | zero | finite => exact .inl rfl
  | infinity t => cases s <;> cases t <;> first | exact .inl rfl | exact .inr rfl

theorem Cancels.mul (h : Cancels s u) {m : ℕ} {e : ℤ} {hm : 0 < m} :
    Cancels s (UnpackedFloat.mul .binary32 u (.finite .positive m e hm)) := by
  rcases h with rfl | rfl
  · cases s <;> exact .inl rfl
  · exact .inr rfl

theorem Cancels.add (h : Cancels s u) : UnpackedFloat.add .binary32 (.infinity s) u = .notANumber := by
  rcases h with rfl | rfl
  · cases s <;> rfl
  · rfl

end Cancels

/-- **From an infinite average it gives none**: the part of the difference takes the infinity away. -/
theorem isNaN_smooth_of_isInf {a p w : Float32} (lost : a.isInf = true) (number : p.isNaN = false)
    (finite : w.isFinite = true) (positive : 0 < w) : (smooth a p w).isNaN = true := by
  obtain ⟨s, infinite⟩ : ∃ s, a.toModel.unpack = .infinity s := by
    change a.toModel.unpack.isInf = true at lost
    generalize a.toModel.unpack = u at *
    cases u with
    | infinity s => exact ⟨s, rfl⟩
    | notANumber | zero | finite => cases lost
  obtain ⟨m, e, hm, weight⟩ := unpack_of_pos finite positive
  have difference : Cancels s (p - a).toModel.unpack := by
    refine Cancels.pack ?_
    rw [infinite]
    exact cancels_sub number
  have part : Cancels s ((p - a) * w).toModel.unpack := by
    refine Cancels.pack ?_
    rw [weight]
    exact difference.mul
  have sum : UnpackedFloat.add .binary32 a.toModel.unpack ((p - a) * w).toModel.unpack =
      .notANumber := by
    rw [infinite]
    exact part.add
  show (UnpackedFloat.unpack _ (UnpackedFloat.pack _ (UnpackedFloat.add _ _ _))).isNaN = true
  rw [sum, unpack_pack_notANumber (by decide)]
  rfl

end PackGuard
