import PackGuard.Proofs.Number.Single

/-!
# Numbers of 64 bits

Averages are taken and energy is counted in 64 bits. Every 32-bit number is one of 64 bits too, and the
way back rounds once more.

* `stored_add`, `stored_sub`, `stored_mul`, `stored_div`: the operations on finite numbers.
* `toRat64_widen`, `stores_narrow`: **between the two widths**.
* `toRat64_ofInt`, `ofInt_add`: **whole numbers up to `2^53` are converted and added as they are**.
* `isNaN64_add`, `isNaN64_div`: what is added to a number, or divides it, and is finite makes no NaN of it.
* `clamp64_mem`: a number is moved into its interval.
* `Within`: a finite number whose size is at most a power of two, and what the operations make of it.
-/

namespace PackGuard.Binary

open Float.Model (Format UnpackedFloat totalExponent)
open Float.Model.UnpackedFloat

/-! ## 1. Values and operations -/

/-- The exact value of a finite 64-bit number. -/
def toRat64 (x : Float) : ℚ := value x.toModel.unpack

theorem canonical_toModel64 (x : Float) : Canonical .binary64 x.toModel.unpack := canonical_unpack _

/-- The value of a 64-bit number fits 64 bits. -/
theorem fits_toRat64 (x : Float) : Fits .binary64 (toRat64 x) := fits_value (by decide) _

/-- A number other than zero is known by its value. -/
theorem eq_of_toRat64 {x y : Float} (hx : x.isFinite = true) (hy : y.isFinite = true)
    (same : toRat64 x = toRat64 y) (nonzero : toRat64 x ≠ 0) : x = y := by
  have unpacked := unpacked_inj (canonical_toModel64 x) (canonical_toModel64 y) hx hy same nonzero
  have bits := (unpack_inj_of_valid x.toModel.valid y.toModel.valid).1 unpacked
  exact Float.toBits_inj.1 (UInt64.toBitVec_inj.1 bits)

section Operations

variable {x y : Float} (hx : x.isFinite = true) (hy : y.isFinite = true)
include hx hy

theorem stored_add : Stored .binary64 (x + y).toModel.unpack (toRat64 x + toRat64 y) :=
  (rounded_add (canonical_toModel64 x) (canonical_toModel64 y) hx hy).stored (by decide)

theorem stored_sub : Stored .binary64 (x - y).toModel.unpack (toRat64 x - toRat64 y) :=
  (rounded_sub (canonical_toModel64 x) (canonical_toModel64 y) hx hy).stored (by decide)

theorem stored_mul : Stored .binary64 (x * y).toModel.unpack (toRat64 x * toRat64 y) :=
  (rounded_mul (canonical_toModel64 x) (canonical_toModel64 y) hx hy).stored (by decide)

theorem stored_div (nonzero : toRat64 y ≠ 0) :
    Stored .binary64 (x / y).toModel.unpack (toRat64 x / toRat64 y) :=
  (rounded_div (canonical_toModel64 x) (canonical_toModel64 y) hx hy nonzero).stored (by decide)

end Operations

/-! ## 2. Between the two widths -/

/-- What 32 bits can hold fits 64 bits. -/
theorem fits_toRat (x : Float32) : Fits .binary64 (toRat x) := by
  have canonical := canonical_toModel x
  have small := abs_toRat_lt x
  unfold toRat at *
  generalize x.toModel.unpack = u at *
  cases u with
  | infinity | notANumber | zero => exact fits_zero
  | finite s m e pos =>
      rw [abs_value_finite] at small
      have most := exponent_le (by decide) (show InFormat .binary32 m e from canonical) small
      have short : m < 2 ^ 24 := canonical.mantissa
      have least : -149 ≤ e := canonical.least
      have fits : Fits .binary64 (m * 2 ^ e) :=
        fits_of_mantissa (short.trans (by decide)) (show -1074 ≤ e by omega)
          (show e + 52 ≤ 1023 by change e + 23 ≤ 127 at most; omega)
      cases s with
      | positive => exact fits
      | negative => exact fits.neg

/-- A number written anew in a format. -/
def anew (spec : Format) : UnpackedFloat → UnpackedFloat
  | .finite s m e _ => UnpackedFloat.round spec s m e
  | u => u

theorem widen_eq (x : Float32) : widen x = .ofModel (.pack (anew .binary64 x.toModel.unpack)) := rfl

theorem narrow_eq (x : Float) : narrow x = .ofModel (.pack (anew .binary32 x.toModel.unpack)) := rfl

/-- What is finite is rounded once by it. -/
theorem rounded_anew {spec : Format} {u : UnpackedFloat} (finite : u.isFinite = true) :
    Rounded spec (value u) (anew spec u) := by
  cases u with
  | infinity | notANumber => cases finite
  | zero s => exact ⟨rfl, trivial, .zero⟩
  | finite s m e pos => exact (correctlyRounded_round pos e s).rounded (by positivity)

/-- **A finite 32-bit number keeps its value in 64 bits.** -/
theorem toRat64_widen {x : Float32} (finite : x.isFinite = true) :
    (widen x).isFinite = true ∧ toRat64 (widen x) = toRat x := by
  rw [widen_eq]
  exact ((rounded_anew finite).stored (by decide)).exact (fits_toRat x)

/-- **A finite 64-bit number is rounded once to 32 bits.** -/
theorem stores_narrow {x : Float} (finite : x.isFinite = true) : Stores (narrow x) (toRat64 x) := by
  rw [narrow_eq]
  exact (rounded_anew finite).stores

/-! ## 3. Whole numbers -/

/-- A whole number of at most 53 digits is converted at once, any greater one as a decimal. -/
theorem ofNat64_eq (n : ℕ) :
    Float.ofNat n =
      if n < 2 ^ 53 then n.toUInt64.toFloat * 1
      else .ofModel (.pack (UnpackedFloat.ofScientific .binary64 n 0)) := by
  show Float.ofScientific n false 0 = _
  unfold Float.ofScientific
  by_cases short : n < 2 ^ 53
  · rw [dif_pos ⟨short, by decide⟩, if_pos short]
    rfl
  · rw [dif_neg (fun h => short h.1), if_neg short]
    rfl

theorem stored_toFloat {n : ℕ} (short : n < 2 ^ 53) :
    Stored .binary64 n.toUInt64.toFloat.toModel.unpack n := by
  have whole : n.toUInt64.toNat = n := by
    rw [Nat.toUInt64_eq, UInt64.toNat_ofNat']
    exact Nat.mod_eq_of_lt (by omega)
  have stored : n.toUInt64.toFloat = .ofModel (.pack (UnpackedFloat.ofNat .binary64 n)) := by
    show Float.ofModel (.pack (UnpackedFloat.ofNat .binary64 n.toUInt64.toNat)) = _
    rw [whole]
  have whole : Rounded .binary64 n (UnpackedFloat.ofNat .binary64 n) :=
    (rounded_normalize n 0 .positive).of_eq (show ((n : ℤ) : ℚ) * 2 ^ (0 : ℤ) = n by simp)
  rw [stored]
  exact whole.stored (by decide)

theorem toRat64_one : toRat64 1 = 1 := by
  have unpacked : (1 : Float).toModel.unpack = .finite .positive 4503599627370496 (-52) (by decide) :=
    rfl
  rw [toRat64, unpacked]
  norm_num [value, signed]

/-- A whole number up to `2 ^ 53` fits 64 bits. -/
theorem fits_natCast {n : ℕ} (le : n ≤ 2 ^ 53) : Fits .binary64 n := by
  rcases le.lt_or_eq with short | rfl
  · have fits : Fits .binary64 (n * 2 ^ (0 : ℤ)) := fits_of_mantissa short (by decide) (by decide)
    rwa [zpow_zero, mul_one] at fits
  · rw [Nat.cast_pow, Nat.cast_ofNat, ← zpow_natCast]
    exact fits_two_zpow (by decide) (by decide)

/-- **Whole numbers are converted correctly.** -/
theorem stored_ofNat (n : ℕ) : Stored .binary64 (Float.ofNat n).toModel.unpack n := by
  rw [ofNat64_eq]
  split
  · next short =>
      obtain ⟨finite, whole⟩ := (stored_toFloat short).exact (fits_natCast short.le)
      exact (stored_mul finite (by decide)).of_eq
        (by rw [show toRat64 n.toUInt64.toFloat = n from whole, toRat64_one, mul_one])
  · next long => exact (rounded_ofScientific (by omega)).stored (by decide)

/-- A whole number up to `2 ^ 53` is converted as it is. -/
theorem toRat64_ofNat {n : ℕ} (le : n ≤ 2 ^ 53) :
    (Float.ofNat n).isFinite = true ∧ toRat64 (.ofNat n) = n :=
  (stored_ofNat n).exact (fits_natCast le)

/-- The opposite of a finite number is finite and has the opposite value. -/
theorem toRat64_neg {x : Float} (finite : x.isFinite = true) :
    (-x).isFinite = true ∧ toRat64 (-x) = -toRat64 x :=
  ((rounded_neg (canonical_toModel64 x) finite).stored (by decide)).exact (fits_toRat64 x).neg

/-- **So is one of any sign.** -/
theorem toRat64_ofInt {n : ℤ} (le : n.natAbs ≤ 2 ^ 53) :
    (Float.ofInt n).isFinite = true ∧ toRat64 (.ofInt n) = n := by
  cases n with
  | ofNat k => exact toRat64_ofNat le
  | negSucc k =>
      obtain ⟨finite, whole⟩ := toRat64_ofNat (n := k + 1) le
      obtain ⟨finite', opposite⟩ := toRat64_neg finite
      exact ⟨finite', opposite.trans (by rw [whole, Int.cast_negSucc])⟩

/-- **Whole numbers are added as they are**, zero being the positive one. -/
theorem ofInt_add {m n : ℤ} (le : m.natAbs + n.natAbs ≤ 2 ^ 53) :
    Float.ofInt m + Float.ofInt n = Float.ofInt (m + n) := by
  obtain ⟨finite, first⟩ := toRat64_ofInt (n := m) (by omega)
  obtain ⟨finite', second⟩ := toRat64_ofInt (n := n) (by omega)
  obtain ⟨finite'', whole⟩ := toRat64_ofInt (n := m + n) (by omega)
  have fits := fits_toRat64 (Float.ofInt (m + n))
  rw [whole, Int.cast_add, ← first, ← second] at fits
  obtain ⟨stored, sum⟩ := (stored_add finite finite').exact fits
  rcases eq_or_ne (m + n) 0 with cancel | remains
  · rcases eq_or_ne m 0 with rfl | nonzero
    · obtain rfl : n = 0 := by omega
      decide +kernel
    · -- the operands cancel, which leaves the positive zero
      have opposite : toRat64 (.ofInt m) + toRat64 (.ofInt n) = 0 := by
        rw [first, second]
        exact_mod_cast cancel
      have size : toRat64 (.ofInt m) ≠ 0 := by
        rw [first]
        exact_mod_cast nonzero
      have cancels : UnpackedFloat.add .binary64 (Float.ofInt m).toModel.unpack
          (Float.ofInt n).toModel.unpack = .zero .positive :=
        add_of_opposite finite finite' opposite size
      have added : Float.ofInt m + Float.ofInt n =
          .ofModel (.pack (UnpackedFloat.add .binary64 (Float.ofInt m).toModel.unpack
            (Float.ofInt n).toModel.unpack)) := rfl
      rw [added, cancels, cancel]
      rfl
  · have same : toRat64 (.ofInt m + .ofInt n) = toRat64 (.ofInt (m + n)) := by
      rw [whole, Int.cast_add, ← first, ← second]
      exact sum
    refine eq_of_toRat64 stored finite'' same ?_
    rw [same, whole]
    exact_mod_cast remains

/-! ## 4. Numbers and NaNs -/

theorem isNaN64_of_isFinite {x : Float} (finite : x.isFinite = true) : x.isNaN = false :=
  isNaN_unpacked_of_isFinite finite

/-- A number and a finite one added are a number. -/
theorem isNaN64_add {x y : Float} (hx : x.isNaN = false) (hy : y.isNaN = false)
    (finite : x.isFinite = true ∨ y.isFinite = true) : (x + y).isNaN = false :=
  isNaN_pack (by decide) (isNaN_unpacked_add hx hy finite)

/-- A number over a finite one other than zero is a number. -/
theorem isNaN64_div {x y : Float} (number : x.isNaN = false) (finite : y.isFinite = true)
    (nonzero : toRat64 y ≠ 0) : (x / y).isNaN = false := by
  refine isNaN_pack (by decide) ?_
  change x.toModel.unpack.isNaN = false at number
  change y.toModel.unpack.isFinite = true at finite
  unfold toRat64 at nonzero
  show (UnpackedFloat.div .binary64 x.toModel.unpack y.toModel.unpack).isNaN = false
  generalize x.toModel.unpack = u at *
  generalize y.toModel.unpack = v at *
  cases v with
  | infinity | notANumber => cases finite
  | zero => exact absurd rfl nonzero
  | finite t n k pos =>
      cases u with
      | notANumber => cases number
      | infinity | zero => rfl
      | finite => exact isNaN_roundWithAccuracy ..

/-! ## 5. Order -/

theorem lt_iff64 {x y : Float} : x < y ↔ x.toModel.unpack.compare y.toModel.unpack = some .lt := by
  change (decide (UnpackedFloat.lt _ _ = true) = true) ↔ _
  simp [UnpackedFloat.lt]

/-- **Finite numbers stand in the order of their values.** -/
theorem lt_iff_toRat64 {x y : Float} (hx : x.isFinite = true) (hy : y.isFinite = true) :
    x < y ↔ toRat64 x < toRat64 y := by
  rw [lt_iff64, compare_eq (canonical_toModel64 x) (canonical_toModel64 y) hx hy, Option.some.injEq,
    compare_lt_iff_lt]
  rfl

/-- A number that is not outside finite bounds is finite. -/
theorem isFinite64_of_not_lt {lo hi x : Float} (low : lo.isFinite = true) (high : hi.isFinite = true)
    (number : x.isNaN = false) (notBelow : ¬ x < lo) (notAbove : ¬ hi < x) : x.isFinite = true := by
  rw [lt_iff64] at notBelow notAbove
  change lo.toModel.unpack.isFinite = true at low
  change hi.toModel.unpack.isFinite = true at high
  change x.toModel.unpack.isNaN = false at number
  change x.toModel.unpack.isFinite = true
  generalize lo.toModel.unpack = l at *
  generalize hi.toModel.unpack = h at *
  generalize x.toModel.unpack = u at *
  cases u with
  | zero | finite => rfl
  | notANumber => cases number
  | infinity s =>
      cases s with
      | positive =>
          cases h with
          | infinity | notANumber => cases high
          | zero | finite => exact absurd rfl notAbove
      | negative =>
          cases l with
          | infinity | notANumber => cases low
          | zero | finite => exact absurd rfl notBelow

/-- **A clamp moves any number into the interval.** -/
theorem clamp64_mem {lo hi x : Float} (low : lo.isFinite = true) (high : hi.isFinite = true)
    (number : x.isNaN = false) (ordered : toRat64 lo ≤ toRat64 hi) :
    (clamp64 lo hi x).isFinite = true ∧ toRat64 lo ≤ toRat64 (clamp64 lo hi x) ∧
      toRat64 (clamp64 lo hi x) ≤ toRat64 hi := by
  unfold clamp64
  split
  · exact ⟨low, le_rfl, ordered⟩
  · next notBelow =>
      split
      · exact ⟨high, ordered, le_rfl⟩
      · next notAbove =>
          have finite := isFinite64_of_not_lt low high number notBelow notAbove
          rw [lt_iff_toRat64 finite low] at notBelow
          rw [lt_iff_toRat64 high finite] at notAbove
          exact ⟨finite, not_lt.1 notBelow, not_lt.1 notAbove⟩

/-! ## 6. Sizes -/

/-- A finite number whose size is at most a power of two. -/
structure Within (k : ℕ) (x : Float) : Prop where
  finite : x.isFinite = true
  le : |toRat64 x| ≤ 2 ^ k

namespace Within

variable {j k : ℕ} {x y : Float}

theorem mono (h : Within j x) (le : j ≤ k) : Within k x :=
  ⟨h.finite, h.le.trans (pow_le_pow_right₀ (by norm_num) le)⟩

/-- An exact result up to a power of two is stored as a number up to it. -/
theorem of_stored {q : ℚ} (h : Stored .binary64 x.toModel.unpack q) (most : k ≤ 1023)
    (le : |q| ≤ 2 ^ k) : Within k x := by
  rw [← zpow_natCast] at le
  obtain ⟨finite, bound⟩ := h.bounded (show -1074 ≤ (k : ℤ) by omega) (by exact_mod_cast most) le
  exact ⟨finite, by rwa [zpow_natCast] at bound⟩

theorem mul (hx : Within j x) (hy : Within k y) (most : j + k ≤ 1023) : Within (j + k) (x * y) := by
  refine of_stored (stored_mul hx.finite hy.finite) most ?_
  rw [abs_mul, pow_add]
  exact mul_le_mul hx.le hy.le (abs_nonneg _) (by positivity)

theorem add (hx : Within k x) (hy : Within k y) (most : k + 1 ≤ 1023) : Within (k + 1) (x + y) := by
  refine of_stored (stored_add hx.finite hy.finite) most ((abs_add_le _ _).trans ?_)
  rw [pow_succ]
  linarith [hx.le, hy.le]

theorem sub (hx : Within k x) (hy : Within k y) (most : k + 1 ≤ 1023) : Within (k + 1) (x - y) := by
  refine of_stored (stored_sub hx.finite hy.finite) most ((abs_sub _ _).trans ?_)
  rw [pow_succ]
  linarith [hx.le, hy.le]

end Within

/-- What was a finite 32-bit number. -/
theorem within_widen {x : Float32} (finite : x.isFinite = true) : Within 128 (widen x) := by
  obtain ⟨wide, same⟩ := toRat64_widen finite
  exact ⟨wide, same ▸ (abs_toRat_lt x).le⟩

end PackGuard.Binary
