import PackGuard.Calibration
import PackGuard.Proofs.Config.Table
import PackGuard.Proofs.Number.Single

/-!
# Raw counts of physical values

A physical value becomes the count nearest to what the calibration makes of it, and only if there is
such a count. The quotient is a 32-bit number, and so is the whole number nearest to it; **the greatest
count is not**. So the test of the range compares with the next 32-bit number, `2 ^ 31`.

* `NearestAway`: the nearest whole number, a half going away from zero. `nearestOf_eq_some_iff`: **what is
  computed is this number**, and `writable_nearestAway`: it needs no rounding.
* `Calibration.toRaw_eq_some_iff`: **every answer is the nearest count, but for `2 ^ 31`**, which is
  answered with the count below.
* `Calibration.toRaw_beyond_greatest`: this happens.
-/

namespace PackGuard

namespace Binary

open Float.Model (UnpackedFloat)
open Float.Model.UnpackedFloat

/-! ## 1. The nearest whole number -/

/-- **The whole number nearest to a value, a half going away from zero.** -/
structure NearestAway (x : ℚ) (n : ℤ) : Prop where
  near : |x - n| ≤ 1 / 2
  away : |x - n| = 1 / 2 → |x| < |(n : ℚ)|

theorem NearestAway.neg {x : ℚ} {n : ℤ} (h : NearestAway x n) : NearestAway (-x) (-n) := by
  have opposite : -x - ((-n : ℤ) : ℚ) = -(x - n) := by
    push_cast
    ring
  constructor
  · rw [opposite, abs_neg]
    exact h.near
  · rw [opposite, abs_neg, abs_neg, Int.cast_neg, abs_neg]
    exact h.away

/-- A whole number is its own. -/
theorem nearestAway_self (n : ℤ) : NearestAway n n where
  near := by rw [sub_self, abs_zero]; norm_num
  away half := by rw [sub_self, abs_zero] at half; norm_num at half

/-- Of two whole numbers only one is the nearest. -/
theorem NearestAway.le {x : ℚ} {m n : ℤ} (hm : NearestAway x m) (hn : NearestAway x n) : m ≤ n := by
  by_contra above
  have next : (n : ℚ) + 1 ≤ m := by exact_mod_cast not_le.1 above
  have lower := abs_le.1 hm.near
  have upper := abs_le.1 hn.near
  -- the value lies halfway between the two, and both would have to be farther from zero
  have half : x = n + 1 / 2 := by linarith
  have same : (m : ℚ) = n + 1 := by linarith
  have below : |x| < |(n : ℚ)| := hn.away (by rw [half, add_sub_cancel_left]; norm_num)
  have beyond : |x| < |(m : ℚ)| := hm.away (by rw [half, same]; norm_num)
  rw [half] at below beyond
  rw [same] at beyond
  rcases le_or_gt 0 n with nonneg | negative
  · have nonneg' : (0 : ℚ) ≤ n := by exact_mod_cast nonneg
    rw [abs_of_nonneg nonneg', abs_of_nonneg (by linarith)] at below
    linarith
  · have negative' : (n : ℚ) + 1 ≤ 0 := by exact_mod_cast negative
    rw [abs_of_nonpos negative', abs_of_nonpos (by linarith)] at beyond
    linarith

theorem NearestAway.unique {x : ℚ} {m n : ℤ} (hm : NearestAway x m) (hn : NearestAway x n) : m = n :=
  le_antisymm (hm.le hn) (hn.le hm)

/-- What is computed of a magnitude. -/
theorem nearestAway_nearestNat (m : ℕ) (e : ℤ) :
    NearestAway (m * 2 ^ e) (nearestNat m e : ℕ) := by
  cases e with
  | ofNat k =>
      have whole : (m : ℚ) * 2 ^ (Int.ofNat k) = ((m * 2 ^ k : ℕ) : ℤ) := by
        rw [Int.ofNat_eq_natCast, zpow_natCast]
        push_cast
        rfl
      rw [whole]
      exact nearestAway_self _
  | negSucc k =>
      have parts : nearestNat m (.negSucc k) = (m + 2 ^ k) / (2 * 2 ^ k) := by
        rw [← pow_succ']
        rfl
      have step : (0 : ℚ) < 2 * 2 ^ k := by positivity
      have value : (m : ℚ) * 2 ^ (Int.negSucc k) = m / (2 * 2 ^ k) := by
        rw [zpow_negSucc, pow_succ', div_eq_mul_inv]
      have half : (m + 2 ^ k : ℚ) / (2 * 2 ^ k) = m / (2 * 2 ^ k) + 1 / 2 := by
        field_simp
      have low : (nearestNat m (.negSucc k) : ℚ) ≤ m / (2 * 2 ^ k) + 1 / 2 := by
        rw [← half, le_div_iff₀ step, parts]
        exact_mod_cast Nat.div_mul_le_self ..
      have high : (m / (2 * 2 ^ k) + 1 / 2 : ℚ) < nearestNat m (.negSucc k) + 1 := by
        rw [← half, div_lt_iff₀' step, parts]
        exact_mod_cast Nat.lt_mul_div_succ _ (by positivity)
      have nonneg : (0 : ℚ) ≤ m / (2 * 2 ^ k) := by positivity
      rw [value]
      constructor
      · rw [Int.cast_natCast, abs_le]
        constructor <;> linarith
      · -- only a half below the whole number is that far away
        rw [Int.cast_natCast, Nat.abs_cast, abs_of_nonneg nonneg]
        intro far
        rcases abs_eq (by norm_num) |>.1 far with above | below <;> linarith

/-- **The whole number that is computed of a number is the nearest one**, and there is one if the number
    is finite. -/
theorem nearestOf_eq_some_iff {u : UnpackedFloat} {n : ℤ} :
    nearestOf u = some n ↔ u.isFinite = true ∧ NearestAway (value u) n := by
  have computed (finite : u.isFinite = true) : ∃ k, nearestOf u = some k ∧ NearestAway (value u) k := by
    cases u with
    | infinity | notANumber => cases finite
    | zero s => exact ⟨0, rfl, nearestAway_self 0⟩
    | finite s m e pos =>
        cases s with
        | positive => exact ⟨_, rfl, nearestAway_nearestNat m e⟩
        | negative => exact ⟨_, rfl, (nearestAway_nearestNat m e).neg⟩
  constructor
  · intro found
    have finite : u.isFinite = true := by
      cases u with
      | infinity | notANumber => cases found
      | zero | finite => rfl
    obtain ⟨k, found', near⟩ := computed finite
    rw [found, Option.some.injEq] at found'
    exact ⟨finite, found' ▸ near⟩
  · rintro ⟨finite, near⟩
    obtain ⟨k, found, near'⟩ := computed finite
    rw [found, near'.unique near]

/-- The whole number nearest to a mantissa with an exponent is no longer than the mantissa. -/
theorem writable_nearestNat {m : ℕ} {e : ℤ} (short : m < 2 ^ 24) (most : e ≤ 104) :
    Writable (nearestNat m e) := by
  cases e with
  | ofNat k =>
      have writable : Writable (m * 2 ^ (k : ℤ)) :=
        writable_of_mantissa short (by omega) (by simpa using most)
      rw [zpow_natCast] at writable
      exact_mod_cast writable
  | negSucc k =>
      refine writable_natCast (lt_of_le_of_lt ?_ short)
      show (m + 2 ^ k) / 2 ^ (k + 1) ≤ m
      have step : 1 ≤ 2 ^ k := Nat.one_le_two_pow
      have sum : m + 2 ^ k < 2 ^ (k + 1) * (m + 1) := by
        rw [pow_succ]
        nlinarith
      exact Nat.lt_succ_iff.1 (Nat.div_lt_of_lt_mul sum)

/-- **The whole number nearest to a 32-bit number is one of 32 bits.** -/
theorem writable_nearestAway {x : Float32} {n : ℤ} (near : NearestAway (toRat x) n) : Writable n := by
  have canonical := canonical_toModel x
  have small := abs_toRat_lt x
  unfold toRat at *
  generalize x.toModel.unpack = u at *
  cases u with
  | infinity | notANumber | zero =>
      rw [near.unique (nearestAway_self 0)]
      exact writable_zero
  | finite s m e pos =>
      rw [near.unique (nearestOf_eq_some_iff.1 rfl).2]
      rw [abs_value_finite] at small
      have fits := exponent_le (by decide) (show InFormat .binary32 m e from canonical) small
      have magnitude : Writable (nearestNat m e) :=
        writable_nearestNat canonical.mantissa (by change e + 23 ≤ 127 at fits; omega)
      cases s with
      | positive => exact magnitude
      | negative =>
          show Writable ((-(nearestNat m e : ℤ) : ℤ) : ℚ)
          rw [Int.cast_neg, Int.cast_natCast]
          exact magnitude.neg

end Binary

/-! ## 2. Counts -/

namespace Calibration

open Binary

/-- **Every answer is the nearest count, but for one.** There is an answer if the scale can be divided
    by, the quotient is finite, and the whole number `q` nearest to it, a half going away from zero, is a
    count or the first number beyond the counts. The answer is `q` itself, but the greatest count in the
    latter case. -/
theorem toRaw_eq_some_iff (c : Calibration) (physical : Float32) (r : ℤ) :
    c.toRaw physical = some r ↔
      UsableScale c.scale ∧ ((physical - c.offset) / c.scale).isFinite = true ∧
        ∃ q : ℤ, NearestAway (toRat ((physical - c.offset) / c.scale)) q ∧ Writable q ∧
          (leastRaw ≤ q ∧ q ≤ greatestRaw ∧ r = q ∨ q = greatestRaw + 1 ∧ r = greatestRaw) := by
  have usable : c.invertible = true ↔ UsableScale c.scale := by
    simp [invertible, UsableScale]
  unfold toRaw
  constructor
  · intro answer
    split at answer
    · next invertible =>
        obtain ⟨q, found, kept⟩ := Option.bind_eq_some_iff.1 answer
        obtain ⟨finite, near⟩ := nearestOf_eq_some_iff.1 found
        refine ⟨usable.1 invertible, finite, q, near, writable_nearestAway near, ?_⟩
        split at kept
        · next range =>
            cases kept
            rcases range.2.lt_or_eq with inside | beyond
            · have most : q ≤ greatestRaw := Int.lt_add_one_iff.1 inside
              exact .inl ⟨range.1, most, min_eq_left most⟩
            · exact .inr ⟨beyond, min_eq_right (by omega)⟩
        · cases kept
    · cases answer
  · rintro ⟨scale, finite, q, near, -, answer⟩
    have found : nearestInt? ((physical - c.offset) / c.scale) = some q :=
      nearestOf_eq_some_iff.2 ⟨finite, near⟩
    rw [if_pos (usable.2 scale), found, Option.bind_some]
    rcases answer with ⟨least, most, rfl⟩ | ⟨rfl, rfl⟩
    · rw [if_pos ⟨least, by omega⟩, min_eq_left most]
    · rw [if_pos (by decide)]
      rfl

/-- **A count that is not the nearest whole number**: of `2 ^ 31` counts the greatest count is made, and
    the nearest whole number is beyond all counts. -/
theorem toRaw_beyond_greatest :
    (⟨1, 0⟩ : Calibration).toRaw 2147483648 = some greatestRaw ∧
      NearestAway (toRat ((2147483648 - 0) / 1)) (greatestRaw + 1) := by
  refine ⟨by decide +kernel, (nearestOf_eq_some_iff.1 ?_).2⟩
  decide +kernel

end Calibration

end PackGuard
