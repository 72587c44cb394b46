import PackGuard.Proofs.Number.Arithmetic

/-!
# What a format stores

A rounded result is packed, and what a reader finds is either that result or, if it is too great for the
format, an infinity. None of this depends on the width.

* `Fits`: the numbers that a format can hold.
* `Stored`: what is found of an exact result. `Rounded.stored`: **it is found of whatever is rounded
  correctly**.
* `Stored.mem`: **bounds that fit on the exact result are bounds on what is found**; `Stored.exact`: a
  result that fits is found as it is.
* `add_of_opposite`: a sum that cancels is the positive zero.
-/

namespace PackGuard.Binary

open Float.Model (Format UnpackedFloat)
open Float.Model.UnpackedFloat

variable {spec : Format}

/-! ## 1. What a format can hold -/

/-- **A number that a format can hold**: rounding leaves it alone, and it is not too great. -/
structure Fits (spec : Format) (x : ℚ) : Prop where
  rounds : Rounds spec x x
  small : |x| < 2 ^ (spec.exponentBias + 1)

theorem Fits.neg {x : ℚ} (h : Fits spec x) : Fits spec (-x) :=
  ⟨h.rounds.neg, by rw [abs_neg]; exact h.small⟩

theorem fits_zero : Fits spec 0 := ⟨.zero, by rw [abs_zero]; positivity⟩

/-- A mantissa that is not too long, with an exponent in the range. -/
theorem fits_of_mantissa {n : ℕ} {k : ℤ} (short : n < 2 ^ spec.mantissaBits)
    (least : spec.minExponent ≤ k)
    (most : k + spec.mantissaBitsWithoutImplicit ≤ spec.exponentBias) : Fits spec (n * 2 ^ k) := by
  rcases Nat.eq_zero_or_pos n with rfl | pos
  · simpa using fits_zero
  · refine ⟨.positive (by positivity) (roundsTo_of_mantissa short least pos), ?_⟩
    rw [abs_of_pos (by positivity)]
    exact lt_of_exponent_le short most

theorem fits_two_zpow {k : ℤ} (least : spec.minExponent ≤ k) (most : k ≤ spec.exponentBias) :
    Fits spec (2 ^ k) := by
  refine ⟨.positive (by positivity) (roundsTo_two_zpow least), ?_⟩
  rw [abs_of_pos (by positivity), ← zpow_natCast]
  exact zpow_lt_zpow_right₀ (by norm_num) (by push_cast; omega)

/-- The value of a packed number fits. -/
theorem fits_value (wide : 1 ≤ spec.exponentBias) (b : BitVec spec.numBits) :
    Fits spec (value (unpack spec b)) := by
  refine ⟨?_, abs_value_unpack_lt wide b⟩
  have canonical := canonical_unpack b
  generalize unpack spec b = u at *
  cases u with
  | infinity | notANumber => exact .zero
  | zero s => exact (rounded_self canonical rfl).rounds
  | finite s m e pos => exact (rounded_self canonical rfl).rounds

/-! ## 2. What is found -/

/-- **What is found of an exact result**: the number that it is rounded to, or an infinity if that is
    too great. -/
inductive Stored (spec : Format) (u : UnpackedFloat) (x : ℚ) : Prop
  | finite (finite : u.isFinite = true) (rounds : Rounds spec x (value u))
  | infinite {v : ℚ} (infinite : u.isInf = true) (rounds : Rounds spec x v)
      (great : 2 ^ (spec.exponentBias + 1) ≤ |v|)

/-- **Whatever is rounded correctly is found again.** -/
theorem Rounded.stored {u : UnpackedFloat} {x : ℚ} (wide : 1 ≤ spec.exponentBias)
    (h : Rounded spec x u) : Stored spec (unpack spec (pack spec u)) x := by
  by_cases small : |value u| < 2 ^ (spec.exponentBias + 1)
  · rw [unpack_pack wide h.canonical h.finite small]
    exact .finite h.finite h.rounds
  · have great := not_lt.1 small
    exact .infinite (unpack_pack_great h.canonical h.finite great) h.rounds great

namespace Stored

variable {u : UnpackedFloat} {x a b : ℚ}

theorem of_eq {y : ℚ} (h : Stored spec u x) (e : x = y) : Stored spec u y := e ▸ h

theorem rounds_value (h : Stored spec u x) (finite : u.isFinite = true) :
    Rounds spec x (value u) := by
  cases h with
  | finite _ rounds => exact rounds
  | infinite infinite =>
      cases u with
      | infinity => cases finite
      | notANumber | zero | finite => cases infinite

/-- What is found is a number. -/
theorem isNaN (h : Stored spec u x) : u.isNaN = false := by
  cases u with
  | infinity | zero | finite => rfl
  | notANumber =>
      cases h with
      | finite finite => cases finite
      | infinite infinite => cases infinite

/-- **Bounds that fit on the exact result are bounds on what is found.** -/
theorem mem (h : Stored spec u x) (low : Fits spec a) (high : Fits spec b) (le : a ≤ x)
    (ge : x ≤ b) : u.isFinite = true ∧ a ≤ value u ∧ value u ≤ b := by
  cases h with
  | finite finite rounds => exact ⟨finite, low.rounds.mono rounds le, rounds.mono high.rounds ge⟩
  | infinite _ rounds great =>
      have above := low.rounds.mono rounds le
      have below := rounds.mono high.rounds ge
      have small := abs_lt.2
        ⟨(abs_lt.1 low.small).1.trans_le above, below.trans_lt (abs_lt.1 high.small).2⟩
      exact absurd great (not_le.2 small)

/-- A result that fits is found as it is. -/
theorem exact (h : Stored spec u x) (fits : Fits spec x) : u.isFinite = true ∧ value u = x := by
  obtain ⟨finite, above, below⟩ := h.mem fits fits le_rfl le_rfl
  exact ⟨finite, le_antisymm below above⟩

/-- What is at most a power of two in size stays so. -/
theorem bounded (h : Stored spec u x) {k : ℤ} (least : spec.minExponent ≤ k)
    (most : k ≤ spec.exponentBias) (le : |x| ≤ 2 ^ k) : u.isFinite = true ∧ |value u| ≤ 2 ^ k := by
  have fits := fits_two_zpow least most
  obtain ⟨above, below⟩ := abs_le.1 le
  obtain ⟨finite, low, high⟩ := h.mem fits.neg fits above below
  exact ⟨finite, abs_le.2 ⟨low, high⟩⟩

end Stored

/-! ## 3. Sums that cancel -/

/-- **Opposite numbers add up to the positive zero.** -/
theorem add_of_opposite {u v : UnpackedFloat} (finite : u.isFinite = true)
    (finite' : v.isFinite = true) (opposite : value u + value v = 0) (nonzero : value u ≠ 0) :
    UnpackedFloat.add spec u v = .zero .positive := by
  cases u with
  | infinity | notANumber => cases finite
  | zero => exact absurd rfl nonzero
  | finite s m e pos =>
      cases v with
      | infinity | notANumber => cases finite'
      | zero => exact absurd (by rw [← opposite]; exact (add_zero _).symm) nonzero
      | finite t n k pos' =>
          have first := signed_decreaseExponent s m (min_le_left e k)
          have second := signed_decreaseExponent t n (min_le_right e k)
          have cancel : s.apply (decreaseExponent m e (min e k)).1 +
              t.apply (decreaseExponent n k (min e k)).1 = 0 := by
            change signed s _ + signed t _ = 0 at opposite
            rw [← first, ← second, ← add_mul, mul_eq_zero] at opposite
            exact_mod_cast opposite.resolve_right (by positivity)
          show UnpackedFloat.normalize spec (s.apply (decreaseExponent m e (min e k)).1 +
            t.apply (decreaseExponent n k (min e k)).1) (min e k) .positive = _
          rw [cancel]
          rfl

end PackGuard.Binary
