import PackGuard.Proofs.Number.Single

/-!
# The middle of two numbers

The middle is computed as half of the sum, so it is rounded twice.

* `half_or_small`: half of a number is exact, unless the number is too small for full precision; and
  there a sum is exact (`writable_sum_small`). So **only one of the two roundings moves anything**.
* `middle_nearest`: no 32-bit number is nearer to the exact middle than the computed one, provided that
  the sum can be stored.
* `middle_mem`, `middle_inside`: it lies between the two numbers, and strictly so if any number does.
* `lt_add_of_near`, `sub_lt_of_near`: a number is moved by what is added to it, if that is not too small
  beside it.
-/

namespace PackGuard.Binary

open Float.Model (Format UnpackedFloat)
open Float.Model.UnpackedFloat

/-! ## 1. Doubles and halves -/

section Scaling

variable {spec : Format} {p : ℚ}

/-- Twice a point of the grid is one, however great. -/
theorem RoundsTo.double (h : RoundsTo spec p p) (pos : 0 < p) : RoundsTo spec (2 * p) (2 * p) := by
  have coarser : grid spec (2 * p) ≤ grid spec p + 1 := by
    refine grid_le (by have := minExponent_le_grid spec p; omega) (by positivity) ?_
    have below : p < 2 ^ (grid spec p + spec.mantissaBits) := lt_of_grid p
    rw [show (spec.mantissaBits : ℤ) + (grid spec p + 1) = 1 + (grid spec p + spec.mantissaBits) by omega,
      zpow_add₀ (by norm_num), zpow_one]
    linarith
  obtain ⟨n, -, written⟩ := h
  have point : 2 * p = n * 2 ^ (grid spec p + 1) := by
    rw [zpow_add₀ (by norm_num), zpow_one]
    linarith
  rw [point] at coarser ⊢
  exact roundsTo_self coarser

/-- **Half of a point of the grid is one**, unless the grid is the finest. -/
theorem RoundsTo.half_or_small (h : RoundsTo spec p p) (pos : 0 < p) :
    RoundsTo spec (p / 2) (p / 2) ∨ p < 2 ^ (spec.minExponent + spec.mantissaBits) := by
  have below : p < 2 ^ (grid spec p + spec.mantissaBits) := lt_of_grid p
  rcases (minExponent_le_grid spec p).eq_or_lt with finest | coarse
  · exact .inr (finest ▸ below)
  · left
    have finer : grid spec (p / 2) ≤ grid spec p - 1 := by
      refine grid_le (by omega) (by positivity) ?_
      rw [show grid spec p + spec.mantissaBits = 1 + (spec.mantissaBits + (grid spec p - 1)) by omega,
        zpow_add₀ (by norm_num), zpow_one] at below
      linarith
    obtain ⟨n, -, written⟩ := h
    have point : p / 2 = n * 2 ^ (grid spec p - 1) := by
      rw [zpow_sub₀ (by norm_num), zpow_one, mul_div_assoc', ← written]
    rw [point] at finer ⊢
    exact roundsTo_self finer

namespace Rounds

theorem double (h : Rounds spec p p) : Rounds spec (2 * p) (2 * p) := by
  rcases lt_trichotomy p 0 with neg | rfl | pos
  · have opposite := (h.neg.roundsTo (by linarith)).double (by linarith)
    simpa using (positive (by linarith) opposite).neg
  · simpa using zero
  · exact positive (by linarith) ((h.roundsTo pos).double pos)

theorem half_or_small (h : Rounds spec p p) :
    Rounds spec (p / 2) (p / 2) ∨ |p| < 2 ^ (spec.minExponent + spec.mantissaBits) := by
  rcases lt_trichotomy p 0 with neg | rfl | pos
  · rw [abs_of_neg neg]
    refine ((h.neg.roundsTo (by linarith)).half_or_small (by linarith)).imp_left fun opposite => ?_
    simpa [neg_div] using (positive (by linarith) opposite).neg
  · exact .inl (by simpa using zero)
  · rw [abs_of_pos pos]
    exact ((h.roundsTo pos).half_or_small pos).imp_left (positive (by linarith))

end Rounds

end Scaling

/-- So many least steps need no rounding. -/
theorem writable_steps {n : ℤ} (short : n.natAbs < 2 ^ 24) : Writable (n * 2 ^ (-149 : ℤ)) := by
  have natural := writable_of_mantissa short (Int.le_refl (-149)) (by norm_num)
  rcases Int.natAbs_eq n with e | e
  · rw [e, Int.cast_natCast]
    exact natural
  · rw [e, Int.cast_neg, Int.cast_natCast, neg_mul]
    exact natural.neg

/-- **A sum that is too small for full precision is exact.** -/
theorem writable_sum_small {x y : Float32} (small : |toRat x + toRat y| < 2 ^ (-125 : ℤ)) :
    Writable (toRat x + toRat y) := by
  obtain ⟨n, hn⟩ := exists_int_toRat x
  obtain ⟨k, hk⟩ := exists_int_toRat y
  have steps : toRat x + toRat y = (n + k : ℤ) * 2 ^ (-149 : ℤ) := by
    rw [hn, hk]
    push_cast
    ring
  have step : (0 : ℚ) < 2 ^ (-149 : ℤ) := by positivity
  have split : (2 : ℚ) ^ (-125 : ℤ) = 2 ^ 24 * 2 ^ (-149 : ℤ) := by
    rw [← zpow_natCast, ← zpow_add₀ (by norm_num)]
    norm_num
  rw [steps, split, abs_mul, abs_of_pos step] at small
  have few : |((n + k : ℤ) : ℚ)| < 2 ^ 24 := lt_of_mul_lt_mul_right small step.le
  rw [steps]
  refine writable_steps ?_
  rw [← Int.cast_abs, Int.abs_eq_natAbs] at few
  exact_mod_cast few

/-! ## 2. The middle -/

theorem toRat_two : (2 : Float32).isFinite = true ∧ toRat 2 = 2 := toRat_ofNat (n := 2) (by norm_num)

section Middle

variable {x y : Float32}

theorem stores_half (hx : x.isFinite = true) : Stores (x / 2) (toRat x / 2) := by
  have divided := stores_div hx toRat_two.1 (by rw [toRat_two.2]; norm_num)
  rwa [toRat_two.2] at divided

/-- Half of a finite number is finite. -/
theorem isFinite_half (hx : x.isFinite = true) : (x / 2).isFinite = true := by
  refine ((stores_half hx).abs_le_of_abs_le (stores_self hx) hx ?_).1
  rw [abs_div, abs_of_pos (two_pos : (0 : ℚ) < 2)]
  linarith [abs_nonneg (toRat x)]

/-- And only of one. -/
theorem isFinite_of_half (finite : (x / 2).isFinite = true) : x.isFinite = true := by
  have quotient := isFinite_of_pack (show 2 ≤ Format.binary32.exponentBits by decide) finite
  change x.toModel.unpack.isFinite = true
  generalize x.toModel.unpack = u at *
  cases u with
  | zero | finite => rfl
  | infinity | notANumber => cases quotient

variable (hx : x.isFinite = true) (hy : y.isFinite = true)
include hx hy

/-- **Of the two roundings of a middle only one moves anything**: either half of the sum is exact, or
    the sum itself. -/
theorem middle_once (finite : (x + y).isFinite = true) :
    toRat (x + y) = 2 * toRat ((x + y) / 2) ∨
      Rounds .binary32 ((toRat x + toRat y) / 2) (toRat ((x + y) / 2)) := by
  have sum := (stores_add hx hy).rounds_toRat finite
  have half := (stores_half finite).rounds_toRat (isFinite_half finite)
  rcases (writable_toRat (x + y)).rounds.half_or_small with kept | small
  · left
    rw [half.unique kept]
    ring
  · right
    change |toRat (x + y)| < 2 ^ (-125 : ℤ) at small
    have least := (writable_two_zpow (k := -125) (by norm_num) (by norm_num)).rounds
    have short : |toRat x + toRat y| < 2 ^ (-125 : ℤ) := by
      by_contra great
      exact absurd (least.mono sum.abs (not_lt.1 great)) (not_le.2 small)
    rw [sum.unique (writable_sum_small short).rounds] at half
    exact half

/-- **The middle is computed correctly**: no number is nearer to the exact middle. -/
theorem middle_nearest (finite : (x + y).isFinite = true) (z : Float32) :
    |toRat ((x + y) / 2) - (toRat x + toRat y) / 2| ≤ |toRat z - (toRat x + toRat y) / 2| := by
  have point := (writable_toRat z).rounds
  rcases middle_once hx hy finite with once | rounds
  · have near := ((stores_add hx hy).rounds_toRat finite).nearest point.double
    have twice (p : ℚ) :
        |2 * p - (toRat x + toRat y)| = 2 * |p - (toRat x + toRat y) / 2| := by
      rw [← abs_of_pos (two_pos : (0 : ℚ) < 2), ← abs_mul, abs_of_pos (two_pos : (0 : ℚ) < 2)]
      congr 1
      ring
    rw [once, twice, twice] at near
    linarith
  · exact rounds.nearest point

/-- **The middle lies between the two numbers.** -/
theorem middle_mem (ordered : toRat x ≤ toRat y) (finite : (x + y).isFinite = true) :
    toRat x ≤ toRat ((x + y) / 2) ∧ toRat ((x + y) / 2) ≤ toRat y := by
  have near := middle_nearest hx hy finite x
  rw [abs_of_nonpos (a := toRat x - _) (by linarith), abs_le] at near
  constructor <;> linarith

/-- **Strictly so, if any number does.** -/
theorem middle_inside {z : Float32} (above : toRat x < toRat z) (below : toRat z < toRat y)
    (finite : (x + y).isFinite = true) :
    toRat x < toRat ((x + y) / 2) ∧ toRat ((x + y) / 2) < toRat y := by
  have room : |toRat z - (toRat x + toRat y) / 2| < (toRat y - toRat x) / 2 :=
    abs_lt.2 ⟨by linarith, by linarith⟩
  have near := abs_lt.1 ((middle_nearest hx hy finite z).trans_lt room)
  constructor <;> linarith

end Middle

/-! ## 3. Steps that count -/

/-- Rounding moves a number by less than a step, unless the step is too small beside it. -/
theorem Rounds.moved_lt {q v : ℚ} {d : Float32} (h : Rounds .binary32 q v) (pos : 0 < toRat d)
    (near : |q| < 2 ^ 23 * toRat d) : |v - q| < toRat d := by
  obtain ⟨m, e, format, -, written⟩ := toRat_of_pos pos
  have positive : 0 < m := by
    rcases Nat.eq_zero_or_pos m with rfl | positive
    · rw [written, Nat.cast_zero, zero_mul] at pos
      exact absurd pos (lt_irrefl _)
    · exact positive
  have least : -149 ≤ Int.log 2 (toRat d) := by
    refine (Int.zpow_le_iff_le_log one_lt_two pos).1 ?_
    rw [written]
    calc ((2 : ℕ) : ℚ) ^ (-149 : ℤ) ≤ 2 ^ e := zpow_le_zpow_right₀ (by norm_num) format.least
      _ ≤ m * 2 ^ e := le_mul_of_one_le_left (by positivity) (by exact_mod_cast positive)
  have low : (2 : ℚ) ^ Int.log 2 (toRat d) ≤ toRat d := by
    exact_mod_cast Int.zpow_log_le_self one_lt_two pos
  have high : toRat d < 2 ^ (Int.log 2 (toRat d) + 1) := by
    exact_mod_cast Int.lt_zpow_succ_log_self one_lt_two (toRat d)
  have small : |q| < 2 ^ ((24 : ℕ) + Int.log 2 (toRat d) : ℤ) := by
    refine near.trans ?_
    rw [show ((24 : ℕ) + Int.log 2 (toRat d) : ℤ) = (23 : ℕ) + (Int.log 2 (toRat d) + 1) by omega,
      zpow_add₀ (by norm_num), zpow_natCast]
    gcongr
  have moved := h.error_le least small
  linarith

section Steps

variable {x d : Float32} (hx : x.isFinite = true) (hd : d.isFinite = true) (pos : 0 < toRat d)
  (near : |toRat x| ≤ 2 ^ 22 * toRat d)
include hx hd pos near

theorem lt_add_of_near (finite : (x + d).isFinite = true) : toRat x < toRat (x + d) := by
  have bounds := abs_le.1 near
  have short : |toRat x + toRat d| < 2 ^ 23 * toRat d := abs_lt.2 ⟨by linarith, by linarith⟩
  have moved := abs_lt.1 (((stores_add hx hd).rounds_toRat finite).moved_lt pos short)
  linarith

theorem sub_lt_of_near (finite : (x - d).isFinite = true) : toRat (x - d) < toRat x := by
  have bounds := abs_le.1 near
  have short : |toRat x - toRat d| < 2 ^ 23 * toRat d := abs_lt.2 ⟨by linarith, by linarith⟩
  have moved := abs_lt.1 (((stores_sub hx hd).rounds_toRat finite).moved_lt pos short)
  linarith

end Steps

end PackGuard.Binary
