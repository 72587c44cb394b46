import Mathlib

/-!
# Rounding

The result of an operation is the exact one, rounded once. Exact results are positive rational numbers
here, and signs are put on afterwards. Around each of them a format has a grid of equal steps, finer
towards zero until the least exponent is reached; **a number is rounded to the nearest point of the
grid, and from the middle between two of them to the even one**.

* `Nearest`: the nearest whole number, by that rule. `Nearest.mono`: the rule respects order.
* `nearest_of_marks`: a mantissa with a round bit and a sticky bit knows enough of an exact number to
  find it.
* `RoundsTo`: what a number is rounded to. `RoundsTo.mono`: **rounding respects order**.
* `RoundsTo.error`, `RoundsTo.relative`: a number is moved by half a step at most.
* `RoundsTo.nearest`: **no number that rounding leaves alone is nearer**.
* `Rounds`: the same for numbers of any sign.
-/

namespace PackGuard.Binary

open Float.Model (Format)
open Float.Model.UnpackedFloat

/-! ## 1. Whole numbers -/

/-- The whole number nearest to an exact one; of two that are equally near, the even one. -/
structure Nearest (n : ℕ) (y : ℚ) : Prop where
  low : n - 1 / 2 ≤ y
  high : y ≤ n + 1 / 2
  even : y = n - 1 / 2 ∨ y = n + 1 / 2 → Even n

theorem nearest_self (n : ℕ) : Nearest n n where
  low := by linarith
  high := by linarith
  even := by rintro (h | h) <;> linarith

/-- No other whole number is nearer. -/
theorem Nearest.abs_sub_le {n : ℕ} {y : ℚ} (h : Nearest n y) (k : ℕ) : |n - y| ≤ |k - y| := by
  have low := h.low
  have high := h.high
  have half : |n - y| ≤ 1 / 2 := abs_le.2 ⟨by linarith, by linarith⟩
  rcases lt_trichotomy n k with less | rfl | greater
  · have apart : (n : ℚ) + 1 ≤ k := by exact_mod_cast less
    exact half.trans (le_trans (by linarith) (le_abs_self _))
  · exact le_rfl
  · have apart : (k : ℚ) + 1 ≤ n := by exact_mod_cast greater
    exact half.trans (le_trans (by linarith) (neg_le_abs _))

/-- **The nearest whole numbers stand in the order of the exact ones.** -/
theorem Nearest.mono {n k : ℕ} {y z : ℚ} (hn : Nearest n y) (hk : Nearest k z) (h : y ≤ z) :
    n ≤ k := by
  by_contra less
  -- both exact numbers would lie in the middle between neighbours, and both of these would be even
  have apart : (k : ℚ) + 1 ≤ n := by exact_mod_cast not_le.1 less
  have low := hn.low
  have high := hk.high
  have neighbours : n = k + 1 := by
    have : (n : ℚ) = (k + 1 : ℕ) := by push_cast; linarith
    exact_mod_cast this
  have evenLow := hk.even (.inr (by linarith))
  have evenHigh := hn.even (.inl (by linarith))
  rw [neighbours] at evenHigh
  exact Nat.not_even_iff_odd.2 evenLow.add_one evenHigh

/-! ## 2. What two bits know of the rest -/

/-- **What a mantissa and its two bits say of an exact number**: the mantissa is what is left of it
    without the fraction, the round bit says whether the fraction is a half or more, the sticky bit
    whether it is anything but none and a half. -/
structure Marks (em : ExtendedMantissa) (y : ℚ) : Prop where
  low : em.mantissa ≤ y
  high : y < em.mantissa + 1
  round : em.roundBit = true ↔ em.mantissa + 1 / 2 ≤ y
  sticky : em.stickyBit = false ↔ y = em.mantissa ∨ y = em.mantissa + 1 / 2

/-- Both bits are clear exactly if there is no fraction. -/
theorem Marks.exact_iff {em : ExtendedMantissa} {y : ℚ} (h : Marks em y) :
    em.roundBit = false ∧ em.stickyBit = false ↔ y = em.mantissa := by
  rw [← Bool.not_eq_true, h.round, h.sticky]
  constructor
  · rintro ⟨below, whole | half⟩
    · exact whole
    · exact absurd half.ge below
  · intro e
    exact ⟨by linarith, .inl e⟩

/-- A shift by one place keeps what the bits say, of half the number. -/
theorem marks_shiftRightOne {em : ExtendedMantissa} {y : ℚ} (h : Marks em y) :
    Marks em.shiftRightOne (y / 2) := by
  have low := h.low
  have high := h.high
  have halves : ((em.mantissa % 2 : ℕ) : ℚ) + 2 * (em.mantissa / 2 : ℕ) = em.mantissa := by
    exact_mod_cast Nat.mod_add_div em.mantissa 2
  have last : em.mantissa % 2 = 0 ∨ em.mantissa % 2 = 1 := Nat.mod_two_eq_zero_or_one _
  constructor <;> simp only [ExtendedMantissa.shiftRightOne]
  · rcases last with e | e <;> rw [e] at halves <;> push_cast at halves <;> linarith
  · rcases last with e | e <;> rw [e] at halves <;> push_cast at halves <;> linarith
  · rcases last with e | e <;> rw [e] at halves <;> push_cast at halves
    · exact iff_of_false (by simp [e]) (by linarith)
    · exact iff_of_true (by simp [e]) (by linarith)
  · -- the fraction of the half is none or a half exactly if the number is the mantissa itself
    rw [Bool.or_eq_false_iff, h.exact_iff]
    rcases last with e | e <;> rw [e] at halves <;> push_cast at halves
    · exact ⟨fun e => .inl (by linarith), by rintro (e | e) <;> linarith⟩
    · exact ⟨fun e => .inr (by linarith), by rintro (e | e) <;> linarith⟩

theorem marks_shiftRight {em : ExtendedMantissa} {y : ℚ} (h : Marks em y) (n : ℕ) :
    Marks (em >>> n) (y / 2 ^ n) := by
  induction n with
  | zero =>
      rw [pow_zero, div_one]
      exact h
  | succ n ih =>
      rw [pow_succ, ← div_div]
      exact marks_shiftRightOne ih

/-- **The two bits are enough to find the nearest whole number.** -/
theorem nearest_of_marks {em : ExtendedMantissa} {y : ℚ} (h : Marks em y) :
    Nearest em.roundedMantissa y := by
  obtain ⟨m, r, s⟩ := em
  obtain ⟨low, high, round, sticky⟩ := h
  dsimp only at low high round sticky
  cases r with
  | false =>
      have below : y < m + 1 / 2 := by simpa using round
      have rounded : (ExtendedMantissa.mk m false s).roundedMantissa = m := by cases s <;> rfl
      rw [rounded]
      exact ⟨by linarith, below.le, by rintro (e | e) <;> linarith⟩
  | true =>
      have above : m + 1 / 2 ≤ y := round.1 rfl
      cases s with
      | true =>
          have off : y ≠ m + 1 / 2 := fun e => by simpa using sticky.2 (.inr e)
          have rounded : (ExtendedMantissa.mk m true true).roundedMantissa = m + 1 := rfl
          rw [rounded]
          refine ⟨by push_cast; linarith, by push_cast; linarith, ?_⟩
          push_cast
          rintro (e | e)
          · exact absurd (by linarith) off
          · linarith
      | false =>
          have middle : y = m + 1 / 2 := (sticky.1 rfl).resolve_left (by linarith)
          have rounded : (ExtendedMantissa.mk m true false).roundedMantissa = m + m % 2 := rfl
          have last : m % 2 = 0 ∨ m % 2 = 1 := Nat.mod_two_eq_zero_or_one m
          rw [rounded]
          refine ⟨?_, ?_, fun _ => Nat.even_iff.2 (by omega)⟩ <;>
            rcases last with e | e <;> rw [e] <;> push_cast <;> linarith

/-! ## 3. The grid of a format -/

variable {spec : Format} {x y : ℚ}

/-- The exponent of the steps of the grid around a positive number. -/
def grid (spec : Format) (x : ℚ) : ℤ := spec.targetExponent (Int.log 2 x + 1)

theorem minExponent_le_grid (spec : Format) (x : ℚ) : spec.minExponent ≤ grid spec x :=
  le_max_right _ _

theorem grid_mono (pos : 0 < x) (h : x ≤ y) : grid spec x ≤ grid spec y :=
  max_le_max (by have := Int.log_mono_right (b := 2) pos h; omega) le_rfl

/-- Around a number that is less than a whole mantissa of steps the grid is no coarser. -/
theorem grid_le {k : ℤ} (least : spec.minExponent ≤ k) (pos : 0 < x)
    (below : x < 2 ^ (spec.mantissaBits + k)) : grid spec x ≤ k := by
  rw [← Nat.cast_ofNat (n := 2)] at below
  have log := (Int.lt_zpow_iff_log_lt one_lt_two pos).1 below
  exact max_le (by omega) least

/-- A number is less than a whole mantissa of steps. -/
theorem lt_of_grid (x : ℚ) : x < 2 ^ (grid spec x + spec.mantissaBits) := by
  have fits : Int.log 2 x + 1 ≤ grid spec x + spec.mantissaBits := by
    have : Int.log 2 x + 1 - spec.mantissaBits ≤ grid spec x := le_max_left _ _
    omega
  calc x < 2 ^ (Int.log 2 x + 1) := Int.lt_zpow_succ_log_self (by norm_num) x
    _ ≤ 2 ^ (grid spec x + spec.mantissaBits) := zpow_le_zpow_right₀ (by norm_num) fits

/-- Off the finest grid a number has at least half a mantissa of steps. -/
theorem le_of_grid (pos : 0 < x) (coarse : spec.minExponent < grid spec x) :
    2 ^ (grid spec x + spec.mantissaBitsWithoutImplicit) ≤ x := by
  have e : grid spec x + spec.mantissaBitsWithoutImplicit = Int.log 2 x := by
    have := max_choice (Int.log 2 x + 1 - spec.mantissaBits) spec.minExponent
    unfold grid Format.targetExponent Format.mantissaBits at *
    omega
  rw [e]
  exact Int.zpow_log_le_self (by norm_num) pos

/-- The nearest point of the grid is at most a whole mantissa of steps away from zero. -/
theorem nearest_le {n : ℕ} (near : Nearest n (x / 2 ^ grid spec x)) : n ≤ 2 ^ spec.mantissaBits := by
  refine near.mono (nearest_self _) ?_
  rw [div_le_iff₀ (by positivity), Nat.cast_pow, Nat.cast_ofNat, ← zpow_natCast,
    ← zpow_add₀ (by norm_num), add_comm]
  exact (lt_of_grid x).le

/-- Off the finest grid it is at least half a mantissa of steps away. -/
theorem le_nearest {n : ℕ} (pos : 0 < x) (coarse : spec.minExponent < grid spec x)
    (near : Nearest n (x / 2 ^ grid spec x)) : 2 ^ spec.mantissaBitsWithoutImplicit ≤ n := by
  refine (nearest_self _).mono near ?_
  rw [le_div_iff₀ (by positivity), Nat.cast_pow, Nat.cast_ofNat, ← zpow_natCast,
    ← zpow_add₀ (by norm_num), add_comm]
  exact le_of_grid pos coarse

/-- **What a positive number is rounded to**: the nearest point of the grid around it. -/
def RoundsTo (spec : Format) (x v : ℚ) : Prop :=
  ∃ n : ℕ, Nearest n (x / 2 ^ grid spec x) ∧ v = n * 2 ^ grid spec x

/-- A point of the grid is left alone. -/
theorem roundsTo_self {n : ℕ} {k : ℤ} (h : grid spec (n * 2 ^ k) ≤ k) :
    RoundsTo spec (n * 2 ^ k) (n * 2 ^ k) := by
  generalize e : grid spec (n * 2 ^ k) = g at h
  obtain ⟨j, rfl⟩ := Int.le.dest h
  have point : (n : ℚ) * 2 ^ (g + j : ℤ) = (n * 2 ^ j : ℕ) * 2 ^ g := by
    rw [zpow_add₀ (by norm_num), zpow_natCast]
    push_cast
    ring
  refine ⟨n * 2 ^ j, ?_, by rw [e, point]⟩
  rw [e, point, mul_div_cancel_right₀ _ (by positivity)]
  exact nearest_self _

/-- **Rounding respects order.** -/
theorem RoundsTo.mono {v w : ℚ} (hv : RoundsTo spec x v) (hw : RoundsTo spec y w) (pos : 0 < x)
    (h : x ≤ y) : v ≤ w := by
  obtain ⟨n, near, rfl⟩ := hv
  obtain ⟨k, near', rfl⟩ := hw
  have steps : grid spec x ≤ grid spec y := grid_mono pos h
  rcases steps.eq_or_lt with same | coarser
  · rw [same] at near ⊢
    have ordered := near.mono near' (by gcongr)
    gcongr
  · -- a whole mantissa of the finer steps is at most half a mantissa of the coarser ones
    have below : (n : ℚ) ≤ 2 ^ spec.mantissaBits := by exact_mod_cast nearest_le near
    have coarse := (minExponent_le_grid spec x).trans_lt coarser
    have above : (2 : ℚ) ^ spec.mantissaBitsWithoutImplicit ≤ k := by
      exact_mod_cast le_nearest (pos.trans_le h) coarse near'
    have exponents : spec.mantissaBits + grid spec x ≤
        spec.mantissaBitsWithoutImplicit + grid spec y := by
      unfold Format.mantissaBits
      omega
    calc (n : ℚ) * 2 ^ grid spec x
        ≤ 2 ^ spec.mantissaBits * 2 ^ grid spec x := by gcongr
      _ = 2 ^ (spec.mantissaBits + grid spec x) := by rw [zpow_add₀ (by norm_num), zpow_natCast]
      _ ≤ 2 ^ (spec.mantissaBitsWithoutImplicit + grid spec y) :=
          zpow_le_zpow_right₀ (by norm_num) exponents
      _ = 2 ^ spec.mantissaBitsWithoutImplicit * 2 ^ grid spec y := by
          rw [zpow_add₀ (by norm_num), zpow_natCast]
      _ ≤ k * 2 ^ grid spec y := by gcongr

theorem RoundsTo.unique {v w : ℚ} (hv : RoundsTo spec x v) (hw : RoundsTo spec x w) (pos : 0 < x) :
    v = w :=
  le_antisymm (hv.mono hw pos le_rfl) (hw.mono hv pos le_rfl)

theorem RoundsTo.nonneg {v : ℚ} (h : RoundsTo spec x v) : 0 ≤ v := by
  obtain ⟨n, -, rfl⟩ := h
  positivity

/-- A mantissa that is not too long is left alone. -/
theorem roundsTo_of_mantissa {n : ℕ} {k : ℤ} (short : n < 2 ^ spec.mantissaBits)
    (least : spec.minExponent ≤ k) (pos : 0 < n) : RoundsTo spec (n * 2 ^ k) (n * 2 ^ k) := by
  refine roundsTo_self (grid_le least (by positivity) ?_)
  rw [zpow_add₀ (by norm_num), zpow_natCast]
  gcongr
  exact_mod_cast short

/-- So is a power of two. -/
theorem roundsTo_two_zpow {k : ℤ} (least : spec.minExponent ≤ k) : RoundsTo spec (2 ^ k) (2 ^ k) := by
  have short : 1 < 2 ^ spec.mantissaBits := Nat.one_lt_two_pow (by unfold Format.mantissaBits; omega)
  simpa using roundsTo_of_mantissa short least one_pos

/-! ## 4. How far a number is moved -/

/-- A number is moved by half a step of the grid at most. -/
theorem RoundsTo.error {v : ℚ} (h : RoundsTo spec x v) : |v - x| ≤ 2 ^ grid spec x / 2 := by
  obtain ⟨n, near, rfl⟩ := h
  have step : (0 : ℚ) < 2 ^ grid spec x := by positivity
  have low := (le_div_iff₀ step).1 near.low
  have high := (div_le_iff₀ step).1 near.high
  rw [abs_le]
  constructor <;> linarith

/-- **A number of full precision is moved by half a unit in its last place at most.** -/
theorem RoundsTo.relative {v : ℚ} (h : RoundsTo spec x v)
    (normal : 2 ^ (spec.minExponent + spec.mantissaBitsWithoutImplicit) ≤ x) :
    |v - x| ≤ x / 2 ^ spec.mantissaBits := by
  have pos : 0 < x := lt_of_lt_of_le (by positivity) normal
  have full : 2 ^ (grid spec x + spec.mantissaBitsWithoutImplicit) ≤ x := by
    rcases (minExponent_le_grid spec x).eq_or_lt with finest | coarse
    · rwa [← finest]
    · exact le_of_grid pos coarse
  refine h.error.trans ?_
  rw [zpow_add₀ (by norm_num), zpow_natCast] at full
  rw [Format.mantissaBits, pow_add, pow_one, div_le_div_iff₀ two_pos (by positivity)]
  linarith

/-- No other point of the grid is nearer. -/
theorem RoundsTo.abs_sub_le {v : ℚ} (h : RoundsTo spec x v) (k : ℕ) :
    |v - x| ≤ |k * 2 ^ grid spec x - x| := by
  obtain ⟨n, near, rfl⟩ := h
  have step : (0 : ℚ) < 2 ^ grid spec x := by positivity
  have scaled (m : ℕ) :
      |m * 2 ^ grid spec x - x| = |m - x / 2 ^ grid spec x| * 2 ^ grid spec x := by
    rw [← abs_of_pos step, ← abs_mul, abs_of_pos step, sub_mul, div_mul_cancel₀ _ step.ne']
  rw [scaled, scaled]
  exact mul_le_mul_of_nonneg_right (near.abs_sub_le k) step.le

/-- **No number that rounding leaves alone is nearer.** One that is not on the grid is less than half
    a mantissa of steps away from zero, and half a mantissa of steps is nearer. -/
theorem RoundsTo.nearest {v p : ℚ} (h : RoundsTo spec x v) (pos : 0 < x) (point : RoundsTo spec p p) :
    |v - x| ≤ |p - x| := by
  obtain ⟨k, -, written⟩ := point
  rcases le_or_gt (grid spec x) (grid spec p) with coarse | fine
  · obtain ⟨j, exponent⟩ := Int.le.dest coarse
    have onGrid : p = (k * 2 ^ j : ℕ) * 2 ^ grid spec x := by
      rw [written, ← exponent, zpow_add₀ (by norm_num), zpow_natCast]
      push_cast
      ring
    rw [onGrid]
    exact h.abs_sub_le _
  · have above := le_of_grid pos ((minExponent_le_grid spec p).trans_lt fine)
    have below : p < 2 ^ (grid spec x + spec.mantissaBitsWithoutImplicit) := by
      refine (@lt_of_grid spec p).trans_le (zpow_le_zpow_right₀ (by norm_num) ?_)
      unfold Format.mantissaBits
      omega
    have half := h.abs_sub_le (2 ^ spec.mantissaBitsWithoutImplicit)
    rw [Nat.cast_pow, Nat.cast_ofNat, ← zpow_natCast, ← zpow_add₀ (by norm_num), add_comm,
      abs_sub_comm (2 ^ _), abs_of_nonneg (sub_nonneg.2 above)] at half
    rw [abs_sub_comm p, abs_of_nonneg (a := x - p) (by linarith)]
    linarith

/-! ## 5. Any number -/

/-- **What any number is rounded to**: zero is left alone, and a negative number is rounded like its
    opposite. -/
inductive Rounds (spec : Format) : ℚ → ℚ → Prop
  | zero : Rounds spec 0 0
  | positive {x v : ℚ} (pos : 0 < x) (rounds : RoundsTo spec x v) : Rounds spec x v
  | negative {x v : ℚ} (pos : 0 < x) (rounds : RoundsTo spec x v) : Rounds spec (-x) (-v)

namespace Rounds

variable {v w : ℚ}

theorem neg (h : Rounds spec x v) : Rounds spec (-x) (-v) := by
  cases h with
  | zero => simpa using zero
  | positive pos rounds => exact negative pos rounds
  | negative pos rounds =>
      rw [neg_neg, neg_neg]
      exact positive pos rounds

/-- **Rounding respects order**, also across zero. -/
theorem mono (hv : Rounds spec x v) (hw : Rounds spec y w) (h : x ≤ y) : v ≤ w := by
  cases hv with
  | zero =>
      cases hw with
      | zero => exact le_rfl
      | positive _ rounds => exact rounds.nonneg
      | negative below => linarith
  | positive above rounds =>
      cases hw with
      | zero => linarith
      | positive _ rounds' => exact rounds.mono rounds' above h
      | negative below => linarith
  | negative below rounds =>
      have low := rounds.nonneg
      cases hw with
      | zero => linarith
      | positive _ rounds' => linarith [rounds'.nonneg]
      | negative below' rounds' =>
          exact neg_le_neg (rounds'.mono rounds below' (neg_le_neg_iff.1 h))

theorem unique (hv : Rounds spec x v) (hw : Rounds spec x w) : v = w :=
  le_antisymm (hv.mono hw le_rfl) (hw.mono hv le_rfl)

/-- Inversion for positive numbers. -/
theorem roundsTo (h : Rounds spec x v) (pos : 0 < x) : RoundsTo spec x v := by
  cases h with
  | zero => exact absurd pos (lt_irrefl _)
  | positive _ rounds => exact rounds
  | negative below => exact absurd pos (not_lt.2 (neg_nonpos.2 below.le))

/-- The size of a number is rounded like the number. -/
theorem abs (h : Rounds spec x v) : Rounds spec |x| |v| := by
  cases h with
  | zero => simpa using zero
  | positive pos rounds =>
      rw [abs_of_pos pos, abs_of_nonneg rounds.nonneg]
      exact positive pos rounds
  | negative pos rounds =>
      rw [abs_neg, abs_neg, abs_of_pos pos, abs_of_nonneg rounds.nonneg]
      exact positive pos rounds

/-- A number that is less than a whole mantissa of steps is moved by half a step at most. -/
theorem error_le (h : Rounds spec x v) {k : ℤ} (least : spec.minExponent ≤ k)
    (small : |x| < 2 ^ (spec.mantissaBits + k)) : |v - x| ≤ 2 ^ k / 2 := by
  have step {x v : ℚ} (pos : 0 < x) (rounds : RoundsTo spec x v)
      (small : |x| < 2 ^ (spec.mantissaBits + k)) : |v - x| ≤ 2 ^ k / 2 := by
    rw [abs_of_pos pos] at small
    refine rounds.error.trans (div_le_div_of_nonneg_right ?_ two_pos.le)
    exact zpow_le_zpow_right₀ (by norm_num) (grid_le least pos small)
  cases h with
  | zero =>
      rw [sub_zero, abs_zero]
      positivity
  | positive pos rounds => exact step pos rounds small
  | negative pos rounds =>
      rw [abs_neg] at small
      rw [neg_sub_neg, abs_sub_comm]
      exact step pos rounds small

/-- A number of full precision is moved by half a unit in its last place at most. -/
theorem relative (h : Rounds spec x v)
    (normal : 2 ^ (spec.minExponent + spec.mantissaBitsWithoutImplicit) ≤ |x|) :
    |v - x| ≤ |x| / 2 ^ spec.mantissaBits := by
  cases h with
  | zero => simp
  | positive pos rounds =>
      rw [abs_of_pos pos] at normal ⊢
      exact rounds.relative normal
  | negative pos rounds =>
      rw [abs_neg, abs_of_pos pos] at normal ⊢
      rw [neg_sub_neg, abs_sub_comm]
      exact rounds.relative normal

/-- **Rounding gives the nearest of the numbers that it leaves alone.** -/
theorem nearest {p : ℚ} (h : Rounds spec x v) (point : Rounds spec p p) : |v - x| ≤ |p - x| := by
  have step {x v p : ℚ} (pos : 0 < x) (rounds : RoundsTo spec x v) (point : Rounds spec p p) :
      |v - x| ≤ |p - x| := by
    rcases lt_or_ge 0 p with above | below
    · exact rounds.nearest pos (point.roundsTo above)
    · have zero := rounds.abs_sub_le 0
      rw [Nat.cast_zero, zero_mul, zero_sub, abs_neg, abs_of_pos pos] at zero
      rw [abs_of_nonpos (a := p - x) (by linarith)]
      linarith
  cases h with
  | zero =>
      rw [sub_zero, abs_zero]
      exact abs_nonneg _
  | positive pos rounds => exact step pos rounds point
  | negative pos rounds =>
      have mirrored := step pos rounds point.neg
      rwa [← abs_neg, ← abs_neg (-p - _), neg_sub', neg_sub', neg_neg] at mirrored

end Rounds

end PackGuard.Binary
