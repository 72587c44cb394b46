import PackGuard.Proofs.Number.Single
import PackGuard.Track

/-!
# The smoothing weight

A new value counts with a weight against the average so far.

* `smoothingWeight_mem`: **the weight is a fraction above zero and at most one**, for any number of
  samples and any decay. For one part in so many samples this is a matter of rounding, which respects
  order; for a decay it is the work of the clamp.
* `smoothingWeight_cases`: a weight is one, or clearly below one; nothing lies between the greatest
  decay below a thousand and one.
* `IsWeight`: both, which is all that a step has to know of its weight.
-/

namespace PackGuard

open Binary

/-! ## 1. Weights -/

theorem toRat_thousand : (1000 : Float32).isFinite = true ∧ toRat 1000 = 1000 :=
  toRat_ofNat (n := 1000) (by norm_num)

/-- A count is converted to a number of its size. -/
theorem toRat_count {n : ℕ} (small : n ≤ 2 ^ 32) :
    (Float32.ofNat n).isFinite = true ∧ 0 ≤ toRat (.ofNat n) ∧ toRat (.ofNat n) ≤ 2 ^ 32 :=
  (stores_ofNat n).mem writable_zero (writable_two_zpow (k := 32) (by norm_num) (by norm_num))
    (by positivity) (by exact_mod_cast small)

/-- A count that is not zero is at least one, also once it is rounded. -/
theorem one_le_toRat_count {n : ℕ} (pos : 0 < n) (small : n ≤ 2 ^ 32) : 1 ≤ toRat (.ofNat n) := by
  have size : (1 : ℚ) ≤ n := by exact_mod_cast pos
  have most : (n : ℚ) ≤ 2 ^ (32 : ℤ) := by exact_mod_cast small
  have one : Writable 1 := by simpa using writable_two_zpow (k := 0) (by norm_num) (by norm_num)
  exact ((stores_ofNat n).mem one (writable_two_zpow (by norm_num) (by norm_num)) size most).2.1

/-- Thousandths are stored as they are rounded. -/
theorem stores_thousandths {d : ℕ} (small : d ≤ 2 ^ 32) :
    Stores (.ofNat d / 1000) (toRat (.ofNat d) / 1000) := by
  have divided := stores_div (toRat_count small).1 toRat_thousand.1
    (by rw [toRat_thousand.2]; norm_num)
  rwa [toRat_thousand.2] at divided

theorem isFinite_thousandths {d : ℕ} (small : d ≤ 2 ^ 32) :
    (Float32.ofNat d / 1000).isFinite = true := by
  obtain ⟨-, least, most⟩ := toRat_count small
  refine ((stores_thousandths small).mem writable_zero
    (writable_two_zpow (k := 32) (by norm_num) (by norm_num)) (by positivity) ?_).1
  rw [zpow_ofNat]
  linarith

/-- One part in so many samples is stored as it is rounded. -/
theorem stores_part {n : ℕ} (pos : 0 < n) (small : n ≤ 2 ^ 32) :
    Stores (1 / .ofNat n) (1 / toRat (.ofNat n)) := by
  have least := one_le_toRat_count pos small
  have divided := stores_div (x := 1) (by decide) (toRat_count small).1 (by linarith)
  rwa [toRat_one] at divided

/-- One part in so many samples is a fraction; no part is rounded down to zero, for there are at most
    `2 ^ 32` of them. -/
theorem part_mem {n : ℕ} (pos : 0 < n) (small : n ≤ 2 ^ 32) :
    (1 / Float32.ofNat n).isFinite = true ∧ 2 ^ (-32 : ℤ) ≤ toRat (1 / .ofNat n) ∧
      toRat (1 / .ofNat n) ≤ 1 := by
  have least := one_le_toRat_count pos small
  obtain ⟨-, -, most⟩ := toRat_count small
  have one : Writable 1 := by simpa using writable_two_zpow (k := 0) (by norm_num) (by norm_num)
  refine (stores_part pos small).mem (writable_two_zpow (by norm_num) (by norm_num)) one ?_ ?_
  · rw [zpow_neg, ← one_div]
    exact one_div_le_one_div_of_le (by linarith) most
  · exact (div_le_one (by linarith)).2 least

/-- **The weight of a new value is above zero and at most one.** -/
theorem smoothingWeight_mem (samples : UInt32) (decay : Option UInt32) :
    (smoothingWeight samples decay).isFinite = true ∧ 0 < smoothingWeight samples decay ∧
      smoothingWeight samples decay ≤ 1 := by
  have one : (1 : Float32).isFinite = true := by decide
  cases decay with
  | none =>
      have short := samples.toNat_lt
      obtain ⟨finite, least, most⟩ := part_mem (n := max samples.toNat 1) (by omega) (by omega)
      refine ⟨finite, (lt_iff_toRat (by decide) finite).2 ?_, (le_iff_toRat finite one).2 ?_⟩
      · exact lt_of_lt_of_le (by rw [toRat_zero]; positivity) least
      · rwa [toRat_one]
  | some d =>
      have short := d.toNat_lt
      have bound : leastNormal.isFinite = true := by decide
      have given := isFinite_thousandths (d := d.toNat) (by omega)
      obtain ⟨finite, low, high⟩ := clamp_mem bound one (isNaN_of_isFinite given) (by decide)
      have least := (le_iff_toRat bound finite).1 low
      refine ⟨finite, (lt_iff_toRat (by decide) finite).2 ?_, high⟩
      exact ((lt_iff_toRat (by decide) bound).1 (by decide)).trans_le least

/-! ## 2. Weights below one -/

/-- One part in more than one sample is at most a half. -/
theorem part_le_half {n : ℕ} (several : 1 < n) (small : n ≤ 2 ^ 32) :
    toRat (1 / Float32.ofNat n) ≤ 1 / 2 := by
  have two : (2 : ℚ) ≤ toRat (.ofNat n) := by
    have most : (n : ℚ) ≤ 2 ^ (32 : ℤ) := by exact_mod_cast small
    have size : ((2 : ℕ) : ℚ) ≤ n := by exact_mod_cast several
    exact ((stores_ofNat n).mem (writable_natCast (by norm_num))
      (writable_two_zpow (by norm_num) (by norm_num)) size most).2.1
  have half : Writable (1 / 2) := by
    simpa using writable_two_zpow (k := -1) (by norm_num) (by norm_num)
  refine ((stores_part (by omega) small).mem writable_zero half (by positivity) ?_).2.2
  exact one_div_le_one_div_of_le two_pos two

/-- Fewer than a thousand thousandths are clearly less than one. -/
theorem thousandths_le {d : ℕ} (few : d < 1000) :
    toRat (Float32.ofNat d / 1000) ≤ 1023 / 1024 := by
  have counted := (toRat_ofNat (n := d) (by omega)).2
  have bound : Writable (1023 / 1024) := by
    have w := writable_of_mantissa (n := 1023) (k := -10) (by norm_num) (by norm_num) (by norm_num)
    norm_num at w
    exact w
  have most : (d : ℚ) ≤ 999 := by exact_mod_cast Nat.le_of_lt_succ few
  refine ((stores_thousandths (by omega)).mem writable_zero bound ?_ ?_).2.2
  · rw [counted]
    positivity
  · rw [counted]
    linarith

/-- More than a thousand thousandths are more than one. -/
theorem one_lt_thousandths {d : ℕ} (many : 1000 < d) (small : d ≤ 2 ^ 32) :
    1 < Float32.ofNat d / 1000 := by
  have size : (1001 : ℚ) ≤ toRat (.ofNat d) := by
    have most : (d : ℚ) ≤ 2 ^ (32 : ℤ) := by exact_mod_cast small
    have least : ((1001 : ℕ) : ℚ) ≤ d := by exact_mod_cast many
    exact ((stores_ofNat d).mem (writable_natCast (by norm_num))
      (writable_two_zpow (by norm_num) (by norm_num)) least most).2.1
  have bound : Writable (1025 / 1024) := by
    have w := writable_of_mantissa (n := 1025) (k := -10) (by norm_num) (by norm_num) (by norm_num)
    norm_num at w
    exact w
  obtain ⟨-, -, most⟩ := toRat_count small
  obtain ⟨finite, least, -⟩ := (stores_thousandths small).mem bound
    (writable_two_zpow (k := 32) (by norm_num) (by norm_num)) (by linarith)
    (by rw [zpow_ofNat]; linarith)
  rw [lt_iff_toRat (by decide) finite, toRat_one]
  linarith

theorem toRat_leastNormal : toRat leastNormal = 2 ^ (-126 : ℤ) := by
  rw [toRat_of_unpack (s := .positive) (m := 8388608) (e := -149) (h := by decide) rfl]
  norm_num [signed]

/-- Fewer than a thousand thousandths are not cut off above, and what they are raised to is tiny. -/
theorem clamp_thousandths_le {d : ℕ} (few : d < 1000) :
    toRat (clamp leastNormal 1 (.ofNat d / 1000)) ≤ 1023 / 1024 := by
  have below := thousandths_le few
  have finite := isFinite_thousandths (d := d) (by omega)
  unfold clamp
  split
  · rw [toRat_leastNormal]
    exact (zpow_le_zpow_right₀ (by norm_num) (show (-126 : ℤ) ≤ -1 by norm_num)).trans (by norm_num)
  · rw [if_neg]
    · exact below
    · rw [lt_iff_toRat (by decide) finite, toRat_one]
      linarith

/-- More than a thousand thousandths are cut off at one. -/
theorem clamp_thousandths_one {d : ℕ} (many : 1000 < d) (small : d ≤ 2 ^ 32) :
    clamp leastNormal 1 (.ofNat d / 1000) = 1 := by
  have above := one_lt_thousandths many small
  have finite := isFinite_thousandths small
  have one := (lt_iff_toRat (by decide) finite).1 above
  unfold clamp
  rw [if_neg, if_pos above]
  rw [lt_iff_toRat finite (by decide)]
  have least : toRat leastNormal ≤ toRat 1 := (le_iff_toRat (by decide) (by decide)).1 (by decide)
  linarith

/-- **A weight is one or clearly below one.** -/
theorem smoothingWeight_cases (samples : UInt32) (decay : Option UInt32) :
    smoothingWeight samples decay = 1 ∨ toRat (smoothingWeight samples decay) ≤ 1023 / 1024 := by
  cases decay with
  | none =>
      have short := samples.toNat_lt
      unfold smoothingWeight
      rcases Nat.lt_or_ge 1 samples.toNat with many | few
      · have half := part_le_half (n := max samples.toNat 1) (by omega) (by omega)
        exact .inr (half.trans (by norm_num))
      · rw [Nat.max_eq_right few]
        exact .inl (by decide)
  | some d =>
      have short := d.toNat_lt
      unfold smoothingWeight
      rcases lt_trichotomy d.toNat 1000 with few | all | many
      · exact .inr (clamp_thousandths_le few)
      · dsimp only
        rw [all]
        exact .inl (by decide)
      · exact .inl (clamp_thousandths_one many (by omega))

/-- **What a step has to know of its weight**: it is above zero, and one or clearly below one. -/
structure IsWeight (w : Float32) : Prop where
  finite : w.isFinite = true
  positive : 0 < w
  apart : w = 1 ∨ toRat w ≤ 1023 / 1024

theorem isWeight_smoothingWeight (samples : UInt32) (decay : Option UInt32) :
    IsWeight (smoothingWeight samples decay) := by
  obtain ⟨finite, positive, -⟩ := smoothingWeight_mem samples decay
  exact ⟨finite, positive, smoothingWeight_cases samples decay⟩

theorem IsWeight.nonneg {w : Float32} (h : IsWeight w) : 0 ≤ toRat w :=
  (toRat_pos h.finite h.positive).le

end PackGuard
