import PackGuard.Proofs.Number.Rounding
import PackGuard.Proofs.Number.Values

/-!
# Arithmetic, one rounding each

Products, quotients and conversions first find an exact result, as a mantissa with what is cut off
from it, and then round that.

* `correctlyRounded_roundWithAccuracy`: **the one function that rounds does so correctly**.
* `correctlyRounded_round`, `correctlyRounded_mul`, `correctlyRounded_div`: what is handed to it is the
  exact result.
* `rounded_add`, `rounded_sub`, `rounded_mul`, `rounded_div`: **the four operations on finite numbers of
  any sign**.
-/

namespace PackGuard.Binary

open Float.Model (Format UnpackedFloat totalExponent)
open Float.Model.UnpackedFloat

variable {spec : Format}

/-! ## 1. The grid around a mantissa -/

/-- The binary logarithm of a number is that of its whole part. -/
theorem log_mul_zpow {m : ℕ} {y : ℚ} (pos : 0 < m) (low : m ≤ y) (high : y < m + 1) (e : ℤ) :
    Int.log 2 (y * 2 ^ e) = m.log2 + e := by
  have size : 0 < y * 2 ^ e := by
    have : (0 : ℚ) < m := by exact_mod_cast pos
    have := this.trans_le low
    positivity
  have least : (2 : ℚ) ^ m.log2 ≤ y := le_trans (by exact_mod_cast Nat.log2_self_le pos.ne') low
  have most : y < (2 : ℚ) ^ (m.log2 + 1) :=
    high.trans_le (by exact_mod_cast Nat.lt_log2_self)
  apply le_antisymm
  · have below : y * 2 ^ e < ((2 : ℕ) : ℚ) ^ ((m.log2 + 1 : ℕ) + e : ℤ) := by
      push_cast
      rw [zpow_add₀ (by norm_num), ← Nat.cast_succ, zpow_natCast]
      gcongr
    have := (Int.lt_zpow_iff_log_lt (by norm_num) size).1 below
    omega
  · have above : ((2 : ℕ) : ℚ) ^ ((m.log2 : ℕ) + e : ℤ) ≤ y * 2 ^ e := by
      push_cast
      rw [zpow_add₀ (by norm_num), zpow_natCast]
      gcongr
    exact (Int.zpow_le_iff_le_log (by norm_num) size).1 above

/-- The exponent to which a mantissa is shifted is that of the grid. -/
theorem grid_of_mantissa {m : ℕ} {y : ℚ} (pos : 0 < m) (low : m ≤ y) (high : y < m + 1) (e : ℤ) :
    grid spec (y * 2 ^ e) = spec.targetExponent (totalExponent m e) := by
  rw [grid, log_mul_zpow pos low high, totalExponent]
  congr 1
  ring

/-- Also without a whole part, if the number is given on a grid that is fine enough. -/
theorem grid_of_marks {em : ExtendedMantissa} {y : ℚ} {e : ℤ} (marks : Marks em y) (pos : 0 < y)
    (fine : e ≤ grid spec (y * 2 ^ e)) :
    grid spec (y * 2 ^ e) = spec.targetExponent (totalExponent em.mantissa e) := by
  rcases Nat.eq_zero_or_pos em.mantissa with nothing | positive
  · have below : y * 2 ^ e < ((2 : ℕ) : ℚ) ^ e := by
      have := marks.high
      rw [nothing] at this
      push_cast at this ⊢
      nlinarith [show (0 : ℚ) < 2 ^ e by positivity]
    have log := (Int.lt_zpow_iff_log_lt (by norm_num) (by positivity)).1 below
    have zero : Nat.log2 0 = 0 := by decide
    rw [nothing]
    unfold grid Format.targetExponent totalExponent Format.mantissaBits at *
    rw [zero]
    omega
  · exact grid_of_mantissa positive marks.low marks.high e

/-! ## 2. The one function that rounds -/

/-- **A result is the exact one, a positive number with a sign put on, correctly rounded.** -/
structure CorrectlyRounded (spec : Format) (s : Sign) (x : ℚ) (u : UnpackedFloat) : Prop where
  finite : u.isFinite = true
  canonical : Canonical spec u
  value : ∃ v, RoundsTo spec x v ∧ value u = signed s v

@[simp] theorem mantissa_ofMantissaAndAccuracy (m : ℕ) (a : Accuracy) :
    (ExtendedMantissa.ofMantissaAndAccuracy m a).mantissa = m := by
  rcases a with _ | (_ | _ | _) <;> rfl

/-- The first shift brings the exact number to the grid around it. -/
theorem shiftToTargetExponent_of_marks {m : ℕ} {e : ℤ} {a : Accuracy} {y : ℚ}
    (marks : Marks (.ofMantissaAndAccuracy m a) y) (pos : 0 < y) (fine : e ≤ grid spec (y * 2 ^ e)) :
    Marks (shiftToTargetExponent spec m e a).1 (y * 2 ^ e / 2 ^ grid spec (y * 2 ^ e)) ∧
      (shiftToTargetExponent spec m e a).2 = grid spec (y * 2 ^ e) := by
  have target := grid_of_marks marks pos fine
  rw [mantissa_ofMantissaAndAccuracy] at target
  generalize grid spec (y * 2 ^ e) = k at *
  obtain ⟨n, rfl⟩ := Int.le.dest fine
  have shift : (e + n - e).toNat = n := by omega
  simp only [shiftToTargetExponent, shiftToExponent, ← target, shift, and_true]
  have steps : y * 2 ^ e / 2 ^ (e + n : ℤ) = y / 2 ^ n := by
    rw [zpow_add₀ (by norm_num), zpow_natCast]
    field_simp
  rw [steps]
  exact marks_shiftRight marks n

/-- The second shift takes back the place that rounding may have carried into. -/
theorem shiftToTargetExponent_exact {r : ℕ} {k : ℤ} (le : r ≤ 2 ^ spec.mantissaBits)
    (least : spec.minExponent ≤ k) :
    shiftToTargetExponent spec r k .exact =
      if r = 2 ^ spec.mantissaBits then
        (⟨2 ^ spec.mantissaBitsWithoutImplicit, false, false⟩, k + 1)
      else (⟨r, false, false⟩, k) := by
  split
  · next carried =>
      have target : spec.targetExponent (totalExponent r k) = k + 1 := by
        rw [carried, totalExponent, Nat.log2_two_pow]
        unfold Format.targetExponent
        omega
      have shift : (k + 1 - k).toNat = 1 := by omega
      have half : r / 2 = 2 ^ spec.mantissaBitsWithoutImplicit ∧ r % 2 = 0 := by
        rw [carried, Format.mantissaBits, pow_add, pow_one]
        omega
      simp only [shiftToTargetExponent, shiftToExponent, target, shift]
      show (ExtendedMantissa.mk (r / 2) (r % 2 != 0) (false || false), k + 1) = _
      rw [half.1, half.2]
      rfl
  · next short =>
      have target : spec.targetExponent (totalExponent r k) ≤ k := by
        have log : r.log2 + 1 ≤ spec.mantissaBits := by
          rcases eq_or_ne r 0 with rfl | nonzero
          · have zero : Nat.log2 0 = 0 := by decide
            rw [zero]
            unfold Format.mantissaBits
            omega
          · exact (Nat.log2_lt nonzero).2 (lt_of_le_of_ne le short)
        unfold Format.targetExponent totalExponent
        omega
      have shift : (spec.targetExponent (totalExponent r k) - k).toNat = 0 := by omega
      simp only [shiftToTargetExponent, shiftToExponent, shift]
      show (ExtendedMantissa.mk r false false, k + 0) = _
      rw [add_zero]

/-- A number that may be zero, from a mantissa and an exponent. -/
def ofParts (s : Sign) (m : ℕ) (e : ℤ) : UnpackedFloat :=
  if h : m = 0 then .zero s else .finite s m e (Nat.pos_of_ne_zero h)

theorem correctlyRounded_ofParts {s : Sign} {m : ℕ} {e : ℤ} {x : ℚ} (fits : m ≠ 0 → InFormat spec m e)
    (rounds : RoundsTo spec x (m * 2 ^ e)) : CorrectlyRounded spec s x (ofParts s m e) := by
  unfold ofParts
  split
  · next zero =>
      refine ⟨rfl, trivial, 0, ?_, by cases s <;> rfl⟩
      rwa [zero, Nat.cast_zero, zero_mul] at rounds
  · next nonzero => exact ⟨rfl, fits nonzero, _, rounds, rfl⟩

/-- **What the function makes of an exact number**, given as a mantissa with what is cut off from it,
    on a grid that is fine enough. -/
theorem correctlyRounded_roundWithAccuracy {m : ℕ} {e : ℤ} {a : Accuracy} {y : ℚ}
    (marks : Marks (.ofMantissaAndAccuracy m a) y) (pos : 0 < y) (fine : e ≤ grid spec (y * 2 ^ e))
    (s : Sign) : CorrectlyRounded spec s (y * 2 ^ e) (roundWithAccuracy spec s m e a) := by
  obtain ⟨marked, exponent⟩ := shiftToTargetExponent_of_marks marks pos fine
  obtain ⟨r, rounded⟩ : ∃ r, r = (shiftToTargetExponent spec m e a).1.roundedMantissa := ⟨_, rfl⟩
  have near : Nearest r (y * 2 ^ e / 2 ^ grid spec (y * 2 ^ e)) := rounded ▸ nearest_of_marks marked
  have least := minExponent_le_grid spec (y * 2 ^ e)
  have rounds : RoundsTo spec (y * 2 ^ e) (r * 2 ^ grid spec (y * 2 ^ e)) := ⟨r, near, rfl⟩
  have coarse := fun h => le_nearest (by positivity) h near
  have short := nearest_le near
  have parts : roundWithAccuracy spec s m e a =
      ofParts s (shiftToTargetExponent spec r (grid spec (y * 2 ^ e)) .exact).1.mantissa
        (shiftToTargetExponent spec r (grid spec (y * 2 ^ e)) .exact).2 := by
    rw [rounded, ← exponent]
    rfl
  rw [parts, shiftToTargetExponent_exact short least]
  have whole := two_pow_mantissaBits spec
  split
  · next carried =>
      have positive : 0 < 2 ^ spec.mantissaBitsWithoutImplicit := Nat.two_pow_pos _
      have full : InFormat spec (2 ^ spec.mantissaBitsWithoutImplicit) (grid spec (y * 2 ^ e) + 1) :=
        ⟨by omega, by omega, .inl le_rfl⟩
      refine correctlyRounded_ofParts (fun _ => full) ?_
      rw [carried, whole] at rounds
      convert rounds using 1
      rw [zpow_add_one₀ (by norm_num)]
      push_cast
      ring
  · next uncarried =>
      refine correctlyRounded_ofParts (fun _ => ⟨lt_of_le_of_ne short uncarried, least, ?_⟩) rounds
      rcases least.eq_or_lt with finest | coarser
      · exact .inr finest.symm
      · exact .inl (coarse coarser)

/-! ## 3. Exact results -/

theorem marks_exact (m : ℕ) : Marks (.ofMantissaAndAccuracy m .exact) m where
  low := le_rfl
  high := by simp [ExtendedMantissa.ofMantissaAndAccuracy]
  round := iff_of_false (by simp [ExtendedMantissa.ofMantissaAndAccuracy])
    (by simp [ExtendedMantissa.ofMantissaAndAccuracy])
  sticky := iff_of_true rfl (.inl rfl)

/-- The bits that a fraction leaves: it is told apart from none and from a half by comparing its double
    with one. -/
theorem ofMantissaAndAccuracy_fraction {r d : ℕ} (q : ℕ) (small : r < d) :
    ExtendedMantissa.ofMantissaAndAccuracy q (accuracyOfFraction r d) =
      ⟨q, decide (d ≤ 2 * r), decide (r ≠ 0 ∧ 2 * r ≠ d)⟩ := by
  unfold accuracyOfFraction
  split
  · next zero =>
      have below : ¬ d ≤ 2 * r := by omega
      simp [ExtendedMantissa.ofMantissaAndAccuracy, zero, Nat.ne_of_gt (zero ▸ small)]
  · next nonzero =>
      rcases lt_trichotomy (2 * r) d with h | h | h
      · simp [compare_lt_iff_lt.2 h, ExtendedMantissa.ofMantissaAndAccuracy, nonzero, h.ne, h]
      · simp [ExtendedMantissa.ofMantissaAndAccuracy, h]
      · simp [compare_gt_iff_gt.2 h, ExtendedMantissa.ofMantissaAndAccuracy, nonzero, h.ne', h.le]

theorem marks_fraction {r d : ℕ} (q : ℕ) (small : r < d) :
    Marks (.ofMantissaAndAccuracy q (accuracyOfFraction r d)) (q + r / d) := by
  have pos : (0 : ℚ) < d := by exact_mod_cast r.zero_le.trans_lt small
  rw [ofMantissaAndAccuracy_fraction q small]
  constructor
  · have : (0 : ℚ) ≤ r / d := by positivity
    simpa using this
  · have : (r : ℚ) / d < 1 := (div_lt_one pos).2 (by exact_mod_cast small)
    simpa using this
  · have half : (1 : ℚ) / 2 ≤ r / d ↔ d ≤ 2 * r := by
      rw [div_le_div_iff₀ two_pos pos, one_mul, mul_comm (r : ℚ)]
      exact_mod_cast Iff.rfl
    simpa using half.symm
  · have zero : (r : ℚ) / d = 0 ↔ r = 0 := by simp [pos.ne']
    have half : (r : ℚ) / d = 1 / 2 ↔ 2 * r = d := by
      rw [div_eq_div_iff pos.ne' two_ne_zero, one_mul, mul_comm (r : ℚ)]
      exact_mod_cast Iff.rfl
    rw [add_right_inj, add_eq_left, zero, half]
    simp only [decide_eq_false_iff_not, not_and_or, not_not]

theorem CorrectlyRounded.of_eq {s : Sign} {x y : ℚ} {u : UnpackedFloat}
    (h : CorrectlyRounded spec s x u) (e : x = y) : CorrectlyRounded spec s y u := e ▸ h

/-- A mantissa and an exponent are rounded correctly. -/
theorem correctlyRounded_round {m : ℕ} (pos : 0 < m) (e : ℤ) (s : Sign) :
    CorrectlyRounded spec s (m * 2 ^ e) (UnpackedFloat.round spec s m e) := by
  have around : grid spec (m * 2 ^ e) = spec.targetExponent (totalExponent m e) :=
    grid_of_mantissa pos le_rfl (by linarith) e
  obtain ⟨n, shift⟩ : ∃ n, n = (e - spec.targetExponent (totalExponent m e)).toNat := ⟨_, rfl⟩
  have same : ((m <<< n : ℕ) : ℚ) * 2 ^ (e - n : ℤ) = m * 2 ^ e := by
    rw [Nat.shiftLeft_eq, zpow_sub₀ (by norm_num), zpow_natCast]
    push_cast
    field_simp
  have rounded : UnpackedFloat.round spec s m e =
      roundWithAccuracy spec s (m <<< n) (e - n) .exact := by
    rw [shift]
    rfl
  rw [rounded]
  refine CorrectlyRounded.of_eq ?_ same
  refine correctlyRounded_roundWithAccuracy (marks_exact _) ?_ ?_ s
  · rw [Nat.shiftLeft_eq]
    positivity
  · rw [same, around]
    omega

/-- **Products are rounded correctly.** -/
theorem correctlyRounded_mul {s t : Sign} {m n : ℕ} {e k : ℤ} {hm : 0 < m} {hn : 0 < n}
    (first : InFormat spec m e) (second : InFormat spec n k) :
    CorrectlyRounded spec (s * t) (m * 2 ^ e * (n * 2 ^ k))
      (UnpackedFloat.mul spec (.finite s m e hm) (.finite t n k hn)) := by
  have same : ((m * n : ℕ) : ℚ) * 2 ^ (e + k) = m * 2 ^ e * (n * 2 ^ k) := by
    rw [zpow_add₀ (by norm_num)]
    push_cast
    ring
  refine CorrectlyRounded.of_eq ?_ same
  have pos : 0 < m * n := Nat.mul_pos hm hn
  refine correctlyRounded_roundWithAccuracy (marks_exact _) (by exact_mod_cast pos) ?_ _
  rw [grid_of_mantissa pos le_rfl (by linarith)]
  unfold Format.targetExponent totalExponent
  by_cases full : 2 ^ spec.mantissaBitsWithoutImplicit ≤ m * n
  · have log := (Nat.le_log2 pos.ne').2 full
    unfold Format.mantissaBits
    omega
  · -- neither mantissa is full, so that both exponents are the least, which is not positive
    have leastFirst := first.full.resolve_left fun h =>
      full (Nat.le_trans h (Nat.le_mul_of_pos_right m hn))
    have leastSecond := second.full.resolve_left fun h =>
      full (Nat.le_trans h (Nat.le_mul_of_pos_left n hm))
    have := minExponent_eq spec
    have := spec.hm
    omega

/-- The logarithm of a quotient is at most one below the difference of the logarithms. -/
theorem log_div {a b : ℚ} (ha : 0 < a) (hb : 0 < b) :
    Int.log 2 a - Int.log 2 b - 1 ≤ Int.log 2 (a / b) := by
  refine (Int.zpow_le_iff_le_log (by norm_num) (div_pos ha hb)).1 ?_
  rw [le_div_iff₀ hb]
  calc ((2 : ℕ) : ℚ) ^ (Int.log 2 a - Int.log 2 b - 1) * b
      ≤ (2 : ℕ) ^ (Int.log 2 a - Int.log 2 b - 1) * (2 : ℕ) ^ (Int.log 2 b + 1) := by
        gcongr
        exact (Int.lt_zpow_succ_log_self (by norm_num) b).le
    _ = (2 : ℕ) ^ Int.log 2 a := by
        rw [← zpow_add₀ (by norm_num)]
        congr 1
        ring
    _ ≤ a := Int.zpow_log_le_self (by norm_num) ha

/-- **Quotients are rounded correctly.** -/
theorem correctlyRounded_div {s t : Sign} {m n : ℕ} {e k : ℤ} {hm : 0 < m} {hn : 0 < n} :
    CorrectlyRounded spec (s / t) (m * 2 ^ e / (n * 2 ^ k))
      (UnpackedFloat.div spec (.finite s m e hm) (.finite t n k hn)) := by
  obtain ⟨g, target⟩ : ∃ g, g = min (e - k)
    (spec.targetExponent (totalExponent m e - totalExponent n k)) := ⟨_, rfl⟩
  obtain ⟨j, shift⟩ : ∃ j, j = (e - k - g).toNat := ⟨_, rfl⟩
  have divided : UnpackedFloat.div spec (.finite s m e hm) (.finite t n k hn) =
      roundWithAccuracy spec (s / t) (m <<< j / n) g (accuracyOfFraction (m <<< j % n) n) := by
    rw [shift, target]
    rfl
  have exponents : e - k = g + j := by omega
  have quotient : ((m <<< j / n : ℕ) : ℚ) + (m <<< j % n : ℕ) / n = (m <<< j : ℕ) / n := by
    have parts : ((m <<< j % n : ℕ) : ℚ) + n * (m <<< j / n : ℕ) = (m <<< j : ℕ) := by
      exact_mod_cast Nat.mod_add_div (m <<< j) n
    rw [← parts]
    field_simp
    ring
  have same : (((m <<< j / n : ℕ) : ℚ) + (m <<< j % n : ℕ) / n) * 2 ^ g =
      m * 2 ^ e / (n * 2 ^ k) := by
    rw [quotient, Nat.shiftLeft_eq, show e = k + (g + j) by omega, zpow_add₀ (by norm_num),
      zpow_add₀ (by norm_num), zpow_natCast]
    push_cast
    field_simp
  have dividend : (0 : ℚ) < m * 2 ^ e := by positivity
  have divisor : (0 : ℚ) < n * 2 ^ k := by positivity
  rw [divided]
  refine CorrectlyRounded.of_eq ?_ same
  refine correctlyRounded_roundWithAccuracy (marks_fraction _ (Nat.mod_lt _ hn)) ?_ ?_ _
  · rw [quotient, Nat.shiftLeft_eq]
    positivity
  · -- the shift leaves one digit to spare, since the quotient may have one digit less than expected
    have digits := log_div dividend divisor
    rw [log_mul_zpow hm le_rfl (by linarith), log_mul_zpow hn le_rfl (by linarith)] at digits
    rw [same]
    refine (target.le.trans (min_le_right _ _)).trans (max_le_max ?_ le_rfl)
    unfold totalExponent
    omega

/-! ## 4. The four operations -/

/-- **A result is the exact one, of whatever sign, correctly rounded.** -/
structure Rounded (spec : Format) (x : ℚ) (u : UnpackedFloat) : Prop where
  finite : u.isFinite = true
  canonical : Canonical spec u
  rounds : Rounds spec x (value u)

theorem CorrectlyRounded.rounded {s : Sign} {x : ℚ} {u : UnpackedFloat}
    (h : CorrectlyRounded spec s x u) (pos : 0 < x) : Rounded spec (signed s x) u := by
  obtain ⟨v, rounds, val⟩ := h.value
  refine ⟨h.finite, h.canonical, ?_⟩
  rw [val]
  cases s with
  | positive => exact .positive pos rounds
  | negative => exact .negative pos rounds

theorem Rounded.of_eq {x y : ℚ} {u : UnpackedFloat} (h : Rounded spec x u) (e : x = y) :
    Rounded spec y u := e ▸ h

/-- What is written already is left alone. -/
theorem rounded_self {u : UnpackedFloat} (canonical : Canonical spec u) (finite : u.isFinite = true) :
    Rounded spec (value u) u := by
  refine ⟨finite, canonical, ?_⟩
  cases u with
  | infinity | notANumber => cases finite
  | zero s => exact .zero
  | finite s m e pos =>
      have rounds := roundsTo_of_mantissa canonical.mantissa canonical.least pos
      have size : (0 : ℚ) < m * 2 ^ e := by positivity
      cases s with
      | positive => exact .positive size rounds
      | negative => exact .negative size rounds

/-- Nor is its opposite changed. -/
theorem rounded_neg {u : UnpackedFloat} (canonical : Canonical spec u) (finite : u.isFinite = true) :
    Rounded spec (-value u) u.neg := by
  cases u with
  | infinity | notANumber => cases finite
  | zero s => exact ⟨rfl, trivial, by simpa [value] using .zero⟩
  | finite s m e pos =>
      have opposite : value (.finite (-s) m e pos) = -value (.finite s m e pos) := by
        cases s <;> simp [value, signed]
      exact (rounded_self (u := .finite (-s) m e pos) canonical rfl).of_eq opposite

/-- Nor is its size. -/
theorem rounded_abs {u : UnpackedFloat} (canonical : Canonical spec u) (finite : u.isFinite = true) :
    Rounded spec |value u| u.abs := by
  cases u with
  | infinity | notANumber => cases finite
  | zero s => exact ⟨rfl, trivial, by simpa [value] using .zero⟩
  | finite s m e pos =>
      have size : value (.finite .positive m e pos) = |value (.finite s m e pos)| :=
        (abs_value_finite s e pos).symm
      exact (rounded_self (u := .finite .positive m e pos) canonical rfl).of_eq size

theorem signed_mul (s t : Sign) (x y : ℚ) : signed (s * t) (x * y) = signed s x * signed t y := by
  cases s <;> cases t <;> simp [signed]

theorem signed_div (s t : Sign) (x y : ℚ) : signed (s / t) (x / y) = signed s x / signed t y := by
  cases s with
  | positive =>
      cases t with
      | positive => rfl
      | negative => exact (div_neg x).symm
  | negative =>
      cases t with
      | positive => exact (neg_div y x).symm
      | negative => exact (neg_div_neg_eq x y).symm

/-- A whole number of steps is rounded correctly, whatever its sign. -/
theorem rounded_normalize (n e : ℤ) (s : Sign) :
    Rounded spec (n * 2 ^ e) (UnpackedFloat.normalize spec n e s) := by
  have step : (0 : ℚ) < 2 ^ e := by positivity
  unfold UnpackedFloat.normalize
  rcases lt_trichotomy n 0 with neg | rfl | pos
  · have size : ((-n).toNat : ℚ) = -n := by exact_mod_cast Int.toNat_of_nonneg (by omega)
    have positive : 0 < (-n).toNat := by omega
    rw [compare_lt_iff_lt.2 neg]
    have rounded : Rounded spec _ _ :=
      (correctlyRounded_round positive e .negative).rounded (by positivity)
    rwa [size, signed, neg_mul, neg_neg] at rounded
  · rw [compare_eq_iff_eq.2 rfl, Int.cast_zero, zero_mul]
    exact ⟨rfl, trivial, .zero⟩
  · have size : (n.toNat : ℚ) = n := by exact_mod_cast Int.toNat_of_nonneg pos.le
    have positive : 0 < n.toNat := by omega
    rw [compare_gt_iff_gt.2 pos]
    have rounded : Rounded spec _ _ :=
      (correctlyRounded_round positive e .positive).rounded (by positivity)
    rwa [size, signed] at rounded

/-- Without a power of ten a decimal is a whole number, rounded with some digits to spare. -/
theorem rounded_ofScientific {n : ℕ} (pos : 0 < n) :
    Rounded spec n (UnpackedFloat.ofScientific spec n 0) := by
  have decimal : UnpackedFloat.ofScientific spec n 0 =
      roundWithAccuracy spec .positive (n <<< spec.mantissaBits) (-spec.mantissaBits) .exact := by
    have low : ¬ (0 : ℤ) > 2 ^ spec.exponentBits := not_lt.2 (by positivity)
    have high : ¬ (0 : ℤ) < -(2 ^ spec.exponentBits + n.log2) := not_lt.2 (neg_nonpos.2 (by positivity))
    unfold UnpackedFloat.ofScientific
    rw [dif_neg pos.ne', if_neg low, if_neg high, if_pos le_rfl]
    show roundWithAccuracy spec .positive (n <<< spec.mantissaBits * 1) (-spec.mantissaBits + 0) .exact = _
    rw [mul_one, add_zero]
  have same : ((n <<< spec.mantissaBits : ℕ) : ℚ) * 2 ^ (-spec.mantissaBits : ℤ) = n := by
    rw [Nat.shiftLeft_eq, zpow_neg, zpow_natCast]
    push_cast
    field_simp
  have rounded : CorrectlyRounded spec .positive n (UnpackedFloat.ofScientific spec n 0) := by
    rw [decimal]
    refine CorrectlyRounded.of_eq ?_ same
    refine correctlyRounded_roundWithAccuracy (marks_exact _) (by simp [Nat.shiftLeft_eq, pos]) ?_ _
    have around : grid spec (n * 2 ^ (0 : ℤ)) = spec.targetExponent (totalExponent n 0) :=
      grid_of_mantissa pos le_rfl (by linarith) 0
    rw [zpow_zero, mul_one] at around
    rw [same, around, Format.targetExponent, totalExponent]
    omega
  exact rounded.rounded (by exact_mod_cast pos)

/-- A mantissa on a finer grid stands for the same number. -/
theorem signed_decreaseExponent (s : Sign) (m : ℕ) {e k : ℤ} (fine : k ≤ e) :
    ((s.apply (decreaseExponent m e k).1 : ℤ) : ℚ) * 2 ^ k = signed s (m * 2 ^ e) := by
  obtain ⟨n, rfl⟩ := Int.le.dest fine
  have shift : (k + n - k).toNat = n := by omega
  have same : ((m <<< n : ℕ) : ℚ) * 2 ^ k = m * 2 ^ (k + n : ℤ) := by
    rw [Nat.shiftLeft_eq, zpow_add₀ (by norm_num), zpow_natCast]
    push_cast
    ring
  simp only [decreaseExponent, shift]
  cases s with
  | positive => exact_mod_cast same
  | negative =>
      rw [signed, ← same, ← neg_mul, Sign.apply]
      push_cast
      rfl

section Operations

variable {u v : UnpackedFloat} (hu : Canonical spec u) (hv : Canonical spec v)
  (finite : u.isFinite = true) (finite' : v.isFinite = true)
include hu hv finite finite'

/-- **Sums are rounded correctly.** -/
theorem rounded_add : Rounded spec (value u + value v) (UnpackedFloat.add spec u v) := by
  cases u with
  | infinity | notANumber => cases finite
  | zero s =>
      cases v with
      | infinity | notANumber => cases finite'
      | zero t => cases s <;> cases t <;> exact ⟨rfl, trivial, by simpa [value] using .zero⟩
      | finite => exact (rounded_self hv rfl).of_eq (zero_add _).symm
  | finite s m e pos =>
      cases v with
      | infinity | notANumber => cases finite'
      | zero => exact (rounded_self hu rfl).of_eq (add_zero _).symm
      | finite t n k pos' =>
          have first := signed_decreaseExponent s m (min_le_left e k)
          have second := signed_decreaseExponent t n (min_le_right e k)
          have sum : Rounded spec _ _ := rounded_normalize
            (s.apply (decreaseExponent m e (min e k)).1 + t.apply (decreaseExponent n k (min e k)).1)
            (min e k) .positive
          rw [Int.cast_add, add_mul, first, second] at sum
          exact sum

/-- **Differences are rounded correctly.** -/
theorem rounded_sub : Rounded spec (value u - value v) (UnpackedFloat.sub spec u v) := by
  cases u with
  | infinity | notANumber => cases finite
  | zero s =>
      cases v with
      | infinity | notANumber => cases finite'
      | zero t => cases s <;> cases t <;> exact ⟨rfl, trivial, by simpa [value] using .zero⟩
      | finite => exact (rounded_neg hv rfl).of_eq (zero_sub _).symm
  | finite s m e pos =>
      cases v with
      | infinity | notANumber => cases finite'
      | zero => exact (rounded_self hu rfl).of_eq (sub_zero _).symm
      | finite t n k pos' =>
          have first := signed_decreaseExponent s m (min_le_left e k)
          have second := signed_decreaseExponent t n (min_le_right e k)
          have difference : Rounded spec _ _ := rounded_normalize
            (s.apply (decreaseExponent m e (min e k)).1 - t.apply (decreaseExponent n k (min e k)).1)
            (min e k) .positive
          rw [Int.cast_sub, sub_mul, first, second] at difference
          exact difference

/-- **Products are rounded correctly, whatever their signs.** -/
theorem rounded_mul : Rounded spec (value u * value v) (UnpackedFloat.mul spec u v) := by
  cases u with
  | infinity | notANumber => cases finite
  | zero s =>
      cases v with
      | infinity | notANumber => cases finite'
      | zero | finite => exact ⟨rfl, trivial, by simpa [value] using .zero⟩
  | finite s m e pos =>
      cases v with
      | infinity | notANumber => cases finite'
      | zero => exact ⟨rfl, trivial, by simpa [value] using .zero⟩
      | finite t n k pos' =>
          have product : Rounded spec _
              (UnpackedFloat.mul spec (.finite s m e pos) (.finite t n k pos')) :=
            (correctlyRounded_mul hu hv).rounded (by positivity)
          exact product.of_eq (signed_mul s t _ _)

/-- **Quotients are rounded correctly, whatever their signs.** -/
theorem rounded_div (nonzero : value v ≠ 0) :
    Rounded spec (value u / value v) (UnpackedFloat.div spec u v) := by
  cases v with
  | infinity | notANumber => cases finite'
  | zero => exact absurd rfl nonzero
  | finite t n k pos' =>
      cases u with
      | infinity | notANumber => cases finite
      | zero => exact ⟨rfl, trivial, by simpa [value] using .zero⟩
      | finite s m e pos =>
          have quotient : Rounded spec _
              (UnpackedFloat.div spec (.finite s m e pos) (.finite t n k pos')) :=
            correctlyRounded_div.rounded (by positivity)
          exact quotient.of_eq (signed_div s t _ _)

end Operations

end PackGuard.Binary
