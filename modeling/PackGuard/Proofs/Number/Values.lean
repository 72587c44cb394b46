import PackGuard.Proofs.Number.NotANumber

/-!
# The exact values of binary numbers

A finite binary number is the rational number `± m · 2^e`. Of the many ways to write it a format has
one, the canonical one, in which exponents and mantissas compare like values.

* `Canonical`: what a format can write, but for the greatest exponent.
* `compare_eq`: **finite canonical numbers compare like their exact values**.
* `canonical_unpack`, `unpack_pack`: what comes out of a packed number is canonical, and what goes in
  comes out again unless it is too great.
* `lt_iff_toRat`, `le_iff_toRat`: the order of finite 32-bit numbers.
* `clamp_mem`: a clamp moves any number into its interval.
-/

namespace PackGuard.Binary

open Float.Model (Format UnpackedFloat totalExponent)
open Float.Model.UnpackedFloat

/-! ## 1. Values -/

/-- A value with a sign. -/
def signed : Sign → ℚ → ℚ
  | .negative, v => -v
  | .positive, v => v

/-- The exact value of a finite number; what is not finite counts as zero. -/
def value : UnpackedFloat → ℚ
  | .finite s m e _ => signed s (m * 2 ^ e)
  | _ => 0

/-- A mantissa with an exponent as a format writes them: the mantissa is full, unless the exponent is
    the least. -/
structure InFormat (spec : Format) (m : ℕ) (e : ℤ) : Prop where
  mantissa : m < 2 ^ spec.mantissaBits
  least : spec.minExponent ≤ e
  full : 2 ^ spec.mantissaBitsWithoutImplicit ≤ m ∨ e = spec.minExponent

/-- What is written as a format writes it. The exponent may still be too great for the format. -/
def Canonical (spec : Format) : UnpackedFloat → Prop
  | .finite _ m e _ => InFormat spec m e
  | _ => True

/-! ## 2. Order -/

section Order

variable {spec : Format} {m n : ℕ} {e k : ℤ}

/-- With a greater exponent the value is greater, whatever the mantissas. -/
theorem lt_of_exponent_lt (hm : InFormat spec m e) (hn : InFormat spec n k) (h : e < k) :
    (m : ℚ) * 2 ^ e < n * 2 ^ k := by
  have below : (m : ℚ) < 2 ^ spec.mantissaBits := by exact_mod_cast hm.mantissa
  have above : (2 : ℚ) ^ spec.mantissaBitsWithoutImplicit ≤ n := by
    exact_mod_cast hn.full.resolve_right (hm.least.trans_lt h).ne'
  have exponents : spec.mantissaBits + e ≤ spec.mantissaBitsWithoutImplicit + k := by
    unfold Format.mantissaBits
    omega
  calc (m : ℚ) * 2 ^ e < 2 ^ spec.mantissaBits * 2 ^ e := by gcongr
    _ = 2 ^ (spec.mantissaBits + e) := by rw [zpow_add₀ (by norm_num), zpow_natCast]
    _ ≤ 2 ^ (spec.mantissaBitsWithoutImplicit + k) := zpow_le_zpow_right₀ (by norm_num) exponents
    _ = 2 ^ spec.mantissaBitsWithoutImplicit * 2 ^ k := by rw [zpow_add₀ (by norm_num), zpow_natCast]
    _ ≤ n * 2 ^ k := by gcongr

/-- Exponents first and then mantissas compare like values. -/
theorem compare_magnitude (hm : InFormat spec m e) (hn : InFormat spec n k) :
    (compare e k).then (compare m n) = compare ((m : ℚ) * 2 ^ e) (n * 2 ^ k) := by
  rcases lt_trichotomy e k with h | rfl | h
  · rw [compare_lt_iff_lt.2 h, compare_lt_iff_lt.2 (lt_of_exponent_lt hm hn h)]
    rfl
  · have step : (0 : ℚ) < 2 ^ e := by positivity
    rw [compare_eq_iff_eq.2 rfl]
    show compare m n = _
    rcases lt_trichotomy m n with h | rfl | h
    · rw [compare_lt_iff_lt.2 h, compare_lt_iff_lt.2 (by gcongr)]
    · rw [compare_eq_iff_eq.2 rfl, compare_eq_iff_eq.2 rfl]
    · rw [compare_gt_iff_gt.2 h, compare_gt_iff_gt.2 (by gcongr)]
  · rw [compare_gt_iff_gt.2 h, compare_gt_iff_gt.2 (lt_of_exponent_lt hn hm h)]
    rfl

theorem compare_neg (a b : ℚ) : compare (-a) (-b) = (compare a b).swap := by
  rcases lt_trichotomy a b with h | rfl | h
  · rw [compare_lt_iff_lt.2 h, compare_gt_iff_gt.2 (neg_lt_neg h)]
    rfl
  · rw [compare_eq_iff_eq.2 rfl, compare_eq_iff_eq.2 rfl]
    rfl
  · rw [compare_gt_iff_gt.2 h, compare_lt_iff_lt.2 (neg_lt_neg h)]
    rfl

/-- **Finite canonical numbers compare like their values.** -/
theorem compare_eq {u v : UnpackedFloat} (hu : Canonical spec u) (hv : Canonical spec v)
    (finite : u.isFinite = true) (finite' : v.isFinite = true) :
    u.compare v = some (compare (value u) (value v)) := by
  cases u with
  | infinity | notANumber => cases finite
  | zero s =>
      cases v with
      | infinity | notANumber => cases finite'
      | zero t => rfl
      | finite t n k pos =>
          have size : (0 : ℚ) < n * 2 ^ k := by positivity
          cases t with
          | negative => exact congrArg some (compare_gt_iff_gt.2 (neg_lt_zero.2 size)).symm
          | positive => exact congrArg some (compare_lt_iff_lt.2 size).symm
  | finite s m e pos =>
      have size : (0 : ℚ) < m * 2 ^ e := by positivity
      cases v with
      | infinity | notANumber => cases finite'
      | zero t =>
          cases s with
          | negative => exact congrArg some (compare_lt_iff_lt.2 (neg_lt_zero.2 size)).symm
          | positive => exact congrArg some (compare_gt_iff_gt.2 size).symm
      | finite t n k pos' =>
          have size' : (0 : ℚ) < n * 2 ^ k := by positivity
          have magnitudes := compare_magnitude hu hv
          cases s with
          | negative =>
              cases t with
              | negative =>
                  exact congrArg some ((congrArg Ordering.swap magnitudes).trans
                    (compare_neg _ _).symm)
              | positive =>
                  exact congrArg some (compare_lt_iff_lt.2 ((neg_lt_zero.2 size).trans size')).symm
          | positive =>
              cases t with
              | negative =>
                  exact congrArg some (compare_gt_iff_gt.2 ((neg_lt_zero.2 size').trans size)).symm
              | positive => exact congrArg some magnitudes

/-- Only zero is written in two ways. -/
theorem unpacked_inj {u v : UnpackedFloat} (hu : Canonical spec u) (hv : Canonical spec v)
    (finite : u.isFinite = true) (finite' : v.isFinite = true) (same : value u = value v)
    (nonzero : value u ≠ 0) : u = v := by
  have equal : UnpackedFloat.beq u v = true := by
    rw [UnpackedFloat.beq, compare_eq hu hv finite finite', compare_eq_iff_eq.2 same]
    rfl
  obtain ⟨-, -, unpacked | ⟨zero, -⟩ | ⟨zero, -⟩⟩ := (beq_iff_ne_notANumber_and_eq _ _).1 equal
  · exact unpacked
  · exact absurd (by rw [zero]; rfl) nonzero
  · exact absurd (by rw [zero]; rfl) nonzero

end Order

/-! ## 3. Packed numbers -/

section Packing

variable {spec : Format}

/-- The least exponent is the one of the packed exponent 1. -/
theorem minExponent_eq (spec : Format) :
    spec.minExponent = 1 - spec.exponentBias - spec.mantissaBitsWithoutImplicit := by
  have one : 1 ≤ 2 ^ (spec.exponentBits - 1) := Nat.one_le_two_pow
  unfold Format.minExponent Format.exponentBias Format.mantissaBits
  push_cast [one]
  ring

/-- The packed exponents reach up to twice the bias and one more. -/
theorem two_pow_exponentBits (spec : Format) : 2 ^ spec.exponentBits = 2 * spec.exponentBias + 2 := by
  have one : 1 ≤ 2 ^ (spec.exponentBits - 1) := Nat.one_le_two_pow
  have split : spec.exponentBits = spec.exponentBits - 1 + 1 := by have := spec.he; omega
  unfold Format.exponentBias
  rw [split, pow_succ]
  simp only [Nat.add_sub_cancel]
  omega

theorem two_pow_mantissaBits (spec : Format) :
    2 ^ spec.mantissaBits = 2 * 2 ^ spec.mantissaBitsWithoutImplicit := by
  rw [Format.mantissaBits, pow_add, pow_one]

/-- The implicit bit stands above the mantissa. -/
theorem toNat_implicit {f : ℕ} (m : BitVec f) : (1#1 ++ m).toNat = 2 ^ f + m.toNat := by
  rw [BitVec.toNat_append, ← Nat.shiftLeft_add_eq_or_of_lt m.isLt]
  simp [Nat.shiftLeft_eq]

/-- What comes out of a packed number is canonical. -/
theorem canonical_unpack (b : BitVec spec.numBits) : Canonical spec (unpack spec b) := by
  unfold UnpackedFloat.unpack
  dsimp only
  have mantissa : (unpackMantissa b).toNat < 2 ^ spec.mantissaBitsWithoutImplicit :=
    (unpackMantissa b).isLt
  have whole := two_pow_mantissaBits spec
  split
  · split
    · exact trivial
    · exact trivial
  · split
    · split
      · exact trivial
      · next zero _ =>
          -- subnormal
          rw [zero]
          have e := minExponent_eq spec
          refine ⟨by omega, ?_, .inr ?_⟩ <;> simp only [BitVec.toNat_zero] <;> omega
    · next normal =>
        have pos : 0 < (unpackExponent b).toNat :=
          Nat.pos_of_ne_zero fun zero => normal (BitVec.eq_of_toNat_eq zero)
        have e := minExponent_eq spec
        refine ⟨?_, by omega, .inl ?_⟩ <;> rw [toNat_implicit] <;> omega

@[simp] theorem ofBitVec_toBitVec (s : Sign) : Sign.ofBitVec s.toBitVec = s := by
  cases s <;> rfl

/-- A packed exponent of ones is greater than any that is in use. -/
theorem ne_ones {e : BitVec spec.exponentBits} (h : e.toNat < 2 * spec.exponentBias + 1) :
    e ≠ -1#_ := by
  rintro rfl
  rw [BitVec.neg_one_eq_allOnes, BitVec.toNat_allOnes, two_pow_exponentBits] at h
  omega

/-- A number whose exponent is in use is small enough for the format. -/
theorem lt_of_exponent_le {m : ℕ} {e : ℤ} (short : m < 2 ^ spec.mantissaBits)
    (fits : e + spec.mantissaBitsWithoutImplicit ≤ spec.exponentBias) :
    (m : ℚ) * 2 ^ e < 2 ^ (spec.exponentBias + 1) := by
  have below : (m : ℚ) < 2 ^ spec.mantissaBits := by exact_mod_cast short
  have exponents : spec.mantissaBits + e ≤ (spec.exponentBias + 1 : ℕ) := by
    unfold Format.mantissaBits
    omega
  calc (m : ℚ) * 2 ^ e < 2 ^ spec.mantissaBits * 2 ^ e := by gcongr
    _ = 2 ^ (spec.mantissaBits + e) := by rw [zpow_add₀ (by norm_num), zpow_natCast]
    _ ≤ 2 ^ ((spec.exponentBias + 1 : ℕ) : ℤ) := zpow_le_zpow_right₀ (by norm_num) exponents
    _ = 2 ^ (spec.exponentBias + 1) := zpow_natCast _ _

/-- The size of a finite number is that of its mantissa and exponent. -/
theorem abs_value_finite (s : Sign) {m : ℕ} (e : ℤ) (pos : 0 < m) :
    |value (.finite s m e pos)| = m * 2 ^ e := by
  have size : (0 : ℚ) < m * 2 ^ e := by positivity
  cases s with
  | positive => rw [value, signed, abs_of_pos size]
  | negative => rw [value, signed, abs_neg, abs_of_pos size]

/-- **Every packed number is small enough for the format.** -/
theorem abs_value_unpack_lt (wide : 1 ≤ spec.exponentBias) (b : BitVec spec.numBits) :
    |value (unpack spec b)| < 2 ^ (spec.exponentBias + 1) := by
  have small' : |(0 : ℚ)| < 2 ^ (spec.exponentBias + 1) := by
    rw [abs_zero]
    positivity
  have mantissa : (unpackMantissa b).toNat < 2 ^ spec.mantissaBitsWithoutImplicit :=
    (unpackMantissa b).isLt
  have whole := two_pow_mantissaBits spec
  unfold UnpackedFloat.unpack
  dsimp only
  split
  · split <;> exact small'
  · next inUse =>
      have most : (unpackExponent b).toNat ≤ 2 * spec.exponentBias := by
        have range := (unpackExponent b).isLt
        have greatest : (unpackExponent b).toNat ≠ 2 ^ spec.exponentBits - 1 := fun ones =>
          inUse (BitVec.eq_of_toNat_eq (by
            rw [ones, BitVec.neg_one_eq_allOnes, BitVec.toNat_allOnes]))
        rw [two_pow_exponentBits] at range greatest
        omega
      split
      · next zero =>
          split
          · exact small'
          · rw [abs_value_finite]
            refine lt_of_exponent_le (by omega) ?_
            rw [zero, BitVec.toNat_zero]
            omega
      · rw [abs_value_finite]
        exact lt_of_exponent_le (by rw [toNat_implicit]; omega) (by omega)

/-- A number that is small enough for the format has an exponent that is. -/
theorem exponent_le {m : ℕ} {e : ℤ} (wide : 1 ≤ spec.exponentBias) (h : InFormat spec m e)
    (small : (m : ℚ) * 2 ^ e < 2 ^ (spec.exponentBias + 1)) :
    e + spec.mantissaBitsWithoutImplicit ≤ spec.exponentBias := by
  rcases h.full with full | least
  · have below : (2 : ℚ) ^ (spec.mantissaBitsWithoutImplicit + e) <
        2 ^ ((spec.exponentBias : ℤ) + 1) := by
      refine lt_of_le_of_lt ?_ (by exact_mod_cast small)
      rw [zpow_add₀ (by norm_num), zpow_natCast]
      gcongr
      exact_mod_cast full
    have := (zpow_lt_zpow_iff_right₀ (by norm_num)).1 below
    omega
  · have := minExponent_eq spec
    omega

theorem unpack_pack_finite {s : Sign} {m : ℕ} {e : ℤ} {pos : 0 < m} (h : InFormat spec m e)
    (fits : e + spec.mantissaBitsWithoutImplicit ≤ spec.exponentBias) :
    UnpackedFloat.unpack spec (UnpackedFloat.pack spec (.finite s m e pos)) = .finite s m e pos := by
  obtain ⟨biased, packs⟩ : ∃ b : ℕ, b = e + spec.exponentBias + spec.mantissaBitsWithoutImplicit :=
    Int.eq_ofNat_of_zero_le (by have := h.least; have := minExponent_eq spec; omega) |>.imp
      fun _ => Eq.symm
  have range : 1 ≤ biased ∧ biased + 1 < 2 * spec.exponentBias + 2 := by
    have := h.least
    have := minExponent_eq spec
    omega
  have whole := two_pow_mantissaBits spec
  have below := h.mantissa
  unfold UnpackedFloat.pack
  rw [← packs, Int.toNat_natCast, if_neg (by rw [two_pow_exponentBits]; omega)]
  have fullMantissa : m.log2 + 1 = spec.mantissaBits ↔ 2 ^ spec.mantissaBitsWithoutImplicit ≤ m := by
    have low := Nat.le_log2 (k := spec.mantissaBitsWithoutImplicit) pos.ne'
    have high := (Nat.log2_lt pos.ne').2 below
    unfold Format.mantissaBits at high ⊢
    omega
  split
  · next full =>
      have exponent : (BitVec.ofNat spec.exponentBits biased).toNat = biased := by
        rw [BitVec.toNat_ofNat, Nat.mod_eq_of_lt (by rw [two_pow_exponentBits]; omega)]
      have nonzero : BitVec.ofNat spec.exponentBits biased ≠ 0#_ := by
        intro zero
        rw [zero, BitVec.toNat_zero] at exponent
        omega
      have inUse : BitVec.ofNat spec.exponentBits biased ≠ -1#_ := ne_ones (by rw [exponent]; omega)
      have mantissa : (1#1 ++ BitVec.ofNat spec.mantissaBitsWithoutImplicit m).toNat = m := by
        have least := fullMantissa.1 full
        rw [toNat_implicit, BitVec.toNat_ofNat, Nat.mod_eq_sub_mod least, Nat.mod_eq_of_lt (by omega)]
        omega
      unfold UnpackedFloat.unpack
      simp only [unpackMantissa_packComponents, unpackExponent_packComponents,
        unpackSign_packComponents, ofBitVec_toBitVec, inUse, nonzero, if_false,
        exponent, mantissa]
      congr 1
      omega
  · next short =>
      have least := h.full.resolve_left (fun full => short (fullMantissa.2 full))
      have mantissa : (BitVec.ofNat spec.mantissaBitsWithoutImplicit m).toNat = m := by
        have := fullMantissa.not.1 short
        rw [BitVec.toNat_ofNat, Nat.mod_eq_of_lt (by omega)]
      have nonzero : BitVec.ofNat spec.mantissaBitsWithoutImplicit m ≠ 0#_ := by
        intro zero
        rw [zero, BitVec.toNat_zero] at mantissa
        omega
      unfold UnpackedFloat.unpack
      simp only [unpackMantissa_packComponents, unpackExponent_packComponents,
        unpackSign_packComponents, ofBitVec_toBitVec, ne_ones (e := 0#_) (by simp), if_false, if_true,
        nonzero, dite_false, mantissa, BitVec.toNat_zero]
      congr 1
      rw [least, minExponent_eq]
      push_cast
      ring

/-- **What is packed comes out again**, if it is canonical and small enough for the format. -/
theorem unpack_pack {u : UnpackedFloat} (wide : 1 ≤ spec.exponentBias) (canonical : Canonical spec u)
    (finite : u.isFinite = true) (small : |value u| < 2 ^ (spec.exponentBias + 1)) :
    UnpackedFloat.unpack spec (UnpackedFloat.pack spec u) = u := by
  have apart : (0#_ : BitVec spec.exponentBits) ≠ -1#_ := ne_ones (by simp)
  cases u with
  | infinity | notANumber => cases finite
  | zero s =>
      unfold UnpackedFloat.pack packedZero UnpackedFloat.unpack
      simp [apart]
  | finite s m e pos =>
      refine unpack_pack_finite canonical (exponent_le wide canonical ?_)
      rwa [abs_value_finite] at small

/-- **What is too great for the format is packed as an infinity.** -/
theorem unpack_pack_great {u : UnpackedFloat} (canonical : Canonical spec u)
    (finite : u.isFinite = true) (great : 2 ^ (spec.exponentBias + 1) ≤ |value u|) :
    (UnpackedFloat.unpack spec (UnpackedFloat.pack spec u)).isInf = true := by
  cases u with
  | infinity | notANumber => cases finite
  | zero s =>
      change 2 ^ (spec.exponentBias + 1) ≤ |(0 : ℚ)| at great
      rw [abs_zero] at great
      exact absurd great (not_le.2 (by positivity))
  | finite s m e pos =>
      rw [abs_value_finite] at great
      have beyond : spec.exponentBias < e + spec.mantissaBitsWithoutImplicit :=
        not_le.1 fun fits => not_lt.2 great (lt_of_exponent_le canonical.mantissa fits)
      unfold UnpackedFloat.pack
      rw [if_pos (by rw [two_pow_exponentBits]; omega)]
      simp [packedInfinity, UnpackedFloat.unpack, UnpackedFloat.isInf]

end Packing

/-! ## 4. 32-bit numbers -/

/-- The exact value of a finite 32-bit number. -/
def toRat (x : Float32) : ℚ := value x.toModel.unpack

theorem toRat_of_unpack {x : Float32} {s : Sign} {m : ℕ} {e : ℤ} {h : 0 < m}
    (unpacked : x.toModel.unpack = .finite s m e h) : toRat x = signed s (m * 2 ^ e) := by
  rw [toRat, unpacked]
  rfl

theorem canonical_toModel (x : Float32) : Canonical .binary32 x.toModel.unpack := canonical_unpack _

theorem abs_toRat_lt (x : Float32) : |toRat x| < 2 ^ 128 := abs_value_unpack_lt (by decide) _

section Order32

variable {x y : Float32} (hx : x.isFinite = true) (hy : y.isFinite = true)
include hx hy

theorem compare_toRat :
    x.toModel.unpack.compare y.toModel.unpack = some (compare (toRat x) (toRat y)) :=
  compare_eq (canonical_toModel x) (canonical_toModel y) hx hy

/-- **Finite numbers stand in the order of their values.** -/
theorem lt_iff_toRat : x < y ↔ toRat x < toRat y := by
  rw [lt_iff, compare_toRat hx hy, Option.some.injEq, compare_lt_iff_lt]

theorem le_iff_toRat : x ≤ y ↔ toRat x ≤ toRat y := by
  rw [le_iff, compare_toRat hx hy, Option.any_some, Ordering.isLE_iff_ne_gt, ← not_lt,
    ← compare_gt_iff_gt]

theorem beq_iff_toRat : (x == y) = true ↔ toRat x = toRat y := by
  rw [beq_iff, compare_toRat hx hy, Option.some.injEq, compare_eq_iff_eq]

/-- A number other than zero is known by its value. -/
theorem eq_of_toRat (same : toRat x = toRat y) (nonzero : toRat x ≠ 0) : x = y := by
  have unpacked := unpacked_inj (canonical_toModel x) (canonical_toModel y) hx hy same nonzero
  have bits := (unpack_inj_of_valid x.toModel.valid y.toModel.valid).1 unpacked
  exact Float32.toBits_inj.1 (UInt32.toBitVec_inj.1 bits)

/-- Of two finite numbers the lesser one is taken. -/
theorem toRat_lesser :
    (lesser x y).isFinite = true ∧ toRat (lesser x y) = min (toRat x) (toRat y) := by
  simp only [lesser, isNaN_of_isFinite hx, isNaN_of_isFinite hy, Bool.false_eq_true, if_false]
  split
  · next less => exact ⟨hy, (min_eq_right ((lt_iff_toRat hy hx).1 less).le).symm⟩
  · next notLess => exact ⟨hx, (min_eq_left (not_lt.1 fun h => notLess ((lt_iff_toRat hy hx).2 h))).symm⟩

/-- And the greater one likewise. -/
theorem toRat_greater :
    (greater x y).isFinite = true ∧ toRat (greater x y) = max (toRat x) (toRat y) := by
  simp only [greater, isNaN_of_isFinite hx, isNaN_of_isFinite hy, Bool.false_eq_true, if_false]
  split
  · next less => exact ⟨hy, (max_eq_right ((lt_iff_toRat hx hy).1 less).le).symm⟩
  · next notLess => exact ⟨hx, (max_eq_left (not_lt.1 fun h => notLess ((lt_iff_toRat hx hy).2 h))).symm⟩

end Order32

/-- What lies between finite numbers is finite. -/
theorem isFinite_of_between {lo hi x : Float32} (low : lo.isFinite = true) (high : hi.isFinite = true)
    (above : lo ≤ x) (below : x ≤ hi) : x.isFinite = true := by
  change lo.toModel.unpack.isFinite = true at low
  change hi.toModel.unpack.isFinite = true at high
  change x.toModel.unpack.isFinite = true
  rw [le_iff] at above below
  generalize lo.toModel.unpack = l at *
  generalize hi.toModel.unpack = h at *
  generalize x.toModel.unpack = u at *
  cases u with
  | zero | finite => rfl
  | notANumber => cases l <;> cases above
  | infinity s =>
      cases s with
      | positive => cases h <;> first | cases below | cases high
      | negative => cases l <;> first | cases above | cases low

/-- **A clamp moves any number into the interval.** -/
theorem clamp_mem {lo hi x : Float32} (low : lo.isFinite = true) (high : hi.isFinite = true)
    (number : x.isNaN = false) (ordered : lo ≤ hi) :
    (clamp lo hi x).isFinite = true ∧ lo ≤ clamp lo hi x ∧ clamp lo hi x ≤ hi := by
  unfold clamp
  split
  · exact ⟨low, (le_iff_toRat low low).2 le_rfl, ordered⟩
  · next notBelow =>
      split
      · exact ⟨high, ordered, (le_iff_toRat high high).2 le_rfl⟩
      · next notAbove =>
          have above := le_of_not_lt number (isNaN_of_isFinite low) notBelow
          have below := le_of_not_lt (isNaN_of_isFinite high) number notAbove
          exact ⟨isFinite_of_between low high above below, above, below⟩

end PackGuard.Binary
