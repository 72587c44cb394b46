import PackGuard.Proofs.Number.Stored

/-!
# Arithmetic of 32-bit numbers

An operation on finite numbers stores its exact result, rounded once. Only a result that rounding takes
beyond the format is stored as an infinity.

* `Writable`: the numbers that 32 bits can hold.
* `Stores`: what is stored of an exact result.
* `Stores.mem`: **writable bounds on the exact result are bounds on what is stored**.
* `stores_add`, `stores_sub`, `stores_mul`, `stores_div`: the operations.
* `stores_ofNat`, `rounds_ofInt`: whole numbers.
* `sub_near`: **the difference of two numbers that are at most a factor of two apart is exact**.
* `sub_error`: any other difference is moved by half a unit in its last place at most, however small.
-/

namespace PackGuard.Binary

open Float.Model (Format UnpackedFloat totalExponent)
open Float.Model.UnpackedFloat

/-! ## 1. What 32 bits can hold -/

/-- **A number that 32 bits can hold**: rounding leaves it alone, and it is not too great. -/
structure Writable (x : ℚ) : Prop where
  rounds : Rounds .binary32 x x
  small : |x| < 2 ^ 128

/-- What 32 bits can hold fits their format. -/
theorem writable_iff_fits {x : ℚ} : Writable x ↔ Fits .binary32 x :=
  ⟨fun h => ⟨h.rounds, h.small⟩, fun h => ⟨h.rounds, h.small⟩⟩

theorem Writable.neg {x : ℚ} (h : Writable x) : Writable (-x) :=
  ⟨h.rounds.neg, by rw [abs_neg]; exact h.small⟩

theorem writable_zero : Writable 0 := ⟨.zero, by norm_num⟩

/-- A mantissa of 24 digits with an exponent in the range. -/
theorem writable_of_mantissa {n : ℕ} {k : ℤ} (short : n < 2 ^ 24) (least : -149 ≤ k)
    (most : k ≤ 104) : Writable (n * 2 ^ k) :=
  writable_iff_fits.2 (fits_of_mantissa short least (show k + 23 ≤ 127 by omega))

theorem writable_two_zpow {k : ℤ} (least : -149 ≤ k) (most : k ≤ 127) : Writable (2 ^ k) :=
  writable_iff_fits.2 (fits_two_zpow least most)

theorem writable_natCast {n : ℕ} (short : n < 2 ^ 24) : Writable n := by
  simpa using writable_of_mantissa (k := 0) short (by norm_num) (by norm_num)

/-- What is not finite has no value of its own. -/
theorem toRat_of_not_finite {x : Float32} (h : x.isFinite = false) : toRat x = 0 := by
  change x.toModel.unpack.isFinite = false at h
  unfold toRat
  cases unpacked : x.toModel.unpack with
  | finite | zero => rw [unpacked] at h; cases h
  | infinity | notANumber => rfl

/-- **The value of a 32-bit number can be held by 32 bits.** -/
theorem writable_toRat (x : Float32) : Writable (toRat x) :=
  writable_iff_fits.2 (fits_value (by decide) _)

/-! ## 2. What is stored -/

/-- **What is stored of an exact result**: the number that it is rounded to, or an infinity if that is
    too great. -/
inductive Stores (z : Float32) (x : ℚ) : Prop
  | finite (finite : z.isFinite = true) (rounds : Rounds .binary32 x (toRat z))
  | infinite {v : ℚ} (infinite : z.isInf = true) (rounds : Rounds .binary32 x v) (great : 2 ^ 128 ≤ |v|)

theorem not_finite_of_isInf {z : Float32} (infinite : z.isInf = true) : z.isFinite = false := by
  change z.toModel.unpack.isInf = true at infinite
  change z.toModel.unpack.isFinite = false
  cases unpacked : z.toModel.unpack with
  | infinity => rfl
  | notANumber | zero | finite => rw [unpacked] at infinite; cases infinite

/-- What is stored is what is found in the format. -/
theorem stores_iff_stored {z : Float32} {x : ℚ} :
    Stores z x ↔ Stored .binary32 z.toModel.unpack x := by
  constructor
  · rintro (⟨finite, rounds⟩ | ⟨infinite, rounds, great⟩)
    · exact .finite finite rounds
    · exact .infinite infinite rounds great
  · rintro (⟨finite, rounds⟩ | ⟨infinite, rounds, great⟩)
    · exact .finite finite rounds
    · exact .infinite infinite rounds great

/-- Whatever is rounded correctly is stored. -/
theorem Rounded.stores {u : UnpackedFloat} {x : ℚ} (h : Rounded .binary32 x u) :
    Stores (.ofModel (.pack u)) x :=
  stores_iff_stored.2 (h.stored (by decide))

/-- A finite number is what is stored of its value. -/
theorem stores_self {x : Float32} (finite : x.isFinite = true) : Stores x (toRat x) :=
  .finite finite (writable_toRat x).rounds

namespace Stores

variable {z z' : Float32} {x y a b : ℚ}

theorem of_eq (h : Stores z x) (e : x = y) : Stores z y := e ▸ h

theorem rounds_toRat (h : Stores z x) (finite : z.isFinite = true) :
    Rounds .binary32 x (toRat z) :=
  (stores_iff_stored.1 h).rounds_value finite

/-- What is stored is a number. -/
theorem isNaN (h : Stores z x) : z.isNaN = false := (stores_iff_stored.1 h).isNaN

/-- **Writable bounds on the exact result are bounds on what is stored.** -/
theorem mem (h : Stores z x) (low : Writable a) (high : Writable b) (le : a ≤ x) (ge : x ≤ b) :
    z.isFinite = true ∧ a ≤ toRat z ∧ toRat z ≤ b :=
  (stores_iff_stored.1 h).mem (writable_iff_fits.1 low) (writable_iff_fits.1 high) le ge

/-- A writable result is stored as it is. -/
theorem exact (h : Stores z x) (writable : Writable x) : z.isFinite = true ∧ toRat z = x :=
  (stores_iff_stored.1 h).exact (writable_iff_fits.1 writable)

/-- **Beside a finite result a lesser one is finite too**, and not stored as a greater one. -/
theorem abs_le_of_abs_le (h : Stores z x) (h' : Stores z' y) (finite : z'.isFinite = true)
    (le : |x| ≤ |y|) : z.isFinite = true ∧ |toRat z| ≤ |toRat z'| := by
  have bound := (h'.rounds_toRat finite).abs
  cases h with
  | finite finite rounds => exact ⟨finite, rounds.abs.mono bound le⟩
  | infinite _ rounds great =>
      exact absurd (great.trans (rounds.abs.mono bound le)) (not_le.2 (abs_toRat_lt z'))

/-- One exact result is stored in one way, but for the sign of a zero. -/
theorem same (h : Stores z x) (h' : Stores z' x) :
    z.isFinite = z'.isFinite ∧ toRat z = toRat z' := by
  cases finite : z'.isFinite with
  | true =>
      have own := (h.abs_le_of_abs_le h' finite le_rfl).1
      exact ⟨own, (h.rounds_toRat own).unique (h'.rounds_toRat finite)⟩
  | false =>
      have own : z.isFinite = false := by
        by_contra finite'
        rw [Bool.not_eq_false] at finite'
        rw [(h'.abs_le_of_abs_le h finite' le_rfl).1] at finite
        cases finite
      exact ⟨own, by rw [toRat_of_not_finite own, toRat_of_not_finite finite]⟩

end Stores

/-! ## 3. The operations -/

section Operations

variable {x y : Float32} (hx : x.isFinite = true) (hy : y.isFinite = true)
include hx hy

theorem stores_add : Stores (x + y) (toRat x + toRat y) :=
  (rounded_add (canonical_toModel x) (canonical_toModel y) hx hy).stores

theorem stores_sub : Stores (x - y) (toRat x - toRat y) :=
  (rounded_sub (canonical_toModel x) (canonical_toModel y) hx hy).stores

theorem stores_mul : Stores (x * y) (toRat x * toRat y) :=
  (rounded_mul (canonical_toModel x) (canonical_toModel y) hx hy).stores

theorem stores_div (nonzero : toRat y ≠ 0) : Stores (x / y) (toRat x / toRat y) :=
  (rounded_div (canonical_toModel x) (canonical_toModel y) hx hy nonzero).stores

end Operations

theorem toRat_one : toRat 1 = 1 := by
  rw [toRat_of_unpack (s := .positive) (m := 8388608) (e := -23) (h := by decide) rfl]
  norm_num [signed]

theorem toRat_zero : toRat 0 = 0 := rfl

theorem toRat_pos {x : Float32} (finite : x.isFinite = true) (positive : 0 < x) : 0 < toRat x :=
  (lt_iff_toRat (by decide) finite).1 positive

/-! ## 4. Whole numbers -/

/-- A whole number of at most 23 digits is converted at once, any greater one as a decimal. -/
theorem ofNat_eq (n : ℕ) :
    Float32.ofNat n =
      if n < 2 ^ 23 then n.toUInt64.toFloat32 * 1
      else .ofModel (.pack (UnpackedFloat.ofScientific .binary32 n 0)) := by
  show Float32.ofScientific n false 0 = _
  unfold Float32.ofScientific
  by_cases short : n < 2 ^ 23
  · rw [dif_pos ⟨short, by decide⟩, if_pos short]
    rfl
  · rw [dif_neg (fun h => short h.1), if_neg short]
    rfl

theorem stores_toFloat32 {n : ℕ} (short : n < 2 ^ 23) : Stores n.toUInt64.toFloat32 n := by
  have whole : n.toUInt64.toNat = n := by
    rw [Nat.toUInt64_eq, UInt64.toNat_ofNat']
    exact Nat.mod_eq_of_lt (by omega)
  have stored : n.toUInt64.toFloat32 = .ofModel (.pack (UnpackedFloat.ofNat .binary32 n)) := by
    show Float32.ofModel (.pack (UnpackedFloat.ofNat .binary32 n.toUInt64.toNat)) = _
    rw [whole]
  have whole : Rounded .binary32 n (UnpackedFloat.ofNat .binary32 n) :=
    (rounded_normalize n 0 .positive).of_eq (show ((n : ℤ) : ℚ) * 2 ^ (0 : ℤ) = n by simp)
  rw [stored]
  exact whole.stores

/-- **Whole numbers are converted correctly.** -/
theorem stores_ofNat (n : ℕ) : Stores (.ofNat n) n := by
  rw [ofNat_eq]
  split
  · next short =>
      obtain ⟨finite, whole⟩ := (stores_toFloat32 short).exact (writable_natCast (by omega))
      exact (stores_mul finite (by decide)).of_eq (by rw [whole, toRat_one, mul_one])
  · next long =>
      have pos : 0 < n := by omega
      exact (rounded_ofScientific pos).stores

/-- A whole number that fits a mantissa is converted as it is. -/
theorem toRat_ofNat {n : ℕ} (short : n < 2 ^ 24) :
    (Float32.ofNat n).isFinite = true ∧ toRat (.ofNat n) = n :=
  (stores_ofNat n).exact (writable_natCast short)

/-- The opposite of a finite number is finite and has the opposite value. -/
theorem toRat_neg {x : Float32} (finite : x.isFinite = true) :
    (-x).isFinite = true ∧ toRat (-x) = -toRat x :=
  (rounded_neg (canonical_toModel x) finite).stores.exact (writable_toRat x).neg

/-- The size of a finite number is finite and its value's. -/
theorem toRat_abs {x : Float32} (finite : x.isFinite = true) :
    x.abs.isFinite = true ∧ toRat x.abs = |toRat x| := by
  have writable : Writable |toRat x| := by
    rcases abs_choice (toRat x) with e | e
    · rw [e]
      exact writable_toRat x
    · rw [e]
      exact (writable_toRat x).neg
  exact (rounded_abs (canonical_toModel x) finite).stores.exact writable

/-- **Whole numbers of any sign are converted correctly**, and to finite ones up to `2 ^ 127`. -/
theorem rounds_ofInt {n : ℤ} (le : n.natAbs ≤ 2 ^ 127) :
    (Float32.ofInt n).isFinite = true ∧ Rounds .binary32 n (toRat (.ofInt n)) := by
  have natural {k : ℕ} (le : k ≤ 2 ^ 127) :
      (Float32.ofNat k).isFinite = true ∧ Rounds .binary32 k (toRat (.ofNat k)) := by
    have below : (k : ℚ) ≤ 2 ^ (127 : ℤ) := by exact_mod_cast le
    have finite := ((stores_ofNat k).mem writable_zero (writable_two_zpow (by norm_num) le_rfl)
      k.cast_nonneg below).1
    exact ⟨finite, (stores_ofNat k).rounds_toRat finite⟩
  cases n with
  | ofNat k => exact natural le
  | negSucc k =>
      obtain ⟨finite, rounds⟩ := natural (k := k + 1) le
      obtain ⟨finite', opposite⟩ := toRat_neg finite
      refine ⟨finite', ?_⟩
      rw [show toRat (.ofInt (.negSucc k)) = _ from opposite, Int.cast_negSucc]
      exact rounds.neg

/-! ## 5. Numbers near each other -/

/-- A positive finite number is a mantissa in the format with an exponent that is not too great. -/
theorem toRat_of_pos {x : Float32} (pos : 0 < toRat x) :
    ∃ m e, InFormat .binary32 m e ∧ e ≤ 104 ∧ toRat x = m * 2 ^ e := by
  have canonical := canonical_toModel x
  have small := abs_toRat_lt x
  unfold toRat at *
  generalize x.toModel.unpack = u at *
  cases u with
  | infinity | notANumber | zero => exact absurd pos (lt_irrefl _)
  | finite s m e hm =>
      rw [abs_value_finite] at small
      have fits := exponent_le (by decide) (show InFormat .binary32 m e from canonical) small
      have size : (0 : ℚ) < m * 2 ^ e := by positivity
      cases s with
      | positive => exact ⟨m, e, canonical, by change e + 23 ≤ 127 at fits; omega, rfl⟩
      | negative => exact absurd pos (not_lt.2 (neg_nonpos.2 size.le))

/-- The greater of two positive numbers less the lesser one, if it is at most twice that. -/
theorem writable_sub_near {x y : Float32} (pos : 0 < toRat y) (ordered : toRat y ≤ toRat x)
    (near : toRat x ≤ 2 * toRat y) : Writable (toRat x - toRat y) := by
  obtain ⟨n, k, greater, -, hx⟩ := toRat_of_pos (pos.trans_le ordered)
  obtain ⟨m, e, lesser, small, hy⟩ := toRat_of_pos pos
  have exponents : e ≤ k := by
    by_contra less
    rw [hx, hy] at ordered
    exact absurd (lt_of_exponent_lt greater lesser (not_le.1 less)) (not_lt.2 ordered)
  obtain ⟨j, rfl⟩ := Int.le.dest exponents
  have step : (0 : ℚ) < 2 ^ e := by positivity
  have wide : toRat x = (n * 2 ^ j : ℕ) * 2 ^ e := by
    rw [hx, zpow_add₀ (by norm_num), zpow_natCast]
    push_cast
    ring
  -- both are whole numbers of the lesser one's steps, and their difference is at most its mantissa
  rw [wide, hy] at ordered near ⊢
  have above : m ≤ n * 2 ^ j := by exact_mod_cast le_of_mul_le_mul_right ordered step
  have below : n * 2 ^ j ≤ 2 * m := by
    rw [← mul_assoc] at near
    exact_mod_cast le_of_mul_le_mul_right near step
  have short : n * 2 ^ j - m < 2 ^ 24 := by
    have : m < 2 ^ 24 := lesser.mantissa
    omega
  rw [← sub_mul, ← Nat.cast_sub above]
  exact writable_of_mantissa short lesser.least small

/-- **The difference of two positive numbers that are at most a factor of two apart is exact.** -/
theorem sub_near {x y : Float32} (hx : x.isFinite = true) (hy : y.isFinite = true)
    (posX : 0 < toRat x) (posY : 0 < toRat y) (nearX : toRat x ≤ 2 * toRat y)
    (nearY : toRat y ≤ 2 * toRat x) :
    (x - y).isFinite = true ∧ toRat (x - y) = toRat x - toRat y := by
  refine (stores_sub hx hy).exact ?_
  rcases le_total (toRat y) (toRat x) with above | below
  · exact writable_sub_near posY above nearX
  · rw [← neg_sub]
    exact (writable_sub_near posX below nearY).neg

/-- Every 32-bit number is a whole number of least steps. -/
theorem exists_int_toRat (x : Float32) : ∃ n : ℤ, toRat x = n * 2 ^ (-149 : ℤ) := by
  have canonical := canonical_toModel x
  unfold toRat
  generalize x.toModel.unpack = u at canonical ⊢
  cases u with
  | infinity | notANumber | zero => exact ⟨0, by simp [value]⟩
  | finite s m e pos =>
      obtain ⟨n, rfl⟩ := Int.le.dest (show (-149 : ℤ) ≤ e from canonical.least)
      have magnitude : (m : ℚ) * 2 ^ (-149 + n : ℤ) = (m * 2 ^ n : ℕ) * 2 ^ (-149 : ℤ) := by
        rw [zpow_add₀ (by norm_num), zpow_natCast]
        push_cast
        ring
      rw [value, magnitude]
      cases s with
      | positive => exact ⟨(m * 2 ^ n : ℕ), by rw [signed]; norm_cast⟩
      | negative => exact ⟨-(m * 2 ^ n : ℕ), by rw [signed]; push_cast; ring⟩

/-- A difference that is too small for full precision is written out. -/
theorem writable_sub (x y : Float32) (nonneg : 0 ≤ toRat x - toRat y)
    (small : toRat x - toRat y < 2 ^ (-126 : ℤ)) : Writable (toRat x - toRat y) := by
  obtain ⟨n, hn⟩ := exists_int_toRat x
  obtain ⟨k, hk⟩ := exists_int_toRat y
  have steps : toRat x - toRat y = (n - k : ℤ) * 2 ^ (-149 : ℤ) := by
    rw [hn, hk]
    push_cast
    ring
  rw [steps] at nonneg small ⊢
  have whole : 0 ≤ n - k := by
    have := nonneg_of_mul_nonneg_left nonneg (by positivity)
    exact_mod_cast this
  obtain ⟨m, hm⟩ := Int.eq_ofNat_of_zero_le whole
  rw [hm] at small ⊢
  have split : (2 : ℚ) ^ (-126 : ℤ) = 2 ^ 23 * 2 ^ (-149 : ℤ) := by
    rw [← zpow_natCast, ← zpow_add₀ (by norm_num)]
    norm_num
  rw [split] at small
  have short : ((m : ℤ) : ℚ) < 2 ^ 23 := lt_of_mul_lt_mul_right small (by positivity)
  have few : m < 2 ^ 24 := by
    have : (m : ℚ) < (2 ^ 24 : ℕ) := by push_cast at short ⊢; linarith
    exact_mod_cast this
  exact_mod_cast writable_of_mantissa few le_rfl (by norm_num)

/-- **A difference is moved by half a unit in its last place at most**, for it is exact where it is too
    small for full precision. -/
theorem sub_error {x y : Float32} (hx : x.isFinite = true) (hy : y.isFinite = true)
    (finite : (x - y).isFinite = true) :
    |toRat (x - y) - (toRat x - toRat y)| ≤ |toRat x - toRat y| / 2 ^ 24 := by
  have rounds := (stores_sub hx hy).rounds_toRat finite
  rcases lt_or_ge |toRat x - toRat y| (2 ^ (-126 : ℤ)) with small | normal
  · have writable : Writable (toRat x - toRat y) := by
      rcases le_total 0 (toRat x - toRat y) with nonneg | nonpos
      · exact writable_sub x y nonneg ((le_abs_self _).trans_lt small)
      · rw [abs_of_nonpos nonpos, neg_sub] at small
        rw [← neg_sub]
        exact (writable_sub y x (by linarith) small).neg
    rw [rounds.unique writable.rounds, sub_self, abs_zero]
    positivity
  · exact rounds.relative normal

/-- Numbers that are apart have a difference, also once it is rounded. -/
theorem toRat_sub_pos {x y : Float32} (hx : x.isFinite = true) (hy : y.isFinite = true)
    (apart : toRat y < toRat x) (finite : (x - y).isFinite = true) : 0 < toRat (x - y) := by
  have moved := (abs_le.1 (sub_error hx hy finite)).1
  rw [abs_of_pos (sub_pos.2 apart)] at moved
  linarith

end PackGuard.Binary
