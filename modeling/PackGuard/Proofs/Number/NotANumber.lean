import Mathlib
import PackGuard.Number.Binary

/-!
# Where a NaN comes from

Every comparison with a NaN is false, so that what is decided by comparing holds of numbers alone. A
result is a NaN only if an operand is one, two infinities cancel, or zero meets an infinity.

* `isNaN_pack`: packing a value makes no NaN of it.
* `lt_of_not_le`: **of two numbers one is at most the other**.
* `isNaN_lesser`: the lesser of two values is a NaN only if both are.
* `isNaN_mul`, `isNaN_add`, `isNaN_sub`: products of a positive finite number, sums, differences.
* `isFinite_of_add`, `isFinite_of_mul`: **nothing finite comes of what is not**.
-/

namespace PackGuard.Binary

open Float.Model (Format UnpackedFloat)
open Float.Model.UnpackedFloat

/-! ## 1. Packing -/

/-- **Packing makes no NaN.** -/
theorem isNaN_pack {spec : Format} (wide : 2 ≤ spec.exponentBits) {u : UnpackedFloat}
    (number : u.isNaN = false) :
    (UnpackedFloat.unpack spec (UnpackedFloat.pack spec u)).isNaN = false := by
  rw [Bool.eq_false_iff, ne_eq, isNaN_unpack_iff_of_valid valid_pack wide]
  intro packed
  -- the packed NaN has an exponent of ones and a mantissa other than zero
  have bits := @isNaNBits_packedNaN spec
  rw [← packed, isNaNBits, decide_eq_true_eq] at bits
  revert bits
  fun_cases UnpackedFloat.pack with
  | case1 => cases number
  | case2 s => simp [packedInfinity]
  | case3 s => simp [packedZero]
  | case4 s m e hm exponent big => simp [packedInfinity]
  | case5 s m e hm bits exponent small normal =>
      rintro ⟨ones, -⟩
      have big := congrArg BitVec.toNat ones
      simp only [unpackExponent_packComponents, BitVec.neg_one_eq_allOnes, BitVec.toNat_allOnes,
        BitVec.toNat_ofNat] at big
      rw [Nat.mod_eq_of_lt (by omega)] at big
      omega
  | case6 s m e hm bits exponent small subnormal => simp [Nat.ne_of_gt spec.he]

theorem unpack_pack_infinity {spec : Format} (s : Sign) :
    UnpackedFloat.unpack spec (UnpackedFloat.pack spec (.infinity s)) = .infinity s := by
  simp [UnpackedFloat.pack, packedInfinity, UnpackedFloat.unpack]

theorem unpack_pack_notANumber {spec : Format} (wide : 2 ≤ spec.exponentBits) :
    UnpackedFloat.unpack spec (UnpackedFloat.pack spec .notANumber) = .notANumber := by
  have packed : (UnpackedFloat.unpack spec (UnpackedFloat.pack spec .notANumber)).isNaN = true :=
    (isNaN_unpack_iff_of_valid valid_pack wide).2 rfl
  cases unpacked : UnpackedFloat.unpack spec (UnpackedFloat.pack spec .notANumber) with
  | notANumber => rfl
  | infinity | zero | finite => rw [unpacked] at packed; cases packed

/-- Packing makes nothing finite. -/
theorem isFinite_of_pack {spec : Format} (wide : 2 ≤ spec.exponentBits) {u : UnpackedFloat}
    (finite : (UnpackedFloat.unpack spec (UnpackedFloat.pack spec u)).isFinite = true) :
    u.isFinite = true := by
  cases u with
  | zero | finite => rfl
  | infinity => rw [unpack_pack_infinity] at finite; cases finite
  | notANumber => rw [unpack_pack_notANumber wide] at finite; cases finite

/-! ## 2. Order -/

theorem lt_iff {x y : Float32} :
    x < y ↔ x.toModel.unpack.compare y.toModel.unpack = some .lt := by
  change (decide (UnpackedFloat.lt _ _ = true) = true) ↔ _
  simp [UnpackedFloat.lt]

theorem le_iff {x y : Float32} :
    x ≤ y ↔ (x.toModel.unpack.compare y.toModel.unpack).any (·.isLE) = true := by
  change (decide (UnpackedFloat.le _ _ = true) = true) ↔ _
  rw [decide_eq_true_iff, UnpackedFloat.le]

theorem beq_iff {x y : Float32} :
    (x == y) = true ↔ x.toModel.unpack.compare y.toModel.unpack = some .eq := by
  change UnpackedFloat.beq _ _ = true ↔ _
  simp [UnpackedFloat.beq]

/-- Two numbers can be compared. -/
theorem compare_isSome {u v : UnpackedFloat} (hu : u.isNaN = false) (hv : v.isNaN = false) :
    (u.compare v).isSome = true := by
  fun_cases UnpackedFloat.compare u v <;> simp_all [UnpackedFloat.isNaN]

theorem compare_swap (u v : UnpackedFloat) : u.compare v = (v.compare u).map Ordering.swap := by
  rcases u with (s | s) | _ | (s | s) | ⟨s | s, m, e, hm⟩ <;>
    rcases v with (t | t) | _ | (t | t) | ⟨t | t, n, f, hn⟩ <;>
    first
    | rfl
    -- two finite numbers of one sign are compared by exponent and mantissa
    | simp only [UnpackedFloat.compare, Option.map_some, Ordering.swap_then,
        ← Std.OrientedCmp.eq_swap]

/-- **Numbers are in order.** -/
theorem lt_of_not_le {x y : Float32} (hx : x.isNaN = false) (hy : y.isNaN = false)
    (h : ¬ x ≤ y) : y < x := by
  obtain ⟨order, e⟩ := Option.isSome_iff_exists.1 (compare_isSome hx hy)
  rw [lt_iff, compare_swap, e]
  rw [le_iff, e] at h
  cases order with
  | gt => rfl
  | lt | eq => exact absurd rfl h

theorem le_of_not_lt {x y : Float32} (hx : x.isNaN = false) (hy : y.isNaN = false)
    (h : ¬ x < y) : y ≤ x := by
  obtain ⟨order, e⟩ := Option.isSome_iff_exists.1 (compare_isSome hx hy)
  rw [le_iff, compare_swap, e]
  rw [lt_iff, e] at h
  cases order with
  | lt => exact absurd rfl h
  | eq | gt => rfl

theorem not_le_of_lt {x y : Float32} (h : x < y) : ¬ y ≤ x := by
  rw [le_iff, compare_swap, lt_iff.1 h]
  decide

/-- What is finite is a number. -/
theorem isNaN_unpacked_of_isFinite {u : UnpackedFloat} (finite : u.isFinite = true) :
    u.isNaN = false := by
  cases u with
  | notANumber => cases finite
  | infinity | zero | finite => rfl

theorem isNaN_of_isFinite {x : Float32} (finite : x.isFinite = true) : x.isNaN = false :=
  isNaN_unpacked_of_isFinite finite

theorem isNaN_zero : (0 : Float32).isNaN = false := rfl

theorem isNaN_lesser (x y : Float32) : (lesser x y).isNaN = (x.isNaN && y.isNaN) := by
  unfold lesser
  cases hx : x.isNaN with
  | true => simp only [if_true, Bool.true_and]
  | false =>
      simp only [Bool.false_eq_true, if_false, Bool.false_and]
      cases hy : y.isNaN with
      | true => simp only [if_true, hx]
      | false =>
          simp only [Bool.false_eq_true, if_false]
          split
          · exact hy
          · exact hx

/-! ## 3. Arithmetic -/

theorem isNaN_roundWithAccuracy (spec : Format) (s : Sign) (m : Nat) (e : Int) (a : Accuracy) :
    (roundWithAccuracy spec s m e a).isNaN = false := by
  unfold roundWithAccuracy
  dsimp only
  split <;> rfl

theorem isNaN_normalize (spec : Format) (m e : Int) (s : Sign) :
    (UnpackedFloat.normalize spec m e s).isNaN = false := by
  unfold UnpackedFloat.normalize
  split
  · exact isNaN_roundWithAccuracy ..
  · rfl
  · exact isNaN_roundWithAccuracy ..

/-- A positive finite number is written with its sign. -/
theorem unpack_of_pos {w : Float32} (finite : w.isFinite = true) (positive : 0 < w) :
    ∃ m e hm, w.toModel.unpack = .finite .positive m e hm := by
  change w.toModel.unpack.isFinite = true at finite
  rw [lt_iff] at positive
  change UnpackedFloat.compare (.zero .positive) _ = _ at positive
  generalize w.toModel.unpack = u at *
  cases u with
  | infinity | notANumber => cases finite
  | zero => cases positive
  | finite t m e hm =>
      cases t with
      | positive => exact ⟨m, e, hm, rfl⟩
      | negative => cases positive

/-- A positive finite number times a number is a number. -/
theorem isNaN_mul {x y : Float32} (finite : x.isFinite = true) (positive : 0 < x)
    (number : y.isNaN = false) : (x * y).isNaN = false := by
  obtain ⟨m, e, hm, written⟩ := unpack_of_pos finite positive
  refine isNaN_pack (by decide) ?_
  change y.toModel.unpack.isNaN = false at number
  show (UnpackedFloat.mul .binary32 x.toModel.unpack y.toModel.unpack).isNaN = false
  rw [written]
  generalize y.toModel.unpack = v at *
  cases v with
  | notANumber => cases number
  | infinity | zero => rfl
  | finite => exact isNaN_roundWithAccuracy ..

theorem isNaN_abs {x : Float32} (number : x.isNaN = false) : x.abs.isNaN = false := by
  refine isNaN_pack (by decide) ?_
  change x.toModel.unpack.isNaN = false at number
  generalize x.toModel.unpack = u at *
  cases u with
  | notANumber => cases number
  | _ => rfl

/-- The difference of two numbers is a number, unless they are one infinity. -/
theorem isNaN_sub {x y : Float32} (hx : x.isNaN = false) (hy : y.isNaN = false) :
    (x - y).isNaN = false ∨ (x == y) = true := by
  change x.toModel.unpack.isNaN = false at hx
  change y.toModel.unpack.isNaN = false at hy
  rw [beq_iff]
  by_cases number : (UnpackedFloat.sub .binary32 x.toModel.unpack y.toModel.unpack).isNaN = false
  · exact .inl (isNaN_pack (by decide) number)
  · refine .inr ?_
    generalize x.toModel.unpack = u at *
    generalize y.toModel.unpack = v at *
    cases u with
    | notANumber => cases hx
    | infinity s =>
        cases v with
        | notANumber => cases hy
        | infinity t => cases s <;> cases t <;> first | rfl | exact absurd rfl number
        | zero | finite => exact absurd rfl number
    | zero s =>
        cases v with
        | notANumber => cases hy
        | infinity | finite => exact absurd rfl number
        | zero => rfl
    | finite s m e hm =>
        cases v with
        | notANumber => cases hy
        | infinity | zero => exact absurd rfl number
        | finite => exact absurd (isNaN_normalize ..) number

/-- The sum of two numbers is a number, if one of them is finite. -/
theorem isNaN_unpacked_add {spec : Format} {u v : UnpackedFloat} (hu : u.isNaN = false)
    (hv : v.isNaN = false) (finite : u.isFinite = true ∨ v.isFinite = true) :
    (UnpackedFloat.add spec u v).isNaN = false := by
  cases u with
  | notANumber => cases hu
  | infinity s =>
      cases v with
      | notANumber => cases hv
      | infinity t => rcases finite with h | h <;> cases h
      | zero | finite => rfl
  | zero s =>
      cases v with
      | notANumber => cases hv
      | infinity | finite => rfl
      | zero t => cases s <;> cases t <;> rfl
  | finite s m e hm =>
      cases v with
      | notANumber => cases hv
      | infinity | zero => rfl
      | finite => exact isNaN_normalize ..

theorem isNaN_add {x y : Float32} (hx : x.isNaN = false) (hy : y.isNaN = false)
    (finite : x.isFinite = true ∨ y.isFinite = true) : (x + y).isNaN = false :=
  isNaN_pack (by decide) (isNaN_unpacked_add hx hy finite)

/-- A number less a finite one is a number. -/
theorem isNaN_sub_of_finite {x y : Float32} (hx : x.isNaN = false) (finite : y.isFinite = true) :
    (x - y).isNaN = false := by
  refine isNaN_pack (by decide) ?_
  change x.toModel.unpack.isNaN = false at hx
  change y.toModel.unpack.isFinite = true at finite
  generalize x.toModel.unpack = u at *
  generalize y.toModel.unpack = v at *
  cases v with
  | infinity | notANumber => cases finite
  | zero t =>
      cases u with
      | notANumber => cases hx
      | infinity | finite => rfl
      | zero s => cases s <;> cases t <;> rfl
  | finite t n k hn =>
      cases u with
      | notANumber => cases hx
      | infinity | zero => rfl
      | finite => exact isNaN_normalize ..

/-- Products do not depend on the order. -/
theorem product_comm (x y : Float32) : x * y = y * x := by
  have unpacked (u v : UnpackedFloat) :
      UnpackedFloat.mul .binary32 u v = UnpackedFloat.mul .binary32 v u := by
    rcases u with s | _ | s | ⟨s, m, e, hm⟩ <;> rcases v with t | _ | t | ⟨t, n, k, hn⟩ <;>
      try first | rfl | (cases s <;> cases t <;> rfl)
    have signs : s * t = t * s := by cases s <;> cases t <;> rfl
    simp only [UnpackedFloat.mul, signs, Nat.mul_comm m, Int.add_comm e]
  exact congrArg (fun u => Float32.ofModel (.pack u)) (unpacked _ _)

/-! ## 4. What is not finite -/

/-- A number that is not infinite is finite. -/
theorem isFinite_of_not_isInf {x : Float32} (number : x.isNaN = false) (bounded : ¬ x.isInf = true) :
    x.isFinite = true := by
  change x.toModel.unpack.isNaN = false at number
  change ¬ x.toModel.unpack.isInf = true at bounded
  change x.toModel.unpack.isFinite = true
  generalize x.toModel.unpack = u at *
  cases u with
  | zero | finite => rfl
  | notANumber => cases number
  | infinity => exact absurd rfl bounded

/-- An operation that gives nothing finite unless both operands are keeps to that when packed. -/
theorem finite_operands (op : UnpackedFloat → UnpackedFloat → UnpackedFloat)
    (strict : ∀ u v, (op u v).isFinite = true → u.isFinite = true ∧ v.isFinite = true)
    {x y : Float32}
    (finite : (Float32.ofModel (.pack (op x.toModel.unpack y.toModel.unpack))).isFinite = true) :
    x.isFinite = true ∧ y.isFinite = true := by
  have stored : (UnpackedFloat.unpack .binary32 (UnpackedFloat.pack .binary32
    (op x.toModel.unpack y.toModel.unpack))).isFinite = true := finite
  exact strict _ _ (isFinite_of_pack (by decide) stored)

/-- **A finite sum has finite terms.** -/
theorem isFinite_of_add {x y : Float32} (finite : (x + y).isFinite = true) :
    x.isFinite = true ∧ y.isFinite = true := by
  refine finite_operands (UnpackedFloat.add .binary32) (fun u v sum => ?_) finite
  rcases u with s | _ | s | ⟨s, m, e, hm⟩ <;> rcases v with t | _ | t | ⟨t, n, k, hn⟩ <;>
    first
    | exact ⟨rfl, rfl⟩
    | cases sum
    | cases s <;> cases t <;> cases sum

/-- **A finite product has finite factors.** -/
theorem isFinite_of_mul {x y : Float32} (finite : (x * y).isFinite = true) :
    x.isFinite = true ∧ y.isFinite = true := by
  refine finite_operands (UnpackedFloat.mul .binary32) (fun u v product => ?_) finite
  rcases u with s | _ | s | ⟨s, m, e, hm⟩ <;> rcases v with t | _ | t | ⟨t, n, k, hn⟩ <;>
    first
    | exact ⟨rfl, rfl⟩
    | cases product

end PackGuard.Binary
