import PackGuard.Proofs.Number.Order

/-!
# The total order counts the values

Between zero and infinity the bits of a number count the values there are, and the total order counts
them on both sides of zero.

* `totalKey_eq`: the place of a number, counted from zero on the side of its sign.
* `totalKey_lt`: **of two numbers the lesser one comes first in the total order.**
* `totalKey_inj`: **no two values share a place there.**
-/

namespace PackGuard.Binary

open Float.Model (Format UnpackedFloat)
open Float.Model.UnpackedFloat

/-! ## 1. The fields of 32 bits -/

section Fields

variable (b : BitVec 32)

theorem toNat_unpackMantissa :
    (@unpackMantissa .binary32 b).toNat = b.toNat % 2 ^ 23 := by
  simp [unpackMantissa, BitVec.extractLsb, BitVec.extractLsb']

theorem toNat_unpackExponent :
    (@unpackExponent .binary32 b).toNat = b.toNat / 2 ^ 23 % 2 ^ 8 := by
  simp [unpackExponent, BitVec.extractLsb, BitVec.extractLsb', Nat.shiftRight_eq_div_pow]

theorem toNat_unpackSign :
    (@unpackSign .binary32 b).toNat = b.toNat / 2 ^ 31 % 2 := by
  simp [unpackSign, BitVec.extractLsb, BitVec.extractLsb', Nat.shiftRight_eq_div_pow]

end Fields

/-! ## 2. Places -/

/-- So many values away from zero, on the side of a sign. -/
def away : Sign → ℤ → ℤ
  | .positive, n => n
  | .negative, n => -1 - n

/-- The place of a number in the total order. -/
def totalPlace : UnpackedFloat → ℤ
  | .zero s => away s 0
  | .finite s m e _ => away s ((e + 149) * 2 ^ 23 + m)
  | .infinity s => away s (255 * 2 ^ 23)
  | .notANumber => 0

/-- The bits below the sign count the values up to a number. -/
theorem away_unpackSign (b : BitVec 32) :
    away (Sign.ofBitVec (@unpackSign .binary32 b)) (b.toNat % 2 ^ 31 : ℕ) =
      if b.toNat < 2147483648 then (b.toNat : ℤ) else 2147483647 - b.toNat := by
  have sign := toNat_unpackSign b
  have wide := b.isLt
  unfold Sign.ofBitVec
  split
  · next positive =>
      rw [positive] at sign
      simp only [away, BitVec.toNat_ofNat] at *
      split <;> omega
  · next negative =>
      have one : (@unpackSign .binary32 b).toNat ≠ 0 :=
        fun zero => negative (BitVec.eq_of_toNat_eq zero)
      simp only [away] at *
      split <;> omega

theorem totalPlace_unpack (b : BitVec 32)
    (number : (UnpackedFloat.unpack .binary32 b).isNaN = false) :
    totalPlace (UnpackedFloat.unpack .binary32 b) =
      away (Sign.ofBitVec (@unpackSign .binary32 b)) (b.toNat % 2 ^ 31 : ℕ) := by
  have mantissa := toNat_unpackMantissa b
  have exponent := toNat_unpackExponent b
  have wide := b.isLt
  have bias : Format.binary32.exponentBias = 127 := rfl
  revert number
  unfold UnpackedFloat.unpack
  dsimp only
  split
  · next ones =>
      rw [ones] at exponent
      split
      · next zero =>
          intro _
          rw [zero] at mantissa
          refine congrArg (away _) ?_
          simp only [BitVec.reduceNeg, BitVec.toNat_ofNat] at exponent mantissa
          omega
      · exact fun number => Bool.noConfusion number
  · split
    · next zero' =>
        rw [zero'] at exponent ⊢
        split
        · next zero =>
            intro _
            rw [zero] at mantissa
            refine congrArg (away _) ?_
            simp only [BitVec.toNat_ofNat] at exponent mantissa
            omega
        · intro _
          refine congrArg (away _) ?_
          simp only [BitVec.toNat_ofNat] at exponent ⊢
          omega
    · intro _
      refine congrArg (away _) ?_
      rw [toNat_implicit]
      simp only [Nat.cast_add, Nat.cast_pow] at exponent mantissa ⊢
      omega

/-- **The total order counts the values** from zero to a number. -/
theorem totalKey_eq {x : Float32} (number : x.isNaN = false) :
    totalKey x = totalPlace x.toModel.unpack :=
  (away_unpackSign _).symm.trans (totalPlace_unpack x.toBits.toBitVec number).symm

/-- **No two values share a place in the total order.** -/
theorem totalKey_inj {x y : Float32} (same : totalKey x = totalKey y) : x = y := by
  have hx := x.toBits.toNat_lt
  have hy := y.toBits.toNat_lt
  have bits : x.toBits.toNat = y.toBits.toNat := by
    simp only [totalKey] at same
    split at same <;> split at same <;> omega
  exact Float32.toBits_inj.1 (UInt32.toNat_inj.1 bits)

/-! ## 3. Order -/

/-- How a finite number is written, and that it stands between zero and infinity. -/
def Counted : UnpackedFloat → Prop
  | .finite _ m e _ => InFormat .binary32 m e ∧
      0 < (e + 149) * 2 ^ 23 + m ∧ (e + 149) * 2 ^ 23 + m < 255 * 2 ^ 23
  | _ => True

theorem counted_toModel (x : Float32) : Counted x.toModel.unpack := by
  have format := canonical_toModel x
  have small := abs_toRat_lt x
  rw [toRat] at small
  cases unpacked : x.toModel.unpack with
  | notANumber | infinity | zero => trivial
  | finite s m e pos =>
      rw [unpacked] at format small
      rw [abs_value_finite] at small
      have bias : Format.binary32.exponentBias = 127 := rfl
      have most : e + 23 ≤ 127 := exponent_le (by decide) format small
      have mantissa : m < 2 ^ 24 := format.mantissa
      have least : -149 ≤ e := format.least
      exact ⟨format, by omega, by omega⟩

/-- A greater exponent counts more than any mantissa. -/
theorem count_lt {m n : ℕ} {e k : ℤ} (hm : InFormat .binary32 m e) (hn : InFormat .binary32 n k)
    (h : (compare e k).then (compare m n) = .lt) :
    (e + 149) * 2 ^ 23 + m < (k + 149) * 2 ^ 23 + n := by
  have mantissa : m < 2 ^ 24 := hm.mantissa
  have least : -149 ≤ e := hm.least
  have full : 2 ^ 23 ≤ n ∨ k = -149 := hn.full
  rw [Ordering.then_eq_lt, compare_lt_iff_lt, compare_eq_iff_eq, compare_lt_iff_lt] at h
  omega

/-- **Of two numbers the lesser one comes first in the total order.** -/
theorem totalKey_lt {x y : Float32} (h : x < y) : totalKey x < totalKey y := by
  obtain ⟨hx, hy⟩ := isNaN_of_le (le_of_lt h)
  rw [totalKey_eq hx, totalKey_eq hy]
  rw [lt_iff] at h
  have counted := counted_toModel x
  have counted' := counted_toModel y
  generalize x.toModel.unpack = u at *
  generalize y.toModel.unpack = v at *
  rcases u with (s | s) | _ | (s | s) | ⟨s | s, m, e, hm⟩ <;>
    rcases v with (t | t) | _ | (t | t) | ⟨t | t, n, k, hn⟩ <;>
    dsimp only [Counted] at counted counted' <;>
    first
    -- the other order, or none
    | (cases h; done)
    -- on different sides of zero, or one of them at an end
    | (simp only [totalPlace, away]; omega)
    -- on one side of zero
    | exact count_lt counted.1 counted'.1 (Option.some.inj h)
    | have turned := Option.some.inj h
      rw [Ordering.swap_then, ← Std.OrientedCmp.eq_swap, ← Std.OrientedCmp.eq_swap] at turned
      have count := count_lt counted'.1 counted.1 turned
      simp only [totalPlace, away]
      omega

end PackGuard.Binary
