/-!
# Binary numbers: the conversions the controller needs

Measured values are 32-bit binary numbers, energy is counted in 64-bit ones. Their `+ - * /` and
comparisons are those of the core library, one rounding each. This file fixes the remaining
operations, all through the exact value `± m · 2^e` of a number:

* the two widths into one another (`widen` is exact, `narrow` rounds once, ties to even);
* the nearest whole number, a half going away from zero (`nearestInt?`);
* the lesser and the greater of two values where a NaN never wins (`lesser`, `greater`), the
  restriction to an interval (`clamp`), and the total order in which a NaN has a place too
  (`totalKey`).
-/

namespace PackGuard.Binary

open Float.Model (UnpackedFloat)

/-! ## 1. Between the two widths -/

/-- A 32-bit value as a 64-bit value. Every 32-bit value is one, so nothing is rounded away. -/
def widen (x : Float32) : Float :=
  .ofModel (.pack (match x.toModel.unpack with
    | .finite s m e _ => UnpackedFloat.round .binary64 s m e
    | u => u))

/-- The nearest 32-bit value, ties to even; what lies beyond the largest becomes infinite. -/
def narrow (x : Float) : Float32 :=
  .ofModel (.pack (match x.toModel.unpack with
    | .finite s m e _ => UnpackedFloat.round .binary32 s m e
    | u => u))

/-! ## 2. Whole numbers -/

/-- `m · 2^e` rounded to the nearest natural number, a half going up. -/
def nearestNat (m : Nat) : Int → Nat
  | .ofNat k => m * Nat.pow 2 k
  | .negSucc k => (m + Nat.pow 2 k) / Nat.pow 2 (k + 1)

/-- The nearest whole number of an exact value, a half going away from zero; `none` where there is
    no such number. -/
def nearestOf : UnpackedFloat → Option Int
  | .finite s m e _ => some (s.apply (nearestNat m e))
  | .zero _ => some 0
  | .infinity _ => none
  | .notANumber => none

/-- The whole number nearest to a 32-bit value, a half going away from zero. -/
def nearestInt? (x : Float32) : Option Int := nearestOf x.toModel.unpack

/-- The whole number nearest to a 64-bit value, a half going away from zero. -/
def nearestInt64? (x : Float) : Option Int := nearestOf x.toModel.unpack

/-! ## 3. Order -/

/-- The lesser of two values; a NaN loses against any number. -/
def lesser (a b : Float32) : Float32 :=
  if a.isNaN then b else if b.isNaN then a else if b < a then b else a

/-- The greater of two values; a NaN loses against any number. -/
def greater (a b : Float32) : Float32 :=
  if a.isNaN then b else if b.isNaN then a else if a < b then b else a

/-- The value moved into `[lo, hi]`; a NaN stays a NaN. -/
def clamp (lo hi x : Float32) : Float32 :=
  if x < lo then lo else if hi < x then hi else x

/-- The greater of two 64-bit values; a NaN loses against any number. -/
def greater64 (a b : Float) : Float :=
  if a.isNaN then b else if b.isNaN then a else if a < b then b else a

/-- The 64-bit value moved into `[lo, hi]`; a NaN stays a NaN. -/
def clamp64 (lo hi x : Float) : Float :=
  if x < lo then lo else if hi < x then hi else x

/-- The place of a value in the total order: negative values before positive ones, `-0` just
    before `0`, infinities outside the finite values and the NaN last. -/
def totalKey (x : Float32) : Int :=
  let bits := x.toBits.toNat
  if bits < 2147483648 then bits else 2147483647 - bits

/-- The positive infinity. -/
def infinity : Float32 := .ofBits 0x7f800000

/-- The negative infinity. -/
def negInfinity : Float32 := .ofBits 0xff800000

/-- The value that stands for no number. -/
def nan : Float32 := .ofBits 0x7fc00000

/-- The least positive value of full precision. -/
def leastNormal : Float32 := .ofBits 0x00800000

end PackGuard.Binary
