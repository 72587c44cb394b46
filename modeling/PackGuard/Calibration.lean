import PackGuard.Number.Binary

/-!
# Raw counts and physical values

A sensor delivers raw counts; a linear calibration turns a count, or an average of counts, into a
physical value (`toPhysical`). `toRaw` goes back to the nearest count, as a simulated sensor needs
it, and **answers only with a count that fits 32 bits**.
-/

namespace PackGuard

/-- `physical = raw · scale + offset`. -/
structure Calibration where
  scale : Float32 := 1
  offset : Float32 := 0
deriving DecidableEq, Repr

namespace Calibration

/-- The physical value of a raw count or of an average of counts. -/
def toPhysical (c : Calibration) (raw : Float32) : Float32 := raw * c.scale + c.offset

/-- A scale that can be divided by. -/
def invertible (c : Calibration) : Bool := c.scale.isFinite && !(c.scale == 0)

/-- The least and the greatest raw count. -/
def leastRaw : Int := -2147483648

/-- The greatest raw count. -/
def greatestRaw : Int := 2147483647

/-- The raw count nearest to a physical value, a half going away from zero. The test of the range
    admits one count more than there is, `2^31`, which counts as the greatest. -/
def toRaw (c : Calibration) (physical : Float32) : Option Int :=
  if c.invertible then
    (Binary.nearestInt? ((physical - c.offset) / c.scale)).bind fun q =>
      if leastRaw ≤ q ∧ q ≤ greatestRaw + 1 then some (min q greatestRaw) else none
  else none

end Calibration

end PackGuard
