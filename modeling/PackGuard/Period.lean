import PackGuard.Number.Binary

/-!
# Periods in milliseconds

Periods are configured in seconds and kept in whole milliseconds. **No period is zero**, so that
nothing that repeats after a period can spin.
-/

namespace PackGuard

/-- A period in seconds as whole milliseconds, at least one; what is no positive finite period
    counts as one millisecond. -/
def periodOfSeconds (seconds : Float32) : Nat :=
  if seconds.isFinite && 0 < seconds then
    let ms := (Binary.nearestInt64? (Binary.widen seconds * 1000)).getD 0
    max 1 (min ms.toNat (UInt64.size - 1))
  else 1

/-- The whole milliseconds of a duration. -/
def wholeMilliseconds (seconds nanoseconds : Nat) : Nat :=
  min ((seconds * 1000000000 + nanoseconds) / 1000000) (UInt64.size - 1)

end PackGuard
