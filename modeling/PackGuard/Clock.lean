import PackGuard.KeepAlive

/-!
# Time

Two times are in use: the running time, which only differences matter of, and the wall clock, which
deadlines that outlive a restart are kept in. A clock is moved by hand; both times move together.
-/

namespace PackGuard

/-- A moment: milliseconds of running time, and wall-clock milliseconds. -/
structure Moment where
  now : Nat
  wall : Nat
deriving DecidableEq, Repr

/-- A clock that started at a wall-clock time and has been moved since. -/
structure Clock where
  origin : Nat := 1700000000000
  elapsed : Nat := 0
deriving DecidableEq, Repr

namespace Clock

def wall (c : Clock) : Nat := addMoments c.origin c.elapsed

def moment (c : Clock) : Moment := ⟨c.elapsed, c.wall⟩

/-- The clock some milliseconds later. -/
def advance (c : Clock) (ms : Nat) : Clock := { c with elapsed := c.elapsed + ms }

/-- The milliseconds since a running time, none if it lies ahead. -/
def since (c : Clock) (time : Nat) : Nat := min (c.elapsed - time) (UInt64.size - 1)

end Clock

end PackGuard
