import PackGuard.Settings

/-!
# The track of a channel

Each channel keeps a decayed running average of its physical values and counts the cycles that
failed since the last good one. From these two facts alone follows what a reader sees:

* no data, as long as there is no average;
* a **stale** value, once `staleAfter` cycles in a row have failed;
* a **fresh** value otherwise.

A result that is no number counts as no data, so a reading never carries a NaN.
-/

namespace PackGuard

/-! ## 1. Smoothing -/

/-- The smoothing weight: `decay` thousandths where it is given, moved into `(0, 1]`; else one part
    in `samples`. -/
def smoothingWeight (samples : UInt32) (decay : Option UInt32) : Float32 :=
  match decay with
  | some d => Binary.clamp Binary.leastNormal 1 (.ofNat d.toNat / 1000)
  | none => 1 / .ofNat (max samples.toNat 1)

/-- One step of the average towards a new value. -/
def smooth (average physical weight : Float32) : Float32 :=
  average + (physical - average) * weight

/-! ## 2. Readings -/

/-- What a reader sees of a channel. -/
inductive Reading where
  | noData
  | fresh (value : Float32)
  | stale (value : Float32)
deriving DecidableEq, Repr, Inhabited

namespace Reading

/-- The value to decide by. -/
def fresh? : Reading → Option Float32
  | fresh v => some v
  | _ => none

/-- The last good value, fresh or not. -/
def last? : Reading → Option Float32
  | fresh v => some v
  | stale v => some v
  | noData => none

def isFresh (r : Reading) : Bool := r.fresh?.isSome

end Reading

/-! ## 3. Tracks -/

/-- The state of one channel. -/
structure Track where
  channel : Channel
  calibration : Calibration
  weight : Float32
  /-- Failures in a row that make the channel stale, at least one. -/
  staleAfter : Nat
  average : Option Float32 := none
  failures : Nat := 0
deriving DecidableEq, Repr

namespace Track

/-- A channel that has not been read yet. -/
def new (channel : Channel) (a : Acquisition) (staleAfter : UInt32) : Track where
  channel := channel
  calibration := a.calibration
  weight := smoothingWeight a.samples a.decay
  staleAfter := max staleAfter.toNat 1

/-- The average after a raw value; the first value, and any after a lost average, seeds it. -/
def next (t : Track) (raw : Float32) : Float32 :=
  let physical := t.calibration.toPhysical raw
  match t.average with
  | none => physical
  | some average => smooth average physical t.weight

/-- Take in a raw value. -/
def applyRaw (t : Track) (raw : Float32) : Track :=
  let value := t.next raw
  { t with average := if value.isNaN then none else some value, failures := 0 }

/-- The greatest count of failures that is kept. -/
def mostFailures : Nat := UInt32.size - 1

/-- Count a failed cycle. -/
def recordFailure (t : Track) : Track :=
  { t with failures := min (t.failures + 1) mostFailures }

/-- Whether the last failure is the one that made the channel stale. -/
def justStale (t : Track) : Bool := t.failures == t.staleAfter

def isStale (t : Track) : Bool := t.staleAfter ≤ t.failures

/-- What a reader sees now. -/
def reading (t : Track) : Reading :=
  match t.average with
  | none => .noData
  | some v => if t.isStale then .stale v else .fresh v

end Track

end PackGuard
