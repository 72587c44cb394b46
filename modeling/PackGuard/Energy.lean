import PackGuard.Settings

/-!
# Charge and work

Pack samples are integrated over time into charge (ampere-seconds, counted from a full pack,
positive while charging) and work (watt-seconds, less the loss in the internal resistance). A sample
without fresh values only moves the time base, so **a gap in the data is never integrated**.
-/

namespace PackGuard

/-- A duration in nanoseconds as seconds, whole seconds and the fraction rounded apart. -/
def secondsOf (ns : Nat) : Float :=
  .ofNat (ns / 1000000000) + .ofNat (ns % 1000000000) / 1000000000

/-- The energy account of a pack. -/
structure Energy where
  /-- Capacity in ampere-seconds. -/
  capacity : Float
  resistance : Float
  charge : Float := 0
  work : Float := 0
  /-- When the last sample was taken, in nanoseconds. -/
  last : Option Nat := none
deriving DecidableEq, Repr

namespace Energy

/-- A full pack; negative parameters count as zero. -/
def new (ampereHours ohms : Float32) : Energy where
  capacity := Binary.widen (Binary.greater ampereHours 0) * 3600
  resistance := Binary.widen (Binary.greater ohms 0)

/-- Integrate an interval of `dt` seconds at voltage `u` and current `i`. What is not finite, and an
    interval that is not positive, counts for nothing. -/
def integrate (e : Energy) (u i : Float32) (dt : Float) : Energy :=
  if dt.isFinite && 0 < dt && u.isFinite && i.isFinite then
    let u := Binary.widen u
    let i := Binary.widen i
    { e with
      charge := e.charge + i * dt
      work := e.work + (u * i - i * i * e.resistance) * dt }
  else e

/-- Take in a sample of voltage and current at a time, if there is one. -/
def observe (e : Energy) (now : Nat) (sample : Option (Float32 × Float32)) : Energy :=
  let moved := { e with last := some now }
  match e.last, sample with
  | some before, some (u, i) => moved.integrate u i (secondsOf (now - before))
  | _, _ => moved

/-- Add work and charge that were reported from outside; what is not finite counts for nothing. -/
def addWork (e : Energy) (ws ampereSeconds : Float) : Energy :=
  { e with
    work := if ws.isFinite then e.work + ws else e.work
    charge := if ampereSeconds.isFinite then e.charge + ampereSeconds else e.charge }

/-- The state of charge as a fraction, 1 for full. -/
def stateOfCharge (e : Energy) : Float32 :=
  if e.capacity ≤ 0 then 0
  else Binary.narrow (Binary.clamp64 0 1 (1 + e.charge / e.capacity))

end Energy

end PackGuard
