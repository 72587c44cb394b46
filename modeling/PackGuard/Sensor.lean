import PackGuard.Failure

/-!
# Sensor links

A sensor link answers a reading of a channel with a raw count or a fault, and may change by being
read. Two links are given here: a simulated one, which reads from a table of counts, and a scripted
one, which answers each channel from a list.
-/

namespace PackGuard

/-- Something that channels can be read from. -/
class SensorLink (σ : Type) where
  read : σ → Channel → Except LinkFault Int × σ

/-! ## 1. The simulated sensor -/

/-- A table of raw counts, with faults that can be switched on. -/
structure SimulatedSensor where
  counts : List (Channel × Int) := []
  failing : List (Channel × Bool) := []
  linkDown : Bool := false
  /-- How many readings were tried. -/
  reads : Nat := 0
deriving DecidableEq, Repr

namespace SimulatedSensor

def setRaw (s : SimulatedSensor) (ch : Channel) (count : Int) : SimulatedSensor :=
  { s with counts := (ch, count) :: s.counts.filter fun e => e.1 != ch }

def setFailing (s : SimulatedSensor) (ch : Channel) (on : Bool) : SimulatedSensor :=
  { s with failing := (ch, on) :: s.failing.filter fun e => e.1 != ch }

def setLinkDown (s : SimulatedSensor) (down : Bool) : SimulatedSensor := { s with linkDown := down }

/-- What the sensor answers: the dead link comes first, then a failing channel, then one that has
    no count. -/
def answer (s : SimulatedSensor) (ch : Channel) : Except LinkFault Int :=
  if s.linkDown then .error (.device .linkDown)
  else if (s.failing.lookup ch).getD false then .error (.device (.timeout ch))
  else match s.counts.lookup ch with
    | some n => .ok n
    | none => .error (.device (.noSuchChannel ch))

def read (s : SimulatedSensor) (ch : Channel) : Except LinkFault Int × SimulatedSensor :=
  (s.answer ch, { s with reads := s.reads + 1 })

instance : SensorLink SimulatedSensor := ⟨read⟩

end SimulatedSensor

/-! ## 2. The scripted link -/

/-- For each channel the answers to its readings, in order. -/
structure ScriptedLink where
  answers : List (Channel × List (Except LinkFault Int)) := []

namespace ScriptedLink

/-- What a link answers when its script is at its end. -/
def exhausted : LinkFault := .text "script exhausted"

def read (s : ScriptedLink) (ch : Channel) : Except LinkFault Int × ScriptedLink :=
  match s.answers.lookup ch with
  | some (a :: rest) =>
    (a, ⟨s.answers.map fun e => if e.1 == ch then (ch, rest) else e⟩)
  | _ => (.error exhausted, s)

instance : SensorLink ScriptedLink := ⟨read⟩

end ScriptedLink

end PackGuard
