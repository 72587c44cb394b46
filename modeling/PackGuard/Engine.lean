import PackGuard.Alarm
import PackGuard.Pack

/-!
# The safety engine

From a snapshot follow the active faults, the advisories and the allowed current.

* A monitored quantity without a fresh value is a `channelStale` fault; a fresh value outside its
  hard band is the excursion fault of its side; one outside its advisory band is an advisory.
* The allowed current is the nominal maximum times the least derating factor of all monitored
  values, and **zero while there is any fault**.
* Pack voltage and corrected cell sum are compared whenever all of them are fresh. Only this
  comparison remembers anything: how many times in a row it failed.
-/

namespace PackGuard

/-! ## 1. Derating -/

/-- The factor of one side: nothing at or beyond the hard bound, all up to the taper bound, and
    linear in between. The value and both bounds are given as they grow towards the hard bound. -/
def taper (beyond inside : Bool) (distance width : Float32) : Float32 :=
  if beyond then 0 else if inside then distance / width else 1

/-- The factor that the upper bounds allow. -/
def deratingAbove (v : Float32) (l : Limit) : Float32 :=
  match l.max, l.lim.max with
  | none, _ => 1
  | some hard, none => taper (hard ≤ v) false 0 0
  | some hard, some soft => taper (hard ≤ v) (soft < v && soft < hard) (hard - v) (hard - soft)

/-- The factor that the lower bounds allow. -/
def deratingBelow (v : Float32) (l : Limit) : Float32 :=
  match l.min, l.lim.min with
  | none, _ => 1
  | some hard, none => taper (v ≤ hard) false 0 0
  | some hard, some soft => taper (v ≤ hard) (v < soft && hard < soft) (v - hard) (soft - hard)

/-- The fraction of the nominal current that a value allows. -/
def derating (v : Float32) (l : Limit) : Float32 :=
  if v.isFinite then Binary.clamp 0 1 (Binary.lesser (deratingAbove v l) (deratingBelow v l))
  else 0

/-! ## 2. One quantity -/

/-- What an evaluation has found so far. -/
structure Findings where
  faults : FaultSet := .empty
  advisories : AdvisorySet := .empty
  factor : Float32 := 1
deriving DecidableEq, Repr

/-- A value against an upper bound. -/
def exceeds (bound : Option Float32) (v : Float32) : Bool := bound.any (· < v)

/-- A value against a lower bound. -/
def fallsBelow (bound : Option Float32) (v : Float32) : Bool := bound.any (v < ·)

namespace Findings

def addFault (f : Findings) (e : Entity) (kind : FaultKind) (v : Option Float32) : Findings :=
  { f with faults := f.faults.insert ⟨e, kind⟩ v }

def addAdvisory (f : Findings) (e : Entity) (q : Quantity) (kind : AdvisoryKind) (v : Float32) :
    Findings :=
  { f with advisories := f.advisories.insert ⟨e, q, kind⟩ v }

/-- A quantity without a fresh value. -/
def addStale (f : Findings) (e : Entity) (v : Option Float32) : Findings :=
  { f.addFault e .channelStale v with factor := 0 }

/-- The excursions and advisories of a fresh value, and its derating. -/
def addValue (f : Findings) (e : Entity) (q : Quantity) (l : Limit) (v : Float32) : Findings :=
  let f := if exceeds l.max v then f.addFault e (.ofExcursion q .high) (some v) else f
  let f := if fallsBelow l.min v then f.addFault e (.ofExcursion q .low) (some v) else f
  let f := if exceeds l.ext.max v then f.addAdvisory e q .high v else f
  let f := if fallsBelow l.ext.min v then f.addAdvisory e q .low v else f
  { f with factor := Binary.lesser f.factor (derating v l) }

/-- Check one quantity of an entity. -/
def check (f : Findings) (e : Entity) (q : Quantity) (l : Limit) (r : Reading) : Findings :=
  if l.monitored then
    match r with
    | .fresh v => f.addValue e q l v
    | .stale v => f.addStale e (some v)
    | .noData => f.addStale e none
  else f

/-- Check both quantities of a cell. -/
def checkCell (f : Findings) (s : CellSettings) (c : CellReading) : Findings :=
  (f.check (.cell c.index) .voltage s.voltage.limit c.voltage).check
    (.cell c.index) .temperature s.temperature.limit c.temperature

end Findings

/-- Check every quantity of a snapshot. -/
def survey (s : PackSettings) (snap : Snapshot) : Findings :=
  let f : Findings := {}
  let f := f.check .pack .voltage s.voltage.limit snap.voltage
  let f := f.check .pack .current s.current.limit snap.current
  (s.cells.zip snap.cells).foldl (fun f c => f.checkCell c.1 c.2) f

/-! ## 3. The cross-check -/

/-- The sum of the cell voltages, in order, if all are fresh. -/
def cellSum? (cells : List CellReading) : Option Float32 :=
  cells.foldl (fun acc c => acc.bind fun sum => c.voltage.fresh?.map fun v => sum + v) (some 0)

/-- The difference between pack voltage and corrected cell sum, if it can be computed. -/
def divergence? (s : PackSettings) (snap : Snapshot) : Option Float32 :=
  snap.voltage.fresh?.bind fun u =>
    (cellSum? snap.cells).map fun sum => (u - sum * s.cross.correction).abs

/-- The greatest count of diverging evaluations that is kept. -/
def mostDiverging : Nat := UInt32.size - 1

/-- The count after an evaluation: a difference beyond the tolerance adds one, any other starts
    again, and an evaluation without all voltages changes nothing. -/
def countDiverging (s : PackSettings) (count : Nat) : Option Float32 → Nat
  | none => count
  | some delta => if s.cross.tolerance < delta then min (count + 1) mostDiverging else 0

/-! ## 4. Evaluation -/

/-- The result of an evaluation. -/
structure SafetyReport where
  faults : FaultSet
  advisories : AdvisorySet
  /-- The allowed current. -/
  limit : Float32
  divergence : Option Float32
deriving DecidableEq, Repr

/-- The engine: its settings, and how many computable evaluations in a row diverged. -/
structure Engine where
  settings : PackSettings
  diverging : Nat := 0
deriving DecidableEq, Repr

namespace Engine

/-- The allowed current after a survey. -/
def allowedCurrent (s : PackSettings) (f : Findings) : Float32 :=
  if f.faults.isEmpty then s.maxCurrent * f.factor else 0

/-- The advisories with the divergence advisory, if it has lasted long enough. -/
def withDivergence (s : PackSettings) (count : Nat) (delta : Option Float32) (f : Findings) :
    Findings :=
  match delta with
  | some d => if s.cross.cycles.toNat ≤ count then f.addAdvisory .pack .voltage .divergence d else f
  | none => f

/-- Evaluate a snapshot. -/
def evaluate (e : Engine) (snap : Snapshot) : SafetyReport × Engine :=
  let delta := divergence? e.settings snap
  let count := countDiverging e.settings e.diverging delta
  let found := withDivergence e.settings count delta (survey e.settings snap)
  ({ faults := found.faults
     advisories := found.advisories
     limit := allowedCurrent e.settings found
     divergence := delta },
   { e with diverging := count })

end Engine

end PackGuard
