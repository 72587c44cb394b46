/-!
# What is measured, who is affected, what is wrong

The vocabulary of the whole library. A battery pack is a chain of cells numbered from 1. It has
four kinds of measured **channel**; a **fault** or **advisory** is about an **entity** and has a
kind. Every word of the vocabulary has a label, which is what reports and events show, and
`ofLabel?` reads labels back.
-/

namespace PackGuard

/-- The number of a cell in the chain, from 1. -/
abbrev CellIndex := UInt16

/-- The value of a finite vocabulary that carries a label. -/
def findLabel (all : List α) (label : α → String) (s : String) : Option α :=
  all.find? fun a => label a == s

/-- A cell number in decimal digits. -/
def cellIndex? (cs : List Char) : Option CellIndex :=
  if cs.isEmpty || !cs.all Char.isDigit then none
  else
    let n := cs.foldl (fun n c => 10 * n + (c.toNat - '0'.toNat)) 0
    if n < UInt16.size then some n.toUInt16 else none

/-! ## 1. Channels -/

/-- Something that a sensor measures. -/
inductive Channel where
  | packVoltage
  | packCurrent
  | cellVoltage (cell : CellIndex)
  | cellTemperature (cell : CellIndex)
deriving DecidableEq, Repr

namespace Channel

def label : Channel → String
  | packVoltage => "pack.u"
  | packCurrent => "pack.i"
  | cellVoltage n => "cell" ++ toString n ++ ".u"
  | cellTemperature n => "cell" ++ toString n ++ ".temp"

/-- The label of a cell's channel behind the word `cell`. -/
def ofCellLabel? (cs : List Char) : Option Channel :=
  let digits := cs.takeWhile (· != '.')
  (cellIndex? digits).bind fun n =>
    match String.ofList (cs.drop digits.length) with
    | ".u" => some (cellVoltage n)
    | ".temp" => some (cellTemperature n)
    | _ => none

def ofLabel? (s : String) : Option Channel :=
  if s == "pack.u" then some packVoltage
  else if s == "pack.i" then some packCurrent
  else match s.toList with
    | 'c' :: 'e' :: 'l' :: 'l' :: cs => ofCellLabel? cs
    | _ => none

end Channel

/-! ## 2. Entities and quantities -/

/-- The thing a fault, an advisory or an event is about. -/
inductive Entity where
  | pack
  | cell (index : CellIndex)
  | relay
  | balancer
  | keepAlive
deriving DecidableEq, Repr

namespace Entity

def label : Entity → String
  | pack => "pack"
  | cell n => "cell" ++ toString n
  | relay => "relay"
  | balancer => "balancer"
  | keepAlive => "keepalive"

def ofLabel? (s : String) : Option Entity :=
  match findLabel [pack, relay, balancer, keepAlive] label s with
  | some e => some e
  | none => match s.toList with
    | 'c' :: 'e' :: 'l' :: 'l' :: cs => (cellIndex? cs).map cell
    | _ => none

/-- The place of an entity in reports: the pack, the cells by number, then the devices. -/
def rank : Entity → Nat
  | pack => 0
  | cell n => 1 + n.toNat
  | relay => UInt16.size + 1
  | balancer => UInt16.size + 2
  | keepAlive => UInt16.size + 3

theorem rank_inj {a b : Entity} (h : a.rank = b.rank) : a = b := by
  cases a <;> cases b <;> grind [rank, UInt16.toNat_inj, UInt16.toNat_lt]

end Entity

/-- A monitored physical quantity. -/
inductive Quantity where
  | voltage
  | current
  | temperature
deriving DecidableEq, Repr

namespace Quantity

def all : List Quantity := [voltage, current, temperature]

def label : Quantity → String
  | voltage => "u"
  | current => "i"
  | temperature => "temp"

def ofLabel? : String → Option Quantity := findLabel all label

def rank : Quantity → Nat
  | voltage => 0
  | current => 1
  | temperature => 2

theorem rank_inj {a b : Quantity} (h : a.rank = b.rank) : a = b := by
  cases a <;> cases b <;> simp [rank] at h ⊢

end Quantity

/-! ## 3. Faults and advisories -/

/-- The side of a band on which a value lies. -/
inductive Side where
  | low
  | high
deriving DecidableEq, Repr

/-- What is wrong with an entity. -/
inductive FaultKind where
  | undervoltage
  | overvoltage
  | overcurrent
  | undertemperature
  | overtemperature
  | channelStale
deriving DecidableEq, Repr

namespace FaultKind

def all : List FaultKind :=
  [undervoltage, overvoltage, overcurrent, undertemperature, overtemperature, channelStale]

def label : FaultKind → String
  | undervoltage => "Undervoltage"
  | overvoltage => "Overvoltage"
  | overcurrent => "Overcurrent"
  | undertemperature => "Undertemperature"
  | overtemperature => "Overtemperature"
  | channelStale => "ChannelStale"

def ofLabel? : String → Option FaultKind := findLabel all label

def rank : FaultKind → Nat
  | undervoltage => 0
  | overvoltage => 1
  | overcurrent => 2
  | undertemperature => 3
  | overtemperature => 4
  | channelStale => 5

theorem rank_inj {a b : FaultKind} (h : a.rank = b.rank) : a = b := by
  cases a <;> cases b <;> simp [rank] at h ⊢

/-- The fault of a quantity that left its hard band on a side. Current has one kind for both. -/
def ofExcursion : Quantity → Side → FaultKind
  | .voltage, .low => undervoltage
  | .voltage, .high => overvoltage
  | .current, _ => overcurrent
  | .temperature, .low => undertemperature
  | .temperature, .high => overtemperature

end FaultKind

/-- What is worth a warning without being a fault: a value outside its advisory band, or a pack
    voltage that keeps disagreeing with the sum of the cells. -/
inductive AdvisoryKind where
  | low
  | high
  | divergence
deriving DecidableEq, Repr

namespace AdvisoryKind

def all : List AdvisoryKind := [low, high, divergence]

def label : AdvisoryKind → String
  | low => "Low"
  | high => "High"
  | divergence => "Divergence"

def ofLabel? : String → Option AdvisoryKind := findLabel all label

def rank : AdvisoryKind → Nat
  | low => 0
  | high => 1
  | divergence => 2

theorem rank_inj {a b : AdvisoryKind} (h : a.rank = b.rank) : a = b := by
  cases a <;> cases b <;> simp [rank] at h ⊢

end AdvisoryKind

/-! ## 4. Cadences and positions -/

/-- The independent rhythms in which channels are polled. -/
inductive Cadence where
  | pack
  | cellVoltage
  | cellTemperature
deriving DecidableEq, Repr

namespace Cadence

def all : List Cadence := [pack, cellVoltage, cellTemperature]

def label : Cadence → String
  | pack => "voltage"
  | cellVoltage => "cellvoltage"
  | cellTemperature => "celltemperature"

def ofLabel? : String → Option Cadence := findLabel all label

end Cadence

/-- Where a contactor can be commanded to. -/
inductive Position where
  | opened
  | closed
deriving DecidableEq, Repr

namespace Position

def label : Position → String
  | opened => "open"
  | closed => "closed"

def ofLabel? : String → Option Position := findLabel [opened, closed] label

end Position

end PackGuard
