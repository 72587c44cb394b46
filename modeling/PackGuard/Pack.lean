import PackGuard.Energy
import PackGuard.Track

/-!
# The state of a pack

The tracks of all channels, the number of completed cycles of each cadence, the energy account, and
for each cell the time at which it was last chosen to bleed. Poll cycles write it, everything else
looks at a `Snapshot` of it. **Every channel that is polled belongs to exactly one cadence**: pack
voltage and current to the first, cell voltages to the second, and those cell temperatures that
have a limit to the third.
-/

namespace PackGuard

/-! ## 1. Cells -/

/-- One cell: its two tracks, whether its temperature is monitored, and when it was last chosen to
    bleed, in wall-clock milliseconds. -/
structure Cell where
  index : CellIndex
  voltage : Track
  temperature : Track
  temperatureMonitored : Bool
  lastBalanced : Option Nat := none
deriving DecidableEq, Repr

/-- The cell, noted as chosen at a time. Time 0 is noted as 1. -/
def Cell.markBalanced (c : Cell) (now : Nat) : Cell :=
  { c with lastBalanced := some (max now 1) }

/-- A cell that has not been read yet. -/
def Cell.new (s : CellSettings) (staleAfter : UInt32) : Cell where
  index := s.index
  voltage := .new (.cellVoltage s.index) s.voltage.channel staleAfter
  temperature := .new (.cellTemperature s.index) s.temperature.channel staleAfter
  temperatureMonitored := s.temperature.limit.monitored

/-! ## 2. Snapshots -/

/-- The number of completed cycles of each cadence. -/
structure Cycles where
  pack : UInt64 := 0
  cellVoltage : UInt64 := 0
  cellTemperature : UInt64 := 0
deriving DecidableEq, Repr

namespace Cycles

def of (c : Cycles) : Cadence → UInt64
  | .pack => c.pack
  | .cellVoltage => c.cellVoltage
  | .cellTemperature => c.cellTemperature

/-- One more cycle of a cadence. -/
def bump (c : Cycles) : Cadence → Cycles
  | .pack => { c with pack := c.pack + 1 }
  | .cellVoltage => { c with cellVoltage := c.cellVoltage + 1 }
  | .cellTemperature => { c with cellTemperature := c.cellTemperature + 1 }

end Cycles

/-- What a reader sees of one cell. -/
structure CellReading where
  index : CellIndex
  voltage : Reading
  temperature : Reading
deriving DecidableEq, Repr

/-- What a reader sees of the pack at one moment. -/
structure Snapshot where
  voltage : Reading
  current : Reading
  cells : List CellReading
  cycles : Cycles := {}
deriving DecidableEq, Repr

/-! ## 3. The pack -/

/-- A place in the pack that has a track; cells are counted by their position in the chain, from
    0, whatever number they carry. -/
inductive Slot where
  | packVoltage
  | packCurrent
  | cellVoltage (position : Nat)
  | cellTemperature (position : Nat)
deriving DecidableEq, Repr

/-- The state of a pack. -/
structure Pack where
  voltage : Track
  current : Track
  cells : List Cell
  cycles : Cycles := {}
  energy : Energy
deriving DecidableEq, Repr

namespace Pack

/-- A pack that has not been read yet. -/
def new (s : PackSettings) (staleAfter : UInt32) : Pack where
  voltage := .new .packVoltage s.voltage.channel staleAfter
  current := .new .packCurrent s.current.channel staleAfter
  cells := s.cells.map fun c => .new c staleAfter
  energy := .new s.capacity s.resistance

/-- The number of cells, as far as a cell number reaches. -/
def cellCount (p : Pack) : CellIndex := p.cells.length.toUInt16

/-- The cell with a number: cell 1 stands first. -/
def cell? (p : Pack) (n : CellIndex) : Option Cell :=
  if n == 0 then none else p.cells[n.toNat - 1]?

/-- The slot of a channel, if the pack has it. -/
def slot? (p : Pack) : Channel → Option Slot
  | .packVoltage => some .packVoltage
  | .packCurrent => some .packCurrent
  | .cellVoltage n => (p.cell? n).map fun _ => .cellVoltage (n.toNat - 1)
  | .cellTemperature n => (p.cell? n).map fun _ => .cellTemperature (n.toNat - 1)

/-- The track in a slot. -/
def track? (p : Pack) : Slot → Option Track
  | .packVoltage => some p.voltage
  | .packCurrent => some p.current
  | .cellVoltage k => (p.cells[k]?).map (·.voltage)
  | .cellTemperature k => (p.cells[k]?).map (·.temperature)

/-- The pack with the track in a slot changed. -/
def modifyTrack (p : Pack) (slot : Slot) (f : Track → Track) : Pack :=
  match slot with
  | .packVoltage => { p with voltage := f p.voltage }
  | .packCurrent => { p with current := f p.current }
  | .cellVoltage k =>
    { p with cells := p.cells.modify k fun c => { c with voltage := f c.voltage } }
  | .cellTemperature k =>
    { p with cells := p.cells.modify k fun c => { c with temperature := f c.temperature } }

/-- The pack with a cell noted as chosen to bleed. -/
def markBalanced (p : Pack) (now : Nat) (n : CellIndex) : Pack :=
  if n == 0 then p else { p with cells := p.cells.modify (n.toNat - 1) (·.markBalanced now) }

/-- The slots that a cadence polls, in polling order. -/
def slots (p : Pack) : Cadence → List Slot
  | .pack => [.packVoltage, .packCurrent]
  | .cellVoltage => (List.range p.cells.length).map .cellVoltage
  | .cellTemperature =>
    (p.cells.zipIdx.filter fun c => c.1.temperatureMonitored).map fun c => .cellTemperature c.2

/-- The channels that a cadence polls, in polling order. -/
def channels (p : Pack) (c : Cadence) : List Channel :=
  (p.slots c).filterMap fun s => (p.track? s).map (·.channel)

/-- The cadences that have anything to poll. -/
def cadences (p : Pack) : List Cadence := Cadence.all.filter fun c => !(p.slots c).isEmpty

/-- Note that a cycle of a cadence is complete. -/
def finishCycle (p : Pack) (c : Cadence) : Pack := { p with cycles := p.cycles.bump c }

/-- What a reader sees now. -/
def snapshot (p : Pack) : Snapshot where
  voltage := p.voltage.reading
  current := p.current.reading
  cells := p.cells.map fun c => ⟨c.index, c.voltage.reading, c.temperature.reading⟩
  cycles := p.cycles

end Pack

end PackGuard
