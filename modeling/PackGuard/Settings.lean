import PackGuard.Calibration
import PackGuard.Label

/-!
# The settings a controller runs with

Everything here is resolved: each cell carries its own limits and acquisition parameters, and every
duration is a whole number of milliseconds. `Settings.defect?` is the check that a controller is
built behind; **the first defect in its order is the one reported**.
-/

namespace PackGuard

/-! ## 1. Limits -/

/-- Two bounds, either of which may be absent. -/
structure Band where
  min : Option Float32 := none
  max : Option Float32 := none
deriving DecidableEq, Repr, Inhabited

/-- The envelope of a quantity: the hard bounds, whose violation is a fault; the advisory band
    `ext`; and the band `lim`, outside which the allowed current tapers off. -/
structure Limit where
  min : Option Float32 := none
  max : Option Float32 := none
  ext : Band := {}
  lim : Band := {}
deriving DecidableEq, Repr, Inhabited

/-- A quantity is monitored as soon as one bound is set. -/
def Limit.monitored (l : Limit) : Bool :=
  l.min.isSome || l.max.isSome || l.ext.min.isSome || l.ext.max.isSome ||
    l.lim.min.isSome || l.lim.max.isSome

/-! ## 2. Channels, cells and the pack -/

/-- How a channel is calibrated and smoothed: `samples` sets the smoothing weight unless `decay`,
    in thousandths, gives it directly. -/
structure Acquisition where
  calibration : Calibration := {}
  samples : UInt32 := 1
  decay : Option UInt32 := none
deriving DecidableEq, Repr

/-- One measured quantity of the pack or of a cell. -/
structure QuantitySettings where
  channel : Acquisition := {}
  limit : Limit := {}
deriving DecidableEq, Repr

/-- One cell of the chain. -/
structure CellSettings where
  index : CellIndex
  voltage : QuantitySettings
  temperature : QuantitySettings := {}
  balance : Bool := true
deriving DecidableEq, Repr

/-- The comparison of the pack voltage with the corrected sum of the cell voltages: a difference
    beyond `tolerance` counts, and `cycles` of them in a row are reported. -/
structure CrossCheck where
  correction : Float32 := 1
  tolerance : Float32 := 0.5
  cycles : UInt32 := 3
deriving DecidableEq, Repr

/-- The pack: capacity in ampere-hours, internal resistance in ohms, and its quantities. -/
structure PackSettings where
  capacity : Float32 := 100
  resistance : Float32 := 0
  voltage : QuantitySettings
  current : QuantitySettings
  cross : CrossCheck := {}
  cells : List CellSettings
deriving DecidableEq, Repr

namespace PackSettings

/-- A pack of `n` equal cells whose temperature is not monitored. -/
def uniform (n : Nat) (voltage current cellVoltage : QuantitySettings) : PackSettings where
  voltage := voltage
  current := current
  cells := (List.range n).map fun k => { index := (k + 1).toUInt16, voltage := cellVoltage }

/-- The number of cells, as far as a cell number reaches. -/
def cellCount (p : PackSettings) : CellIndex := p.cells.length.toUInt16

/-- The nominal maximum current. -/
def maxCurrent (p : PackSettings) : Float32 := p.current.limit.max.getD 0

end PackSettings

/-! ## 3. Rhythms, balancing, the contactor, the keep-alive -/

/-- A poll cycle takes `readings` readings of each channel with a `gap` between them and settles for
    `settle` afterwards; a channel that failed in `staleAfter` cycles in a row is stale. -/
structure PollSettings where
  readings : UInt32 := 1
  gap : Nat := 0
  settle : Nat := 0
  staleAfter : UInt32 := 3
deriving DecidableEq, Repr

/-- The time from one cycle to the next, for each cadence. -/
structure Periods where
  pack : Nat := 1000
  cellVoltage : Nat := 2000
  cellTemperature : Nat := 10000
deriving DecidableEq, Repr

def Periods.of (p : Periods) : Cadence → Nat
  | .pack => p.pack
  | .cellVoltage => p.cellVoltage
  | .cellTemperature => p.cellTemperature

/-- Which cells bleed: at least `min` volts, at least `delta` above the lowest cell, at or above the
    fraction `ratio` of the span between lowest and highest, and no more than `most` of them
    (0 for no bound). -/
structure BalanceSettings where
  min : Float32 := 0
  delta : Float32 := 0.01
  most : UInt16 := 0
  ratio : Float32 := 0
deriving DecidableEq, Repr

/-- The times the contactor keeps: `hold` before it closes again, `firstHold` before it closes for
    the first time, at least `minOn` closed and `minOff` open, and `tick` from step to step. -/
structure ContactorSettings where
  hold : Nat := 10000
  firstHold : Nat := 2000
  minOn : Nat := 0
  minOff : Nat := 0
  tick : Nat := 100
deriving DecidableEq, Repr

/-- The keep-alive: how long a renewal lasts (0 turns it off), and the file that keeps the deadline
    across restarts. -/
structure KeepAliveSettings where
  period : Nat := 0
  path : Option String := none
deriving DecidableEq, Repr

/-! ## 4. The whole -/

/-- The settings of a controller. -/
structure Settings where
  pack : PackSettings
  poll : PollSettings := {}
  periods : Periods := {}
  balance : BalanceSettings := {}
  contactor : ContactorSettings := {}
  keepAlive : KeepAliveSettings := {}
deriving DecidableEq, Repr

namespace Settings

/-- What keeps settings from being used. -/
inductive Defect where
  | noCells
  | cellOrder
  | maxCurrent
  | pollCounts
  | tick
  | periods
  | balanceRatio
deriving DecidableEq, Repr

def Defect.message : Defect → String
  | noCells => "pack must have at least one cell"
  | cellOrder => "cells must be indexed 1..=n in order"
  | maxCurrent => "i.max must be > 0"
  | pollCounts => "poll.n and poll.stale must be >= 1"
  | tick => "relay.tick_ms must be >= 1"
  | periods => "poll periods must be > 0"
  | balanceRatio => "balance.r must be in [0, 1]"

/-- Cells numbered upwards from `next`, none left out. -/
def inOrder : Nat → List CellSettings → Bool
  | _, [] => true
  | next, c :: cs => c.index.toNat == next && inOrder (next + 1) cs

/-- Whether each of the conditions on settings is broken, in the order in which they are checked. -/
def checks (s : Settings) : List (Defect × Bool) :=
  [ (.noCells, s.pack.cells.isEmpty),
    (.cellOrder, !inOrder 1 s.pack.cells),
    (.maxCurrent, !(s.pack.maxCurrent.isFinite && 0 < s.pack.maxCurrent)),
    (.pollCounts, s.poll.readings == 0 || s.poll.staleAfter == 0),
    (.tick, s.contactor.tick == 0),
    (.periods, s.periods.pack == 0 || s.periods.cellVoltage == 0 || s.periods.cellTemperature == 0),
    (.balanceRatio, !(0 ≤ s.balance.ratio && s.balance.ratio ≤ 1)) ]

/-- The first defect, if there is one. -/
def defect? (s : Settings) : Option Defect :=
  (s.checks.find? (·.2)).map (·.1)

end Settings

end PackGuard
