import PackGuard.Config.Schema

/-!
# The check of a configuration

A configuration is checked once, as it is written, with cells merged over the class of all cells.
**The first defect in a fixed order is the one reported**: periods, polling, the pack, the
quantities, balancing, the contactor, the single cells in their order, logging.
-/

namespace PackGuard

/-! ## 1. Defects -/

/-- The two bands inside the hard bounds of a quantity. -/
inductive BandName where
  | lim
  | ext
deriving DecidableEq, Repr

def BandName.label : BandName → String
  | lim => "lim"
  | ext => "ext"

/-- What is wrong with one quantity. -/
inductive QuantityDefect where
  | boundsNotFinite
  | boundsOrder
  | bandNotFinite (band : BandName)
  /-- The upper side of a band is not below the upper bound. -/
  | bandMaxHigh (band : BandName)
  /-- The upper side of a band is not above the lower bound. -/
  | bandMaxLow (band : BandName)
  /-- The lower side of a band is not above the lower bound. -/
  | bandMinLow (band : BandName)
  /-- The lower side of a band is not below the upper bound. -/
  | bandMinHigh (band : BandName)
  | bandOrder (band : BandName)
  | scale
  | offset
  | samples
  | decay
deriving DecidableEq, Repr

/-- The defect of the quantity with a name, in words. -/
def QuantityDefect.message (name : String) : QuantityDefect → String
  | boundsNotFinite => name ++ ".min/max must be finite"
  | boundsOrder => name ++ ".min must be < " ++ name ++ ".max"
  | bandNotFinite b => name ++ "." ++ b.label ++ " must be finite"
  | bandMaxHigh b => name ++ "." ++ b.label ++ ".max must be < " ++ name ++ ".max"
  | bandMaxLow b => name ++ "." ++ b.label ++ ".max must be > " ++ name ++ ".min"
  | bandMinLow b => name ++ "." ++ b.label ++ ".min must be > " ++ name ++ ".min"
  | bandMinHigh b => name ++ "." ++ b.label ++ ".min must be < " ++ name ++ ".max"
  | bandOrder b =>
    name ++ "." ++ b.label ++ ".min must be <= " ++ name ++ "." ++ b.label ++ ".max"
  | scale => name ++ ".scale must be finite and non-zero"
  | offset => name ++ ".offset must be finite"
  | samples => name ++ ".samples must be >= 1"
  | decay => name ++ ".decay must be in [1, 1000]"

/-- What is wrong with a configuration. -/
inductive ConfigDefect where
  | period (name : String)
  | pollReadings
  | pollStale
  | keepAliveTooLong
  | cellCount
  | capacity
  | resistance
  | quantity (name : String) (defect : QuantityDefect)
  | maxCurrent
  | correction
  | tolerance
  | divergenceCycles
  | balanceDelta
  | balanceRatio
  | balanceMin
  | pins (cells : UInt16)
  | tick
  | keepAliveBelowTick
  | cellOutOfRange (index cells : UInt16)
  | cellTwice (index : UInt16)
  | cellScale (index : UInt16)
  | rotation
deriving DecidableEq, Repr

def ConfigDefect.message : ConfigDefect → String
  | period name => name ++ " must be > 0"
  | pollReadings => "poll.n must be >= 1"
  | pollStale => "poll.stale must be >= 1"
  | keepAliveTooLong => "poll.k is unreasonably large (>24h)"
  | cellCount => "pack.n must be in [1, 256]"
  | capacity => "pack.ah must be > 0"
  | resistance => "pack.r must be >= 0"
  | quantity name d => d.message name
  | maxCurrent => "i.max must be set and > 0 (nominal maximum current)"
  | correction => "u.corr must be > 0"
  | tolerance => "u.corr_tol must be >= 0"
  | divergenceCycles => "u.corr_cycles must be >= 1"
  | balanceDelta => "balance.d must be >= 0"
  | balanceRatio => "balance.r must be in [0.0, 1.0]"
  | balanceMin => "balance.min must be finite"
  | pins n => "balance.pins must list one pin per cell (" ++ toString n ++ ")"
  | tick => "relay.tick_ms must be >= 1"
  | keepAliveBelowTick => "poll.k must be >= relay.tick_ms"
  | cellOutOfRange i n =>
    "cells.index " ++ toString i ++ " out of range [1, " ++ toString n ++ "]"
  | cellTwice i => "cells.index " ++ toString i ++ " configured twice"
  | cellScale i => "cells[" ++ toString i ++ "].scale must be finite and non-zero"
  | rotation => "logging.rotation must be one of never|daily|hourly"

/-! ## 2. Quantities -/

/-- The first defect that is present, of a list that says of each whether it is. -/
def firstPresent (checks : List (δ × Bool)) : Option δ := (checks.find? (·.2)).map (·.1)

/-- Whether a bound that is set is finite. -/
def finiteIfSet (x : Option Float32) : Bool := x.all Float32.isFinite

/-- Whether two bounds are both set and stand in a relation. -/
def bothSet (x y : Option Float32) (r : Float32 → Float32 → Bool) : Bool :=
  x.any fun a => y.any fun b => r a b

/-- A scale that is set and cannot be divided by. -/
def badScale (x : Option Float32) : Bool := x.any fun s => !(s.isFinite && !(s == 0))

namespace QuantityConfig

/-- The checks of one band. -/
def bandChecks (q : QuantityConfig) (name : BandName) : Option Band → List (QuantityDefect × Bool)
  | none => []
  | some b =>
    [ (.bandNotFinite name, !(finiteIfSet b.min && finiteIfSet b.max)),
      (.bandMaxHigh name, bothSet b.max q.max fun side bound => bound ≤ side),
      (.bandMaxLow name, bothSet b.max q.min fun side bound => side ≤ bound),
      (.bandMinLow name, bothSet b.min q.min fun side bound => side ≤ bound),
      (.bandMinHigh name, bothSet b.min q.max fun side bound => bound ≤ side),
      (.bandOrder name, bothSet b.min b.max fun low high => high < low) ]

/-- The checks of a quantity, in their order. -/
def checks (q : QuantityConfig) : List (QuantityDefect × Bool) :=
  [ (.boundsNotFinite, !(finiteIfSet q.min && finiteIfSet q.max)),
    (.boundsOrder, bothSet q.min q.max fun low high => high ≤ low) ] ++
  q.bandChecks .lim q.lim ++ q.bandChecks .ext q.ext ++
  [ (.scale, badScale q.scale),
    (.offset, !finiteIfSet q.offset),
    (.samples, q.samples == some 0),
    (.decay, q.decay.any fun d => d < 1 || 1000 < d) ]

/-- The first defect of a quantity. -/
def defect? (q : QuantityConfig) : Option QuantityDefect := firstPresent q.checks

end QuantityConfig

/-! ## 3. Configurations -/

/-- The greatest number of cells. -/
def mostCells : UInt16 := 256

/-- The longest keep-alive period, a day. -/
def longestKeepAlive : Nat := 24 * 60 * 60 * 1000

namespace Config

/-- Whether a value is finite and greater than zero. -/
def positive (x : Float32) : Bool := x.isFinite && 0 < x

/-- Whether a value is finite and not less than zero. -/
def nonNegative (x : Float32) : Bool := x.isFinite && 0 ≤ x

/-- The defect of a named quantity. -/
def quantityDefect? (name : String) (q : QuantityConfig) : Option ConfigDefect :=
  q.defect?.map (.quantity name)

/-- Periods, polling, the pack. -/
def basicDefect? (c : Config) : Option ConfigDefect :=
  firstPresent
    [ (.period "t.voltage", !positive c.periods.voltage),
      (.period "t.cellvoltage", !positive c.periods.cellVoltage),
      (.period "t.celltemperature", !positive c.periods.cellTemperature),
      (.pollReadings, c.poll.readings == 0),
      (.pollStale, c.poll.stale == 0),
      (.keepAliveTooLong, longestKeepAlive < c.poll.keepAlive),
      (.cellCount, c.pack.cells == 0 || mostCells < c.pack.cells),
      (.capacity, !positive c.pack.capacity),
      (.resistance, !nonNegative c.pack.resistance) ]

/-- The four quantities. -/
def quantitiesDefect? (c : Config) : Option ConfigDefect :=
  quantityDefect? "u" c.voltage <|> quantityDefect? "i" c.current <|>
    quantityDefect? "cell.u" c.cellVoltage <|> quantityDefect? "cell.temp" c.cellTemperature

/-- The nominal current, the cross-check, balancing, the contactor. -/
def deviceDefect? (c : Config) : Option ConfigDefect :=
  firstPresent
    [ (.maxCurrent, !c.current.max.any (0 < ·)),
      (.correction, !positive c.cross.correction),
      (.tolerance, !nonNegative c.cross.tolerance),
      (.divergenceCycles, c.cross.cycles == 0),
      (.balanceDelta, !nonNegative c.balance.delta),
      (.balanceRatio, !(0 ≤ c.balance.ratio && c.balance.ratio ≤ 1)),
      (.balanceMin, !c.balance.min.isFinite),
      (.pins c.pack.cells,
        !c.balance.pins.isEmpty && c.balance.pins.length != c.pack.cells.toNat),
      (.tick, c.relay.tick == 0),
      (.keepAliveBelowTick, 0 < c.poll.keepAlive && c.poll.keepAlive < c.relay.tick) ]

/-- The name of a single cell's table. -/
def cellName (index : UInt16) (quantity : String) : String :=
  "cells[" ++ toString index ++ "]." ++ quantity

/-- One single cell, behind others with the numbers given. -/
def cellDefect? (c : Config) (seen : List UInt16) (o : CellOverride) : Option ConfigDefect :=
  firstPresent
    [ (.cellOutOfRange o.index c.pack.cells, o.index == 0 || c.pack.cells < o.index),
      (.cellTwice o.index, seen.contains o.index) ] <|>
  (o.voltage.bind fun q => quantityDefect? (cellName o.index "u") (q.or c.cellVoltage)) <|>
  (o.temperature.bind fun q =>
    quantityDefect? (cellName o.index "temp") (q.or c.cellTemperature)) <|>
  firstPresent [(.cellScale o.index, badScale o.scale)]

/-- The single cells in their order. -/
def cellsDefect? (c : Config) : List UInt16 → List CellOverride → Option ConfigDefect
  | _, [] => none
  | seen, o :: rest => c.cellDefect? seen o <|> c.cellsDefect? (o.index :: seen) rest

/-- The ways in which a log file can be renewed. -/
def rotations : List String := ["never", "daily", "hourly"]

/-- The first defect of a configuration, if it has one. -/
def defect? (c : Config) : Option ConfigDefect :=
  c.basicDefect? <|> c.quantitiesDefect? <|> c.deviceDefect? <|> c.cellsDefect? [] c.cells <|>
    firstPresent [(.rotation, c.logging.rotation.any fun r => !rotations.contains r)]

end Config

end PackGuard
