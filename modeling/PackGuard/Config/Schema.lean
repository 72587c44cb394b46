import PackGuard.Settings

/-!
# The configuration as it is written

A configuration file sets what differs from the defaults given here. What is not set for a quantity
stays open until it is resolved: a cell inherits from the class of all cells, and only then from the
defaults.
-/

namespace PackGuard

/-- Limits and acquisition of one quantity, as far as they are set. -/
structure QuantityConfig where
  min : Option Float32 := none
  max : Option Float32 := none
  ext : Option Band := none
  lim : Option Band := none
  scale : Option Float32 := none
  offset : Option Float32 := none
  samples : Option UInt32 := none
  decay : Option UInt32 := none
deriving DecidableEq, Repr, Inhabited

/-- What is not set is taken from the defaults. -/
def QuantityConfig.or (q defaults : QuantityConfig) : QuantityConfig where
  min := q.min <|> defaults.min
  max := q.max <|> defaults.max
  ext := q.ext <|> defaults.ext
  lim := q.lim <|> defaults.lim
  scale := q.scale <|> defaults.scale
  offset := q.offset <|> defaults.offset
  samples := q.samples <|> defaults.samples
  decay := q.decay <|> defaults.decay

/-- Poll periods in seconds. -/
structure PeriodConfig where
  voltage : Float32 := 1
  cellVoltage : Float32 := 2
  cellTemperature : Float32 := 10
deriving DecidableEq, Repr, Inhabited

/-- Readings per cycle, the gap between them, the settling time, the keep-alive period and the
    number of failed cycles that make a channel stale; times in milliseconds. -/
structure PollConfig where
  readings : UInt32 := 1
  gap : Nat := 0
  settle : Nat := 0
  keepAlive : Nat := 0
  stale : UInt32 := 3
deriving DecidableEq, Repr, Inhabited

/-- The number of cells, the capacity in ampere-hours and the resistance in ohms. -/
structure PackConfig where
  cells : UInt16 := 1
  capacity : Float32 := 100
  resistance : Float32 := 0
deriving DecidableEq, Repr, Inhabited

/-- Balancing, with an output pin for each cell, or none for simulated resistors. -/
structure BalanceConfig where
  min : Float32 := 0
  delta : Float32 := 0.01
  most : UInt16 := 0
  ratio : Float32 := 0
  pins : List UInt8 := []
deriving DecidableEq, Repr, Inhabited

/-- The contactor: its output pin and level, and its times in milliseconds. -/
structure RelayConfig where
  pin : Option UInt8 := none
  activeHigh : Bool := true
  hold : Nat := 10000
  firstHold : Nat := 2000
  minOn : Nat := 0
  minOff : Nat := 0
  tick : Nat := 100
deriving DecidableEq, Repr, Inhabited

/-- What is set apart for one cell. Its own `scale` and `offset` calibrate the voltage channel over
    everything else. -/
structure CellOverride where
  index : UInt16 := 0
  voltage : Option QuantityConfig := none
  temperature : Option QuantityConfig := none
  scale : Option Float32 := none
  offset : Option Float32 := none
  balance : Option Bool := none
deriving DecidableEq, Repr, Inhabited

/-- Where logs and events go. -/
structure LoggingConfig where
  file : Option String := none
  level : Option String := none
  rotation : Option String := none
  events : Option String := none
deriving DecidableEq, Repr, Inhabited

/-- A configuration. -/
structure Config where
  periods : PeriodConfig := {}
  poll : PollConfig := {}
  pack : PackConfig := {}
  voltage : QuantityConfig := {}
  cross : CrossCheck := {}
  current : QuantityConfig := {}
  cellVoltage : QuantityConfig := {}
  cellTemperature : QuantityConfig := {}
  balance : BalanceConfig := {}
  relay : RelayConfig := {}
  cells : List CellOverride := []
  keepAlivePath : Option String := none
  logging : LoggingConfig := {}
deriving DecidableEq, Repr, Inhabited

end PackGuard
