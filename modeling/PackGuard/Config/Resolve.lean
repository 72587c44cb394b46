import PackGuard.Config.Schema
import PackGuard.Period

/-!
# From a configuration to settings

Single cells are merged over the class of all cells, and what is still open takes its default: a
scale of one, no offset, one sample. From here on nothing is looked up in the configuration again.
-/

namespace PackGuard

/-- The settings of a quantity; what is not set takes its default. -/
def QuantityConfig.resolve (q : QuantityConfig) : QuantitySettings where
  channel :=
    { calibration := ⟨q.scale.getD 1, q.offset.getD 0⟩
      samples := q.samples.getD 1
      decay := q.decay }
  limit :=
    { min := q.min, max := q.max, ext := q.ext.getD {}, lim := q.lim.getD {} }

namespace Config

/-- What is set apart for a cell. -/
def override? (c : Config) (index : UInt16) : Option CellOverride :=
  c.cells.find? (·.index == index)

/-- The voltage settings of a cell, with the calibration that is set for the cell itself. -/
def calibrated (q : QuantitySettings) (o : Option CellOverride) : QuantitySettings :=
  let old := q.channel.calibration
  let scale := (o.bind (·.scale)).getD old.scale
  let offset := (o.bind (·.offset)).getD old.offset
  { q with channel := { q.channel with calibration := ⟨scale, offset⟩ } }

/-- The settings of a cell. -/
def resolveCell (c : Config) (index : UInt16) : CellSettings :=
  let o := c.override? index
  let voltage := (o.bind (·.voltage)).elim c.cellVoltage (·.or c.cellVoltage)
  let temperature := (o.bind (·.temperature)).elim c.cellTemperature (·.or c.cellTemperature)
  { index := index
    voltage := calibrated voltage.resolve o
    temperature := temperature.resolve
    balance := (o.bind (·.balance)).getD true }

/-- The settings of the pack. -/
def resolvePack (c : Config) : PackSettings where
  capacity := c.pack.capacity
  resistance := c.pack.resistance
  voltage := c.voltage.resolve
  current := c.current.resolve
  cross := c.cross
  cells := (List.range c.pack.cells.toNat).map fun k => c.resolveCell (k + 1).toUInt16

/-- The settings that a configuration stands for. -/
def resolve (c : Config) : Settings where
  pack := c.resolvePack
  poll :=
    { readings := c.poll.readings, gap := c.poll.gap, settle := c.poll.settle
      staleAfter := c.poll.stale }
  periods :=
    { pack := periodOfSeconds c.periods.voltage
      cellVoltage := periodOfSeconds c.periods.cellVoltage
      cellTemperature := periodOfSeconds c.periods.cellTemperature }
  balance :=
    { min := c.balance.min, delta := c.balance.delta, most := c.balance.most
      ratio := c.balance.ratio }
  contactor :=
    { hold := c.relay.hold, firstHold := c.relay.firstHold, minOn := c.relay.minOn
      minOff := c.relay.minOff, tick := c.relay.tick }
  keepAlive := { period := c.poll.keepAlive, path := c.keepAlivePath }

end Config

end PackGuard
