import PackGuard.Sensor
import PackGuard.Settings

/-!
# Nominal values

A simulated sensor starts with values that a healthy pack would deliver: for each quantity an idle
value, or, **where the limits do not admit it, one comfortably inside them**.
-/

namespace PackGuard

/-- How far to stay away from a single bound: a twentieth of it, at least a tenth. -/
def nominalMargin (bound : Float32) : Float32 := Binary.greater (bound.abs * 0.05) 0.1

/-- A value inside the limits; the idle value if it already is. The taper bounds count before the
    hard ones. -/
def Limit.nominal (l : Limit) (idle : Float32) : Float32 :=
  match l.lim.min <|> l.min, l.lim.max <|> l.max with
  | some low, some high => if low ≤ idle && idle ≤ high then idle else (low + high) / 2
  | some low, none => if idle ≤ low then low + nominalMargin low else idle
  | none, some high => if high ≤ idle then high - nominalMargin high else idle
  | none, none => idle

namespace SimulatedSensor

/-- The sensor with the count that stands for a physical value, if there is one. -/
def put (s : SimulatedSensor) (ch : Channel) (q : QuantitySettings) (physical : Float32) :
    SimulatedSensor :=
  match q.channel.calibration.toRaw physical with
  | some n => s.setRaw ch n
  | none => s

/-- The nominal voltage of a cell. -/
def cellVoltage (c : CellSettings) : Float32 := c.voltage.limit.nominal 3.3

/-- The sensor with both channels of a cell. -/
def putCell (s : SimulatedSensor) (c : CellSettings) : SimulatedSensor :=
  (s.put (.cellVoltage c.index) c.voltage (cellVoltage c)).put
    (.cellTemperature c.index) c.temperature (c.temperature.limit.nominal 25)

/-- The nominal pack voltage, from the nominal cell voltages. -/
def packVoltage (p : PackSettings) : Float32 :=
  let sum := p.cells.foldl (fun sum c => sum + cellVoltage c) (0 : Float32)
  p.voltage.limit.nominal (sum * p.cross.correction)

/-- A sensor with nominal values for every channel; the pack voltage may be given. -/
def seeded (p : PackSettings) (voltage : Option Float32) : SimulatedSensor :=
  let s := p.cells.foldl putCell {}
  (s.put .packVoltage p.voltage (voltage.getD (packVoltage p))).put
    .packCurrent p.current (p.current.limit.nominal 0)

end SimulatedSensor

end PackGuard
