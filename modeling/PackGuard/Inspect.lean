import PackGuard.Config.Schema
import PackGuard.Controller

/-!
# Exact forms of values

JSON forms in which tools look at values of the library. **Numbers are shown by the hexadecimal
digits of their bits**, so that nothing is lost to decimal digits and rounding; every NaN is `nan`.
Absent values are `null`, sets and lists are arrays in their own order.
-/

namespace PackGuard.Inspect

/-! ## 1. Numbers -/

/-- The hexadecimal digits of a number, at least so many. -/
def bits (width n : Nat) : String :=
  let cs := Nat.toDigits 16 n
  String.ofList (List.replicate (width - cs.length) '0' ++ cs)

/-- A 32-bit value. -/
def single (x : Float32) : Json := .string (if x.isNaN then "nan" else bits 8 x.toBits.toNat)

/-- A 64-bit value. -/
def double (x : Float) : Json := .string (if x.isNaN then "nan" else bits 16 x.toBits.toNat)

def whole (n : Nat) : Json := .whole n

/-- A value that may be absent. -/
def optional (f : α → Json) : Option α → Json
  | none => .null
  | some a => f a

def list (f : α → Json) (xs : List α) : Json := .array (xs.map f)

def cells (ns : List CellIndex) : Json := list (fun n => whole n.toNat) ns

/-! ## 2. Readings and alarms -/

def reading : Reading → Json
  | .noData => .string "nodata"
  | .fresh v => .object [("fresh", single v)]
  | .stale v => .object [("stale", single v)]

def fault (e : FaultKey × Option Float32) : Json :=
  .array [.string e.1.entity.label, .string e.1.kind.label, optional single e.2]

def advisory (e : AdvisoryKey × Float32) : Json :=
  .array [.string e.1.entity.label, .string e.1.quantity.label, .string e.1.kind.label, single e.2]

def faults (s : FaultSet) : Json := list fault s.entries

def advisories (s : AdvisorySet) : Json := list advisory s.entries

/-- The counts of completed cycles, by cadence. -/
def cycles (c : Cycles) : Json := list (fun k => whole (c.of k).toNat) Cadence.all

def snapshot (s : Snapshot) : Json :=
  .object
    [ ("u", reading s.voltage),
      ("i", reading s.current),
      ("cells", list (fun c =>
        .array [whole c.index.toNat, reading c.voltage, reading c.temperature]) s.cells),
      ("cycles", cycles s.cycles) ]

def cycleSummary (c : CycleSummary) : Json :=
  .array [.string c.cadence.label, whole c.cycle.toNat, whole c.published, whole c.failed]

/-- Charge, work and state of charge. -/
def energy (e : Energy) : Json := .array [double e.charge, double e.work, single e.stateOfCharge]

/-! ## 3. The contactor and the controller -/

def position (p : Position) : Json := .string p.label

def transition (t : Transition) : Json :=
  .array [.string t.source.label, .string t.target.label, .string t.cause.label]

def event (e : Event) : Json :=
  .array
    [whole e.time, .string e.entity.label, .string e.kind.name, .string e.kind.detail,
      optional single e.value]

def contactor (s : ContactorStatus) : Json :=
  .object
    [ ("state", .string s.state.label),
      ("position", optional position s.position),
      ("cause", .string s.cause.label),
      ("hold_ms", optional whole s.holdLeft),
      ("ever", .bool s.everEngaged) ]

def outcome (o : TickOutcome) : Json :=
  .object
    [ ("faults", faults o.faults),
      ("advisories", advisories o.advisories),
      ("limit", single o.limit),
      ("transitions", list transition o.transitions),
      ("balancing", cells o.balancing),
      ("expired", .bool o.expired),
      ("healthy", .bool o.healthy) ]

/-- The fields of a status apart from the energy account. -/
def statusFields (s : ControllerStatus) : List (String × Json) :=
  [ ("relay", contactor s.contactor),
    ("faults", faults s.faults),
    ("limit", single s.limit),
    ("balancing", cells s.balancing),
    ("lockout", .bool s.lockout),
    ("deadline", optional whole s.deadline),
    ("remaining", optional whole s.remaining) ]

def status (s : ControllerStatus) : Json :=
  .object (statusFields s ++ [("soc", single s.stateOfCharge), ("work", double s.work)])

/-! ## 4. Configurations and settings -/

def band (b : Band) : Json := .array [optional single b.min, optional single b.max]

def cross (c : CrossCheck) : Json :=
  .object
    [ ("corr", single c.correction), ("tol", single c.tolerance),
      ("cycles", whole c.cycles.toNat) ]

def quantityConfig (q : QuantityConfig) : Json :=
  .object
    [ ("min", optional single q.min),
      ("max", optional single q.max),
      ("scale", optional single q.scale),
      ("offset", optional single q.offset),
      ("ext", optional band q.ext),
      ("lim", optional band q.lim),
      ("samples", optional (fun n => whole n.toNat) q.samples),
      ("decay", optional (fun n => whole n.toNat) q.decay) ]

def cellOverride (o : CellOverride) : Json :=
  .object
    [ ("index", whole o.index.toNat),
      ("u", optional quantityConfig o.voltage),
      ("temp", optional quantityConfig o.temperature),
      ("scale", optional single o.scale),
      ("offset", optional single o.offset),
      ("balance", optional .bool o.balance) ]

def config (c : Config) : Json :=
  .object
    [ ("t", list single [c.periods.voltage, c.periods.cellVoltage, c.periods.cellTemperature]),
      ("poll", .object
        [ ("n", whole c.poll.readings.toNat), ("t", whole c.poll.gap), ("d", whole c.poll.settle),
          ("k", whole c.poll.keepAlive), ("stale", whole c.poll.stale.toNat) ]),
      ("pack", .object
        [ ("n", whole c.pack.cells.toNat), ("ah", single c.pack.capacity),
          ("r", single c.pack.resistance) ]),
      ("u", quantityConfig c.voltage),
      ("i", quantityConfig c.current),
      ("cell_u", quantityConfig c.cellVoltage),
      ("cell_temp", quantityConfig c.cellTemperature),
      ("corr", cross c.cross),
      ("balance", .object
        [ ("min", single c.balance.min), ("d", single c.balance.delta),
          ("r", single c.balance.ratio), ("n", whole c.balance.most.toNat),
          ("pins", list (fun p => whole p.toNat) c.balance.pins) ]),
      ("relay", .object
        [ ("pin", optional (fun p => whole p.toNat) c.relay.pin),
          ("active_high", .bool c.relay.activeHigh), ("t", whole c.relay.hold),
          ("t1", whole c.relay.firstHold), ("t_on", whole c.relay.minOn),
          ("t_off", whole c.relay.minOff), ("tick_ms", whole c.relay.tick) ]),
      ("cells", list cellOverride c.cells),
      ("keepalive", optional .string c.keepAlivePath),
      ("logging", .object
        [ ("file", optional .string c.logging.file), ("level", optional .string c.logging.level),
          ("rotation", optional .string c.logging.rotation),
          ("events", optional .string c.logging.events) ]) ]

def quantity (q : QuantitySettings) : Json :=
  .object
    [ ("scale", single q.channel.calibration.scale),
      ("offset", single q.channel.calibration.offset),
      ("samples", whole q.channel.samples.toNat),
      ("decay", optional (fun n => whole n.toNat) q.channel.decay),
      ("hard", band ⟨q.limit.min, q.limit.max⟩),
      ("ext", band q.limit.ext),
      ("lim", band q.limit.lim),
      ("monitored", .bool q.limit.monitored) ]

def cell (c : CellSettings) : Json :=
  .object
    [ ("index", whole c.index.toNat), ("u", quantity c.voltage), ("temp", quantity c.temperature),
      ("balance", .bool c.balance) ]

/-- Settings, with those of their cells that are given. -/
def settings (s : Settings) (shown : List CellSettings) : Json :=
  .object
    [ ("ah", single s.pack.capacity),
      ("r", single s.pack.resistance),
      ("max_current", single s.pack.maxCurrent),
      ("n", whole s.pack.cellCount.toNat),
      ("u", quantity s.pack.voltage),
      ("i", quantity s.pack.current),
      ("cross", cross s.pack.cross),
      ("cells", list cell shown),
      ("poll", .object
        [ ("n", whole s.poll.readings.toNat), ("t", whole s.poll.gap), ("d", whole s.poll.settle),
          ("stale", whole s.poll.staleAfter.toNat) ]),
      ("periods", list (fun k => whole (s.periods.of k)) Cadence.all),
      ("balance", .object
        [ ("min", single s.balance.min), ("d", single s.balance.delta),
          ("r", single s.balance.ratio), ("n", whole s.balance.most.toNat) ]),
      ("relay", .object
        [ ("hold", whole s.contactor.hold), ("first_hold", whole s.contactor.firstHold),
          ("min_on", whole s.contactor.minOn), ("min_off", whole s.contactor.minOff),
          ("tick", whole s.contactor.tick) ]),
      ("keepalive", .object
        [("k", whole s.keepAlive.period), ("path", optional .string s.keepAlive.path)]) ]

/-! ## 5. Failures -/

/-- The kind of an error and its text. -/
def error (kind message : String) : Json :=
  .object [("error", .string kind), ("message", .string message)]

def failure (f : Failure) : Json := error f.name f.message

def buildFailure (f : BuildFailure) : Json := error f.name f.message

/-- A result, or the failure in its place. -/
def result (f : α → Json) : Except Failure α → Json
  | .ok a => f a
  | .error e => failure e

end PackGuard.Inspect
