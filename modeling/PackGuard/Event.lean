import PackGuard.Alarm
import PackGuard.Contactor
import PackGuard.Text.Json

/-!
# Events

Every change of the controller's state that others may care about is published as an event: what
happened, to whom, with a value where there is one, at a wall-clock time. An event has a name, a
detail, which is empty where the name says it all, and a JSON line.
-/

namespace PackGuard

/-- What happened. -/
inductive EventKind where
  | faultRaised (kind : FaultKind)
  | faultCleared (kind : FaultKind)
  | advisory (quantity : Quantity) (kind : AdvisoryKind)
  | advisoryCleared (quantity : Quantity) (kind : AdvisoryKind)
  | relayTransition (transition : Transition)
  | relayForcedOpen (cause : Cause)
  | balanceChanged (cells : List CellIndex)
  | currentLimit
  | keepAliveExpired
  | keepAliveRenewed
deriving DecidableEq, Repr

namespace EventKind

def name : EventKind → String
  | faultRaised _ => "fault_raised"
  | faultCleared _ => "fault_cleared"
  | advisory _ _ => "advisory"
  | advisoryCleared _ _ => "advisory_cleared"
  | relayTransition _ => "relay_transition"
  | relayForcedOpen _ => "relay_forced_open"
  | balanceChanged _ => "balance_changed"
  | currentLimit => "current_limit"
  | keepAliveExpired => "keepalive_expired"
  | keepAliveRenewed => "keepalive_renewed"

/-- Cell numbers in brackets. -/
def cellsText (cells : List CellIndex) : String :=
  "[" ++ ", ".intercalate (cells.map toString) ++ "]"

def detail : EventKind → String
  | faultRaised k => k.label
  | faultCleared k => k.label
  | advisory q k => q.label ++ " " ++ k.label
  | advisoryCleared q k => q.label ++ " " ++ k.label
  | relayTransition t => t.source.label ++ " -> " ++ t.target.label ++ " (" ++ t.cause.label ++ ")"
  | relayForcedOpen c => c.label
  | balanceChanged cells => cellsText cells
  | currentLimit => ""
  | keepAliveExpired => ""
  | keepAliveRenewed => ""

end EventKind

/-- Something that happened, at a time in wall-clock milliseconds. -/
structure Event where
  entity : Entity
  kind : EventKind
  value : Option Float32 := none
  time : Nat
deriving DecidableEq, Repr

/-- The JSON form of an event. -/
def Event.json (e : Event) : Json :=
  .sorted
    [ ("ts_ms", .whole e.time),
      ("entity", .string e.entity.label),
      ("event", .string e.kind.name),
      ("detail", .string e.kind.detail),
      ("value", (e.value.map Json.number).getD .null) ]

/-- The JSON line of an event. -/
def Event.line (e : Event) : String := e.json.render ++ "\n"

end PackGuard
