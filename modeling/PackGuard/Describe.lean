import PackGuard.Controller

/-!
# Short descriptions of a state

One line about a contactor or a controller, for people who look at its state.
-/

namespace PackGuard

/-- An optional value. -/
def describeOption (f : α → String) : Option α → String
  | none => "None"
  | some a => "Some(" ++ f a ++ ")"

def Position.describe : Position → String
  | opened => "Open"
  | closed => "Closed"

def Entity.describe : Entity → String
  | pack => "Pack"
  | cell n => "Cell(" ++ toString n ++ ")"
  | relay => "Relay"
  | balancer => "Balancer"
  | keepAlive => "KeepAlive"

def Cause.describe : Cause → String
  | fault e k => "Fault(" ++ e.describe ++ ", " ++ k.label ++ ")"
  | c => c.label

/-- Values are set out positionally from `1e-4` up to below `1e16`, and a tie goes up. -/
def describedNumber : Decimal.Layout where
  tie := .upper
  least := -4
  greatest := 15
  plus := false
  nan := "NaN"
  infinity := "inf"

/-- A name and fields in braces. -/
def describeFields (name : String) (fields : List (String × String)) : String :=
  name ++ " \x7b " ++ ", ".intercalate (fields.map fun (k, v) => k ++ ": " ++ v) ++ " \x7d"

def Contactor.describe (c : Contactor) : String :=
  describeFields "RelayStateMachine"
    [ ("state", c.state.label),
      ("position", describeOption Position.describe c.position),
      ("cause", c.cause.describe),
      ("ever_engaged", toString c.everEngaged) ]

def Controller.describe (c : Controller) : String :=
  describeFields "Controller"
    [ ("cells", toString c.pack.cellCount),
      ("relay", c.contactor.describe),
      ("faults", toString c.faults.size),
      ("current_limit", Decimal.write32 describedNumber c.limit),
      ("balancing", EventKind.cellsText c.balancing),
      ("lockout", toString c.lockout),
      ("armed", toString c.armed) ]

end PackGuard
