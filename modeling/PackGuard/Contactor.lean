import PackGuard.Actuator
import PackGuard.Settings

/-!
# The contactor

The contactor connects the pack to the outside. Its state machine is

  `engaged → disengaging → disengaged → reengageHold → engaged`

and alone commands the output. **Opening for a safety cause is never delayed; closing always waits
out a hold.** A command to open that fails leaves the machine `disengaging`, and every further step
tries again; a command to close that fails is tried again in the next step without a block.

Times are milliseconds of a clock that does not go back.
-/

namespace PackGuard

/-! ## 1. Causes and transitions -/

/-- The states of the contactor. -/
inductive ContactorState where
  | engaged
  | disengaging
  | disengaged
  | reengageHold
deriving DecidableEq, Repr

namespace ContactorState

def label : ContactorState → String
  | engaged => "Engaged"
  | disengaging => "Disengaging"
  | disengaged => "Disengaged"
  | reengageHold => "ReengageHold"

def ofLabel? : String → Option ContactorState :=
  findLabel [engaged, disengaging, disengaged, reengageHold] label

end ContactorState

/-- Why the contactor changed last, or is held open. -/
inductive Cause where
  | startup
  | fault (entity : Entity) (kind : FaultKind)
  | keepAliveExpired
  | lockout
  | shutdown
  | faultsCleared
  | holdElapsed
deriving DecidableEq, Repr

namespace Cause

/-- A safety cause opens the contactor however briefly it has been closed. -/
def isSafety : Cause → Bool
  | fault _ _ => true
  | keepAliveExpired => true
  | shutdown => true
  | _ => false

def label : Cause → String
  | startup => "Startup"
  | fault e k => k.label ++ " (" ++ e.label ++ ")"
  | keepAliveExpired => "KeepAliveExpired"
  | lockout => "Lockout"
  | shutdown => "Shutdown"
  | faultsCleared => "FaultsCleared"
  | holdElapsed => "HoldElapsed"

/-- The causes that are known by a single word. -/
def ofLabel? : String → Option Cause :=
  findLabel [startup, keepAliveExpired, lockout, shutdown, faultsCleared, holdElapsed] label

end Cause

/-- One change of state. -/
structure Transition where
  source : ContactorState
  target : ContactorState
  cause : Cause
deriving DecidableEq, Repr

/-! ## 2. The machine -/

/-- The contactor with its output. Until the first command is applied its position is unknown. -/
structure Contactor where
  settings : ContactorSettings
  output : Actuator Position := {}
  state : ContactorState := .disengaged
  /-- The position commanded last with success. -/
  position : Option Position := none
  cause : Cause := .startup
  /-- When the hold ends. -/
  holdUntil : Option Nat := none
  everEngaged : Bool := false
  lastOpened : Option Nat := none
  lastClosed : Option Nat := none

/-- What can be asked of a contactor at a time. -/
structure ContactorStatus where
  state : ContactorState
  position : Option Position
  cause : Cause
  /-- Time left in the hold. -/
  holdLeft : Option Nat
  everEngaged : Bool
deriving DecidableEq, Repr

/-- The result of an operation: the transitions that happened, also those before a failure, the
    failure of the command, and the contactor afterwards. -/
structure ContactorMove where
  transitions : List Transition := []
  failure : Option Failure := none
  contactor : Contactor

namespace Contactor

def status (c : Contactor) (now : Nat) : ContactorStatus where
  state := c.state
  position := c.position
  cause := c.cause
  holdLeft := c.holdUntil.map fun h => h - now
  everEngaged := c.everEngaged

/-- The contactor in another state, and the transition that led there. -/
def enter (c : Contactor) (target : ContactorState) (cause : Cause) : Transition × Contactor :=
  (⟨c.state, target, cause⟩, { c with state := target })

/-! ### Opening -/

/-- The transition that the decision to open brings about, before the command is sent. -/
def leave (c : Contactor) (cause : Cause) : List Transition × Contactor :=
  match c.state with
  | .engaged => let (t, c) := c.enter .disengaging cause; ([t], c)
  | .reengageHold => let (t, c) := c.enter .disengaged cause; ([t], c)
  | .disengaging => ([], c)
  | .disengaged => ([], c)

/-- The contactor after the command to open was applied. -/
def opened (c : Contactor) (now : Nat) (cause : Cause) : List Transition × Contactor :=
  let c := { c with position := some .opened, lastOpened := some now }
  match c.state with
  | .disengaging => let (t, c) := c.enter .disengaged cause; ([t], c)
  | _ => ([], c)

/-- Command the contactor open, whatever its state. -/
def forceOpen (c : Contactor) (now : Nat) (cause : Cause) : ContactorMove :=
  let (before, c) := leave { c with holdUntil := none, cause := cause } cause
  let (fault, output) := c.output.command .opened
  let c := { c with output := output }
  match fault with
  | some f => { transitions := before, failure := some (.ofOutput f), contactor := c }
  | none =>
    let (after, c) := c.opened now cause
    { transitions := before ++ after, contactor := c }

/-! ### Closing -/

/-- Whether a span of time has passed since a moment; it has if there was no such moment. -/
def elapsed (since : Option Nat) (span now : Nat) : Bool := since.all fun t => span ≤ now - t

/-- The end of a hold that begins now. -/
def holdEnd (c : Contactor) (now : Nat) : Nat :=
  let hold := now + if c.everEngaged then c.settings.hold else c.settings.firstHold
  match c.lastOpened with
  | none => hold
  | some t => max hold (t + c.settings.minOff)

/-- Begin the hold. -/
def beginHold (c : Contactor) (now : Nat) : ContactorMove :=
  let finish := c.holdEnd now
  let (t, c) := c.enter .reengageHold .faultsCleared
  { transitions := [t], contactor := { c with holdUntil := some finish, cause := .faultsCleared } }

/-- Give the hold up. -/
def breakHold (c : Contactor) (cause : Cause) : ContactorMove :=
  let (t, c) := c.enter .disengaged cause
  { transitions := [t], contactor := { c with holdUntil := none, cause := cause } }

/-- Command the contactor closed once the hold is over. -/
def close (c : Contactor) (now : Nat) : ContactorMove :=
  let (fault, output) := c.output.command .closed
  let c := { c with output := output }
  match fault with
  | some f => { failure := some (.ofOutput f), contactor := c }
  | none =>
    let (t, c) := c.enter .engaged .holdElapsed
    { transitions := [t]
      contactor := { c with
        position := some .closed
        lastClosed := some now
        holdUntil := none
        everEngaged := true
        cause := .holdElapsed } }

/-! ### Steps -/

/-- One step, with the foremost cause that blocks the contactor, if there is one. -/
def step (c : Contactor) (now : Nat) (blocking : Option Cause) : ContactorMove :=
  match c.state, blocking with
  | .engaged, some cause =>
    if cause.isSafety || elapsed c.lastClosed c.settings.minOn now then c.forceOpen now cause
    else { contactor := c }
  | .engaged, none => { contactor := c }
  | .disengaging, _ => c.forceOpen now c.cause
  | .disengaged, some cause => { contactor := { c with cause := cause } }
  | .disengaged, none => c.beginHold now
  | .reengageHold, some cause => c.breakHold cause
  | .reengageHold, none =>
    if c.holdUntil.any (· ≤ now) then c.close now else { contactor := c }

end Contactor

end PackGuard
