import PackGuard.Balance
import PackGuard.Clock
import PackGuard.Engine
import PackGuard.Event
import PackGuard.Scheduler

/-!
# The controller

The controller ties the parts together on a fixed tick. A tick looks for a keep-alive renewal, takes
a snapshot of the pack, evaluates it, reselects the cells to bleed when there is new cell data,
steps the contactor, and publishes every change as an event. The contactor is blocked, in this order
of priority, by an expired keep-alive, by the first active fault, by the operator's lockout.

Before anything else happens the controller **arms**: it commands the contactor open. After a
shutdown every tick is refused.

Operations take the moment at which they happen and return the controller also when they fail. The
controller keeps the log of all events it has published.
-/

namespace PackGuard

/-! ## 1. State -/

/-- The state of a controller with its outputs. -/
structure Controller where
  settings : Settings
  pack : Pack
  engine : Engine
  contactor : Contactor
  /-- The bleed resistors. -/
  bank : Actuator (List CellIndex)
  keepAlive : KeepAlive
  scheduler : Option Scheduler := none
  faults : FaultSet := .empty
  advisories : AdvisorySet := .empty
  /-- The allowed current. -/
  limit : Float32 := 0
  /-- The allowed current that was published last. -/
  publishedLimit : Option Float32 := none
  /-- The cells that bleed. -/
  balancing : List CellIndex := []
  /-- Whether the last command to the bleed resistors failed and is due again. -/
  balancePending : Bool := false
  /-- The cell voltage cycle for which cells were selected last. -/
  lastCellCycle : UInt64 := 0
  lockout : Bool := false
  /-- Whether the keep-alive counts as expired. -/
  expired : Bool := false
  armed : Bool := false
  stopped : Bool := false
  /-- The events published so far, the latest first. -/
  log : List Event := []

/-- What a tick found and did. -/
structure TickOutcome where
  faults : FaultSet
  advisories : AdvisorySet
  limit : Float32
  transitions : List Transition
  balancing : List CellIndex
  expired : Bool

/-- No fault, and a keep-alive that is off or has not expired. -/
def TickOutcome.healthy (o : TickOutcome) : Bool := o.faults.isEmpty && !o.expired

/-- What can be asked of a controller. -/
structure ControllerStatus where
  contactor : ContactorStatus
  faults : FaultSet
  limit : Float32
  balancing : List CellIndex
  lockout : Bool
  deadline : Option Nat
  /-- Time left until the deadline, unless the keep-alive is off. -/
  remaining : Option Nat
  stateOfCharge : Float32
  work : Float

namespace Controller

/-- The cells that bleed, as the output has it. -/
def bleeding (c : Controller) : List CellIndex := c.bank.current.getD []

/-! ## 2. Events -/

/-- Publish events. -/
def publish (c : Controller) (es : List Event) : Controller := { c with log := es.reverse ++ c.log }

/-- The events that were published behind the first `seen` ones. -/
def eventsSince (c : Controller) (seen : Nat) : List Event :=
  (c.log.take (c.log.length - seen)).reverse

def transitionEvents (wall : Nat) (ts : List Transition) : List Event :=
  ts.map fun t => { entity := .relay, kind := .relayTransition t, time := wall }

/-- The faults that came and the faults that went, the latter with the values they had. -/
def faultEvents (wall : Nat) (before after : FaultSet) : List Event :=
  ((after.since before).map fun (k, v) =>
    { entity := k.entity, kind := .faultRaised k.kind, value := v, time := wall }) ++
  (before.since after).map fun (k, v) =>
    { entity := k.entity, kind := .faultCleared k.kind, value := v, time := wall }

/-- The advisories that came and the advisories that went. -/
def advisoryEvents (wall : Nat) (before after : AdvisorySet) : List Event :=
  ((after.since before).map fun (k, v) =>
    { entity := k.entity, kind := .advisory k.quantity k.kind, value := some v, time := wall }) ++
  (before.since after).map fun (k, v) =>
    { entity := k.entity, kind := .advisoryCleared k.quantity k.kind
      value := some v, time := wall }

/-- The change of the allowed current, as a part of the nominal maximum, that is worth an event. -/
def limitStep : Float32 := 0.01

/-- Whether a new allowed current is worth an event: it is the first, differs by a whole step, or
    is zero where the published one is not, or the other way round. -/
def limitChanged (s : PackSettings) (published : Option Float32) (limit : Float32) : Bool :=
  match published with
  | none => true
  | some p => s.maxCurrent * limitStep ≤ (p - limit).abs || (p == 0) != (limit == 0)

/-- Publish the allowed current if it changed enough. -/
def publishLimit (c : Controller) (wall : Nat) (limit : Float32) : Controller :=
  if limitChanged c.settings.pack c.publishedLimit limit then
    publish { c with publishedLimit := some limit }
      [{ entity := .pack, kind := .currentLimit, value := some limit, time := wall }]
  else c

/-! ## 3. Arming -/

/-- The event that the keep-alive has expired. -/
def expiredEvent (wall : Nat) : Event :=
  { entity := .keepAlive, kind := .keepAliveExpired, time := wall }

/-- Take over a move of the contactor. -/
def take (c : Controller) (m : ContactorMove) : Controller := { c with contactor := m.contactor }

/-- Command the contactor open for a first time. A missing or reached deadline is named as the
    cause. -/
def arm (c : Controller) (t : Moment) : Option Failure × Controller :=
  if c.armed then (none, c)
  else
    let expired := c.keepAlive.expired t.wall
    let cause := if expired then Cause.keepAliveExpired else .startup
    let c := publish { c with expired := expired } (if expired then [expiredEvent t.wall] else [])
    let move := c.contactor.forceOpen t.now cause
    let c := c.take move
    match move.failure with
    | some f => (some f, c)
    | none =>
      let events := transitionEvents t.wall move.transitions ++
        [{ entity := .relay, kind := .relayForcedOpen cause, time := t.wall }]
      (none, publish { c with armed := true } events)

/-! ## 4. The parts of a tick -/

/-- Look for a renewal, and publish if the keep-alive expired or came back. -/
def updateKeepAlive (c : Controller) (t : Moment) (fs : Files) : Controller :=
  let keepAlive := (c.keepAlive.refresh fs t.wall).2
  let expired := keepAlive.expired t.wall
  let events :=
    if expired && !c.expired then [expiredEvent t.wall]
    else if !expired && c.expired then
      [{ entity := .keepAlive, kind := .keepAliveRenewed
         value := keepAlive.deadline.map .ofNat, time := t.wall }]
    else []
  publish { c with keepAlive := keepAlive, expired := expired } events

/-- Evaluate a snapshot and publish what changed. -/
def assess (c : Controller) (t : Moment) (snap : Snapshot) : Controller :=
  let (report, engine) := c.engine.evaluate snap
  let c := publish { c with engine := engine }
    (faultEvents t.wall c.faults report.faults ++
      advisoryEvents t.wall c.advisories report.advisories)
  let c := c.publishLimit t.wall report.limit
  { c with faults := report.faults, advisories := report.advisories, limit := report.limit }

/-- The cells as the selection sees them: a cell with a fault, or one that is never to be balanced,
    is excluded. -/
def candidates (s : PackSettings) (faults : FaultSet) (snap : Snapshot) : List Candidate :=
  (snap.cells.zip s.cells).map fun (r, cell) =>
    { index := r.index
      voltage := r.voltage.fresh?
      excluded := !cell.balance || faults.affects (.cell r.index) }

/-- Note the bleeding cells as chosen. -/
def markBalanced (c : Controller) (wall : Nat) : Controller :=
  { c with pack := c.balancing.foldl (·.markBalanced wall ·) c.pack }

/-- Command the bleed resistors; a failure is due again in the next tick. -/
def commandBank (c : Controller) (t : Moment) (selected : List CellIndex) : Controller :=
  let (fault, bank) := c.bank.command selected
  let c := { c with bank := bank }
  match fault with
  | some _ => { c with balancePending := true }
  | none =>
    let changed := selected != c.balancing
    publish { c with balancePending := false, balancing := selected }
      (if changed then
        [{ entity := .balancer, kind := .balanceChanged selected, time := t.wall }] else [])

/-- Select the cells to bleed and command them if they changed or a command is due again. -/
def updateBalance (c : Controller) (t : Moment) (snap : Snapshot) : Controller :=
  let selected := Balance.select c.settings.balance (candidates c.settings.pack c.faults snap)
  if selected != c.balancing || c.balancePending then
    let c := c.commandBank t selected
    if c.balancePending then c else c.markBalanced t.wall
  else c.markBalanced t.wall

/-- Reselect the cells to bleed if there is new cell data, the faults changed from those given, or
    a command is due again. -/
def rebalance (c : Controller) (t : Moment) (snap : Snapshot) (before : FaultSet) : Controller :=
  let cycle := snap.cycles.cellVoltage
  if cycle != c.lastCellCycle || !c.faults.sameKeys before || c.balancePending then
    updateBalance { c with lastCellCycle := cycle } t snap
  else c

/-- The foremost cause that blocks the contactor. -/
def blockingCause (c : Controller) : Option Cause :=
  if c.expired then some .keepAliveExpired
  else match c.faults.first? with
    | some k => some (.fault k.entity k.kind)
    | none => if c.lockout then some .lockout else none

/-- Step the contactor and publish its transitions. -/
def stepContactor (c : Controller) (t : Moment) : List Transition × Controller :=
  let move := c.contactor.step t.now c.blockingCause
  (move.transitions, (c.take move).publish (transitionEvents t.wall move.transitions))

/-! ## 5. Operations -/

/-- Why a tick is refused after a shutdown. -/
def shutDown : Failure := .state "controller shut down"

/-- A tick of an armed controller. -/
def tickArmed (c : Controller) (t : Moment) (fs : Files) : TickOutcome × Controller :=
  let c := c.updateKeepAlive t fs
  let snap := c.pack.snapshot
  let before := c.faults
  let c := (c.assess t snap).rebalance t snap before
  let (transitions, c) := c.stepContactor t
  ({ faults := c.faults
     advisories := c.advisories
     limit := c.limit
     transitions := transitions
     balancing := c.balancing
     expired := c.expired }, c)

/-- One tick, which arms the controller first if need be. -/
def tick (c : Controller) (t : Moment) (fs : Files) : Except Failure TickOutcome × Controller :=
  if c.stopped then (.error shutDown, c)
  else match c.arm t with
    | (some f, c) => (.error f, c)
    | (none, c) =>
      let (outcome, c) := c.tickArmed t fs
      (.ok outcome, c)

/-- Why the scheduler is not started twice. -/
def alreadyStarted : Failure := .state "already started"

/-- Arm, and start polling. -/
def start (c : Controller) (t : Moment) : Option Failure × Controller :=
  if c.scheduler.isSome then (some alreadyStarted, c)
  else match c.arm t with
    | (some f, c) => (some f, c)
    | (none, c) =>
      (none, { c with
        scheduler := some (.start c.settings.poll c.settings.periods c.pack t.now) })

/-- Why cycles are not run by hand beside the scheduler. -/
def schedulerRunning : Failure := .state "poll_once while the scheduler is running"

/-- Run a cycle of each cadence of a list, from a time to a time. -/
def runCycles {σ : Type} [SensorLink σ] (s : PollSettings) :
    List Cadence → Nat → Station σ → List CycleSummary × Nat × Station σ
  | [], now, st => ([], now, st)
  | cadence :: rest, now, st =>
    let (summary, now, st) := runCycle s cadence now st
    let (summaries, now, st) := runCycles s rest now st
    (summary :: summaries, now, st)

/-- Run one cycle of every cadence that has anything to poll, from a time to a time. -/
def pollOnce {σ : Type} [SensorLink σ] (c : Controller) (now : Nat) (link : σ) :
    Except Failure (List CycleSummary) × Nat × Controller × σ :=
  if c.scheduler.isSome then (.error schedulerRunning, now, c, link)
  else
    let (summaries, now, st) := runCycles c.settings.poll c.pack.cadences now ⟨link, c.pack⟩
    (.ok summaries, now, { c with pack := st.pack }, st.link)

/-- Accept a deadline for the keep-alive. -/
def renewUntil (c : Controller) (t : Moment) (fs : Files) (deadline : Nat) :
    Except Failure Nat × Controller × Files :=
  let (r, keepAlive, fs) := c.keepAlive.renewUntil fs t.wall deadline
  (r, { c with keepAlive := keepAlive }, fs)

/-- Renew the keep-alive for a whole period. -/
def renew (c : Controller) (t : Moment) (fs : Files) : Except Failure Nat × Controller × Files :=
  let (r, keepAlive, fs) := c.keepAlive.renew fs t.wall
  (r, { c with keepAlive := keepAlive }, fs)

/-- Hold the contactor open, or let go of it. -/
def setLockout (c : Controller) (on : Bool) : Controller := { c with lockout := on }

/-- Account for work and charge reported from outside. -/
def addWork (c : Controller) (ws ampereSeconds : Float) : Controller :=
  { c with pack := { c.pack with energy := c.pack.energy.addWork ws ampereSeconds } }

def status (c : Controller) (t : Moment) : ControllerStatus where
  contactor := c.contactor.status t.now
  faults := c.faults
  limit := c.limit
  balancing := c.balancing
  lockout := c.lockout
  deadline := c.keepAlive.deadline
  remaining := c.keepAlive.remaining t.wall
  stateOfCharge := c.pack.energy.stateOfCharge
  work := c.pack.energy.work

/-- Open the contactor, stop bleeding, stop polling. A failed command to open is returned after all
    the rest is done; a second shutdown does nothing. -/
def shutdown (c : Controller) (t : Moment) : Option Failure × Controller :=
  if c.stopped then (none, c)
  else
    let move := c.contactor.forceOpen t.now .shutdown
    let events := transitionEvents t.wall move.transitions ++
      if move.failure.isNone then
        [{ entity := .relay, kind := .relayForcedOpen .shutdown, time := t.wall }] else []
    let c := publish (take { c with stopped := true } move) events
    (move.failure, { c with bank := (c.bank.command []).2, scheduler := none })

/-- Let go of the controller: it is shut down if it ever was armed. -/
def drop (c : Controller) (t : Moment) : Controller :=
  if c.armed then (c.shutdown t).2 else c

/-! ## 6. Assembly -/

/-- Assemble a controller from settings and outputs, of which none may be missing, in this order:
    settings, contactor, bleed resistors. The stored deadline is loaded. -/
def build (settings : Option Settings) (relay : Option (Actuator Position))
    (bank : Option (Actuator (List CellIndex))) (wall : Nat) (fs : Files) :
    Except BuildFailure Controller :=
  match settings, relay, bank with
  | none, _, _ => .error .missingConfig
  | some _, none, _ => .error .missingRelay
  | some _, some _, none => .error .missingBalancer
  | some s, some relay, some bank =>
    match s.defect? with
    | some d => .error (.invalidConfig d.message)
    | none => .ok
      { settings := s
        pack := .new s.pack s.poll.staleAfter
        engine := { settings := s.pack }
        contactor := { settings := s.contactor, output := relay }
        bank := bank
        keepAlive := .load s.keepAlive fs wall }

end Controller

end PackGuard
