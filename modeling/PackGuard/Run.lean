import PackGuard.Controller

/-!
# A run of the controller

A run starts polling, ticks until it is told to stop or has made its number of ticks, and **shuts
the controller down in every case**, also when starting, renewing or ticking fails. While the loop
sleeps between two ticks the poll workers use the time.

What happens from outside while the loop sleeps is a `Round`; the rounds of a run are its history as
far as it is known, and a run ends where its history ends.
-/

namespace PackGuard

/-! ## 1. The controller among its devices -/

/-- A controller with the sensor link it polls, the clock and the files around it. -/
structure System (σ : Type) where
  controller : Controller
  link : σ
  clock : Clock := {}
  files : Files := {}

/-- What the simulated contactor driver answers when it is told to fail. -/
def simulatedRelayFault : LinkFault := .device (.gpio "simulated relay fault")

namespace System

variable {σ : Type}

/-- The moment at which the clock stands. -/
def moment (s : System σ) : Moment := s.clock.moment

/-- Let the next `n` commands to the contactor fail. -/
def failRelay (s : System σ) (n : Nat) : System σ :=
  let contactor := s.controller.contactor
  let output := contactor.output.failNext n simulatedRelayFault
  { s with controller := { s.controller with contactor := { contactor with output := output } } }

/-- Let the next `n` commands to the bleed resistors fail. -/
def failBank (s : System σ) (n : Nat) : System σ :=
  let bank := s.controller.bank.failNext n (.device .linkDown)
  { s with controller := { s.controller with bank := bank } }

/-- Let time pass without polling. -/
def advance (s : System σ) (ms : Nat) : System σ := { s with clock := s.clock.advance ms }

def arm (s : System σ) : Option Failure × System σ :=
  let (r, c) := s.controller.arm s.moment
  (r, { s with controller := c })

def start (s : System σ) : Option Failure × System σ :=
  let (r, c) := s.controller.start s.moment
  (r, { s with controller := c })

def tick (s : System σ) : Except Failure TickOutcome × System σ :=
  let (r, c) := s.controller.tick s.moment s.files
  (r, { s with controller := c })

def renew (s : System σ) : Except Failure Nat × System σ :=
  let (r, c, files) := s.controller.renew s.moment s.files
  (r, { s with controller := c, files := files })

def renewUntil (s : System σ) (deadline : Nat) : Except Failure Nat × System σ :=
  let (r, c, files) := s.controller.renewUntil s.moment s.files deadline
  (r, { s with controller := c, files := files })

def shutdown (s : System σ) : Option Failure × System σ :=
  let (r, c) := s.controller.shutdown s.moment
  (r, { s with controller := c })

def drop (s : System σ) : System σ := { s with controller := s.controller.drop s.moment }

/-- The system with a new controller, which has the present settings and fresh outputs. -/
def restart (s : System σ) : Except BuildFailure (System σ) :=
  let settings := s.controller.settings
  (Controller.build (some settings) (some {}) (some {}) s.clock.wall s.files).map fun c =>
    { s with controller := c }

def status (s : System σ) : ControllerStatus := s.controller.status s.moment

variable [SensorLink σ]

/-- Run one cycle of every cadence; its pauses move the clock along. -/
def pollOnce (s : System σ) : Except Failure (List CycleSummary) × System σ :=
  let (r, now, c, link) := s.controller.pollOnce s.clock.elapsed s.link
  (r, { s with controller := c, link := link, clock := { s.clock with elapsed := now } })

/-- Let time pass while the poll workers work. -/
def elapse (s : System σ) (ms : Nat) : System σ :=
  let clock := s.clock.advance ms
  match s.controller.scheduler with
  | none => { s with clock := clock }
  | some scheduler =>
    let (scheduler, st) := scheduler.runUntil clock.elapsed ⟨s.link, s.controller.pack⟩
    { s with
      clock := clock
      link := st.link
      controller := { s.controller with pack := st.pack, scheduler := some scheduler } }

end System

/-! ## 2. Rounds -/

/-- What happens from outside while the loop sleeps: changes to the sensor link and to the files, a
    number of commands to the contactor that will fail, and the word to stop. -/
structure Round (σ : Type) where
  link : σ → σ := id
  files : Files → Files := id
  failRelay : Option Nat := none
  stop : Bool := false

def Round.apply {σ : Type} (r : Round σ) (s : System σ) : System σ :=
  let s := { s with link := r.link s.link, files := r.files s.files }
  match r.failRelay with
  | some n => s.failRelay n
  | none => s

/-! ## 3. The loop -/

/-- How a run goes: the number of ticks after which it ends, if any, and whether it renews the
    keep-alive itself before each tick. -/
structure RunOptions where
  maxTicks : Option Nat := none
  selfRenew : Bool := false

/-- What happened in a run. -/
structure RunSummary where
  ticks : Nat := 0
  transitions : Nat := 0
  ticksEngaged : Nat := 0
  peakFaults : Nat := 0
deriving DecidableEq, Repr

/-- The summary with one more tick. -/
def RunSummary.add (r : RunSummary) (o : TickOutcome) (engaged : Bool) : RunSummary where
  ticks := r.ticks + 1
  transitions := r.transitions + o.transitions.length
  ticksEngaged := r.ticksEngaged + if engaged then 1 else 0
  peakFaults := max r.peakFaults o.faults.size

/-- What the pack looked like when the loop went to sleep. -/
structure TracePoint where
  time : Nat
  snapshot : Snapshot
  work : Float

/-- A run under way: the system, the summary so far, and the trace, the latest point first. -/
structure RunState (σ : Type) where
  system : System σ
  summary : RunSummary := {}
  trace : List TracePoint := []

namespace RunState

variable {σ : Type}

/-- Renew the keep-alive, if the run is to do so and the keep-alive is on. -/
def renew (o : RunOptions) (r : RunState σ) : Option Failure × RunState σ :=
  if o.selfRenew && r.system.controller.keepAlive.enabled then
    match r.system.renew with
    | (.error f, s) => (some f, { r with system := s })
    | (.ok _, s) => (none, { r with system := s })
  else (none, r)

/-- Tick and count the tick. -/
def tick (r : RunState σ) : Option Failure × RunState σ :=
  match r.system.tick with
  | (.error f, s) => (some f, { r with system := s })
  | (.ok outcome, s) =>
    let engaged := s.controller.contactor.state == .engaged
    (none, { r with system := s, summary := r.summary.add outcome engaged })

/-- One pass of the loop up to its sleep. -/
def pass (o : RunOptions) (r : RunState σ) : Option Failure × RunState σ :=
  match r.renew o with
  | (some f, r) => (some f, r)
  | (none, r) => r.tick

/-- Note what the pack looks like. -/
def mark (r : RunState σ) : RunState σ :=
  let pack := r.system.controller.pack
  { r with trace := ⟨r.system.clock.elapsed, pack.snapshot, pack.energy.work⟩ :: r.trace }

variable [SensorLink σ]

/-- Sleep for one tick, and let the round happen. -/
def sleep (round : Round σ) (r : RunState σ) : RunState σ :=
  { r with system :=
      round.apply (r.system.elapse r.system.controller.settings.contactor.tick) }

/-- Whether the loop is at its end. -/
def finished (o : RunOptions) (stop : Bool) (r : RunState σ) : Bool :=
  stop || o.maxTicks.any (· ≤ r.summary.ticks)

/-- The loop over the rounds of a history; `stop` says whether the word to stop was given. -/
def loop (o : RunOptions) : Bool → List (Round σ) → RunState σ → Option Failure × RunState σ
  | stop, [], r =>
    if r.finished o stop then (none, r)
    else match r.pass o with
      | (some f, r) => (some f, r)
      | (none, r) => (none, r.mark)
  | stop, round :: rest, r =>
    if r.finished o stop then (none, r)
    else match r.pass o with
      | (some f, r) => (some f, r)
      | (none, r) => loop o round.stop rest (r.mark.sleep round)

end RunState

/-! ## 4. Whole runs -/

/-- The result of a run. -/
structure RunResult (σ : Type) where
  result : Except Failure RunSummary
  trace : List TracePoint
  system : System σ

/-- Shut the controller down behind a loop that failed or came to its end. The failure of the loop
    counts before that of the shutdown. -/
def RunState.conclude {σ : Type} (failure : Option Failure) (r : RunState σ) : RunResult σ :=
  let (closing, s) := r.system.shutdown
  { result := match failure, closing with
      | some f, _ => .error f
      | none, some f => .error f
      | none, none => .ok r.summary
    trace := r.trace.reverse
    system := s }

variable {σ : Type} [SensorLink σ]

/-- Start polling and loop; the workers work up to their first sleep before the first tick. -/
def runLoop (o : RunOptions) (stop : Bool) (rounds : List (Round σ)) (s : System σ) :
    Option Failure × RunState σ :=
  match s.start with
  | (some f, s) => (some f, { system := s })
  | (none, s) => RunState.loop o stop rounds { system := s.elapse 0 }

/-- Run and shut down, also if the loop failed. -/
def run (o : RunOptions) (stop : Bool) (rounds : List (Round σ)) (s : System σ) : RunResult σ :=
  let (failure, r) := runLoop o stop rounds s
  r.conclude failure

end PackGuard
