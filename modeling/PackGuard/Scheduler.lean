import PackGuard.Poll

/-!
# The poll scheduler

One worker per cadence runs cycle after cycle, each due one period after the one before; a worker
that overran its period does not try to catch up. The workers share a timeline: time jumps to the
earliest moment at which a worker wakes up, and **of several that wake at the same moment the one of
the earlier cadence goes first**.
-/

namespace PackGuard

/-- A worker between two pieces of work: when the cycle is due or was, the cycle under way with the
    steps left of it, and when the worker wakes up. -/
structure Worker where
  cadence : Cadence
  period : Nat
  due : Nat
  run : PollRun
  rest : List PollStep
  wake : Nat

/-- The workers of all cadences that have anything to poll. -/
structure Scheduler where
  settings : PollSettings
  workers : List Worker

namespace Worker

/-- A worker before its first cycle, at a time. -/
def start (s : PollSettings) (p : Periods) (pack : Pack) (now : Nat) (c : Cadence) : Worker where
  cadence := c
  period := p.of c
  due := now
  run := { cadence := c }
  rest := cycleSteps s (pack.slots c) c
  wake := now

variable {σ : Type} [SensorLink σ]

/-- The worker at rest until its next cycle is due. -/
def await (w : Worker) (s : PollSettings) (pack : Pack) (due : Nat) : Worker :=
  { w with
    due := due
    run := { cadence := w.cadence }
    rest := cycleSteps s (pack.slots w.cadence) w.cadence
    wake := due }

/-- The worker in a pause of its cycle. -/
def paused (w : Worker) (now ms : Nat) (run : PollRun) (rest : List PollStep) : Worker :=
  { w with run := run, rest := rest, wake := now + ms }

/-- Work from the time of waking up to the next sleep. After an overrun the next cycle begins at
    once. -/
def resume (w : Worker) (s : PollSettings) (now : Nat) (st : Station σ) : Worker × Station σ :=
  match advanceSteps now w.rest w.run st with
  | (some (ms, rest), run, st) => (w.paused now ms run rest, st)
  | (none, _, st) =>
    if now < w.due + w.period then (w.await s st.pack (w.due + w.period), st)
    else
      let next := w.await s st.pack now
      match advanceSteps now next.rest next.run st with
      | (some (ms, rest), run, st) => (next.paused now ms run rest, st)
      | (none, _, st) => (next.await s st.pack (now + w.period), st)

end Worker

namespace Scheduler

/-- Workers for all cadences that have anything to poll. -/
def start (s : PollSettings) (p : Periods) (pack : Pack) (now : Nat) : Scheduler where
  settings := s
  workers := pack.cadences.map (Worker.start s p pack now)

def cadences (s : Scheduler) : List Cadence := s.workers.map (·.cadence)

/-- The worker that wakes first, the earlier of equals. -/
def earliest? : List Worker → Option Worker
  | [] => none
  | w :: ws => match earliest? ws with
    | none => some w
    | some v => if v.wake < w.wake then some v else some w

/-- The scheduler with the worker of a cadence replaced. -/
def replace (s : Scheduler) (w : Worker) : Scheduler :=
  { s with workers := s.workers.map fun v => if v.cadence = w.cadence then w else v }

variable {σ : Type} [SensorLink σ]

/-- Let every worker work that wakes up by a time, one piece of work after the other. The first
    argument bounds the number of pieces. -/
def runPieces : Nat → Nat → Scheduler → Station σ → Scheduler × Station σ
  | 0, _, s, st => (s, st)
  | n + 1, limit, s, st =>
    match earliest? s.workers with
    | none => (s, st)
    | some w =>
      if w.wake ≤ limit then
        let (w, st) := w.resume s.settings w.wake st
        runPieces n limit (s.replace w) st
      else (s, st)

/-- How many pieces of work there can be up to a time: each takes a worker at least one millisecond
    on. -/
def pieceBound (s : Scheduler) (limit : Nat) : Nat :=
  s.workers.foldl (fun n w => n + (limit + 1 - w.wake)) 0

/-- Let every worker work that wakes up by a time. -/
def runUntil (s : Scheduler) (limit : Nat) (st : Station σ) : Scheduler × Station σ :=
  runPieces (s.pieceBound limit) limit s st

end Scheduler

end PackGuard
