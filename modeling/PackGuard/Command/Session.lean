import PackGuard.Config.Load
import PackGuard.Config.Resolve
import PackGuard.Nominal
import PackGuard.Run

/-!
# What the commands do

Each command works on a checked configuration, the files around it and the wall clock. Nothing is
connected to the controller but simulated outputs and a simulated sensor with nominal values, whose
pack voltage can be set from outside.

* `selfCheck` polls and evaluates once and shuts down, so that **the contactor never closes**;
* `renewStored` and `storedStatus` work on the stored keep-alive without a controller;
* `openRun` prepares a controller to be run.
-/

namespace PackGuard

/-- What is around a command: the files, the time, and the pack voltage that the sensor is to
    deliver, as a text that need not denote one. -/
structure Surroundings where
  files : Files := {}
  wall : Nat := 0
  packVoltage : Option String := none

namespace Surroundings

/-- The pack voltage that is set from outside. -/
def voltage? (s : Surroundings) : Option Float32 :=
  (s.packVoltage.bind Numeral.read?).map (·.toFloat32)

/-- The sensor for settings. -/
def sensor (s : Surroundings) (settings : Settings) : SimulatedSensor :=
  .seeded settings.pack s.voltage?

/-! ## 1. Controllers -/

/-- A controller for a configuration among its devices. -/
def assemble (s : Surroundings) (c : Config) : Except Report (System SimulatedSensor) :=
  match Controller.build (some c.resolve) (some {}) (some {}) s.wall s.files with
  | .error f => .error (.ofBuild f)
  | .ok controller => .ok
    { controller := controller
      link := s.sensor c.resolve
      clock := { origin := s.wall }
      files := s.files }

/-- Poll every cadence once, tick once, shut down. However it ends, the controller is let go of. -/
def checkOnce (s : System SimulatedSensor) : Except Failure TickOutcome × System SimulatedSensor :=
  match s.pollOnce with
  | (.error f, s) => (.error f, s.drop)
  | (.ok _, s) => match s.tick with
    | (.error f, s) => (.error f, s.drop)
    | (.ok outcome, s) => match s.shutdown with
      | (some f, s) => (.error f, s.drop)
      | (none, s) => (.ok outcome, s.drop)

/-- Poll and evaluate once without closing the contactor. -/
def selfCheck (s : Surroundings) (c : Config) : Except Report TickOutcome :=
  match s.assemble c with
  | .error r => .error r
  | .ok system => (checkOnce system).1.mapError .ofFailure

/-! ## 2. The stored keep-alive -/

/-- Why there is no stored keep-alive to work on. -/
def noPath : Failure := .configInvalid "keepalive.path is not set"

/-- The stored keep-alive and where it is stored. -/
def keepAlive (s : Surroundings) (c : Config) : Except Failure (String × KeepAlive) :=
  let settings := c.resolve.keepAlive
  if settings.period == 0 then .error KeepAlive.disabled
  else match settings.path with
    | none => .error noPath
    | some path => .ok (path, .load settings s.files s.wall)

/-- Renew the stored keep-alive for some milliseconds, a whole period if none are given. -/
def renewStored (s : Surroundings) (c : Config) (ms : Option Nat) : Except Report Nat × Files :=
  match s.keepAlive c with
  | .error f => (.error (.ofFailure f), s.files)
  | .ok (_, k) =>
    let deadline := addMoments s.wall (ms.getD k.period)
    let (r, _, files) := k.renewUntil s.files s.wall deadline
    (r.mapError .ofFailure, files)

/-- The stored keep-alive as it stands, with the deadline as it is stored. -/
structure StoredStatus where
  period : Nat
  deadline : Option Nat
  remaining : Nat
  expired : Bool
deriving DecidableEq, Repr

/-- Look at the stored keep-alive. -/
def storedStatus (s : Surroundings) (c : Config) : Except Report StoredStatus :=
  match s.keepAlive c with
  | .error f => .error (.ofFailure f)
  | .ok (path, k) => match Deadline.read s.files path with
    | .error f => .error (.ofFailure f)
    | .ok deadline => .ok
      { period := k.period
        deadline := deadline
        remaining := (deadline.map (· - s.wall)).getD 0
        expired := deadline.all (· ≤ s.wall) }

/-! ## 3. Runs -/

/-- Open the file for events, if there is to be one. -/
def openEvents (s : Surroundings) (c : Config) : Except Report Surroundings :=
  match c.logging.events with
  | none => .ok s
  | some path => match s.files.append path .empty with
    | .error fault => .error ((Report.ofText fault.message).wrap ("open event log " ++ path))
    | .ok files => .ok { s with files := files }

/-- A controller that is ready to be run. -/
def openRun (s : Surroundings) (c : Config) (lockout : Bool) :
    Except Report (System SimulatedSensor) :=
  match s.openEvents c with
  | .error r => .error r
  | .ok s => (s.assemble c).map fun system =>
    { system with controller := system.controller.setLockout lockout }

end Surroundings

end PackGuard
