import PackGuard.Pack
import PackGuard.Sensor

/-!
# Poll cycles

In a cycle of a cadence each of its channels is read several times with a gap between the readings,
the good readings are averaged and published, the energy account takes in a sample (for the pack's
own cadence), the cycle is counted, and a settling time passes.

A cycle is a list of **poll steps**, of which only `pause` takes time. So the same cycle can be run
at once, on a clock that is moved along (`runSteps`), or piecewise between the pauses
(`advanceSteps`), while others use the time.
-/

namespace PackGuard

/-! ## 1. The steps of a cycle -/

/-- One step of a poll cycle. -/
inductive PollStep where
  /-- Take a reading of a channel. -/
  | read (slot : Slot)
  /-- Publish the average of the readings taken since the last publication. -/
  | publish (slot : Slot)
  /-- Let the energy account take in a sample. -/
  | observe
  /-- Count the cycle. -/
  | finish
  /-- Let milliseconds pass. -/
  | pause (ms : Nat)
deriving DecidableEq, Repr

/-- A pause, unless it takes no time. -/
def pauseSteps (ms : Nat) : List PollStep := if ms == 0 then [] else [.pause ms]

/-- The readings of one channel: the first at once, the others each behind a gap. -/
def readSteps (s : PollSettings) (slot : Slot) : List PollStep :=
  .read slot ::
    (List.replicate (s.readings.toNat - 1) (pauseSteps s.gap ++ [.read slot])).flatten

/-- The steps of a whole cycle. -/
def cycleSteps (s : PollSettings) (slots : List Slot) (c : Cadence) : List PollStep :=
  slots.flatMap (fun slot => readSteps s slot ++ [.publish slot]) ++
    (if c == .pack then [.observe] else []) ++ [.finish] ++ pauseSteps s.settle

/-! ## 2. Averages -/

/-- The raw counts among readings. -/
def goodCounts (readings : List (Except LinkFault Int)) : List Int :=
  readings.filterMap fun r => match r with
    | .ok n => some n
    | .error _ => none

/-- The last fault among readings. -/
def lastFault? (readings : List (Except LinkFault Int)) : Option LinkFault :=
  (readings.filterMap fun r => match r with
    | .ok _ => none
    | .error f => some f).getLast?

/-- The mean of counts, summed in order and rounded once at the end. -/
def mean (counts : List Int) : Float32 :=
  Binary.narrow ((counts.foldl (fun sum n => sum + .ofInt n) 0) / .ofNat counts.length)

/-- The average of the good readings; it fails only if all readings do, and then with the last
    fault. -/
def average (ch : Channel) (readings : List (Except LinkFault Int)) : Except Failure Float32 :=
  match goodCounts readings with
  | [] => .error (match lastFault? readings with
    | some f => .ofSensor f
    | none => .sensorUnavailable ch.label)
  | counts => .ok (mean counts)

/-! ## 3. Running the steps -/

/-- What a cycle reads and writes: the sensor link and the pack. -/
structure Station (σ : Type) where
  link : σ
  pack : Pack

/-- A cycle under way: the readings of the present channel, the latest first, and how many channels
    were published and failed. -/
structure PollRun where
  cadence : Cadence
  readings : List (Except LinkFault Int) := []
  published : Nat := 0
  failed : Nat := 0

/-- The energy account's sample: voltage and current, if both are fresh. -/
def Pack.sample (p : Pack) : Option (Float32 × Float32) :=
  match p.voltage.reading.fresh?, p.current.reading.fresh? with
  | some u, some i => some (u, i)
  | _, _ => none

namespace PollRun

variable {σ : Type} [SensorLink σ]

/-- Publish the average of a channel, or count its failure. -/
def publish (r : PollRun) (p : Pack) (slot : Slot) : PollRun × Pack :=
  let ch := ((p.track? slot).map (·.channel)).getD .packVoltage
  match average ch r.readings.reverse with
  | .ok raw =>
    ({ r with readings := [], published := r.published + 1 },
      p.modifyTrack slot fun t => t.applyRaw raw)
  | .error _ =>
    ({ r with readings := [], failed := r.failed + 1 },
      p.modifyTrack slot fun t => t.recordFailure)

/-- Take a reading. -/
def take (r : PollRun) (w : Station σ) (slot : Slot) : PollRun × Station σ :=
  match w.pack.track? slot with
  | none => (r, w)
  | some t =>
    let (answer, link) := SensorLink.read w.link t.channel
    ({ r with readings := answer :: r.readings }, { w with link := link })

/-- Do a step that takes no time, at a time in milliseconds. -/
def perform (r : PollRun) (w : Station σ) (now : Nat) : PollStep → PollRun × Station σ
  | .read slot => r.take w slot
  | .publish slot =>
    let (r, pack) := r.publish w.pack slot
    (r, { w with pack := pack })
  | .observe =>
    let energy := w.pack.energy.observe (now * 1000000) w.pack.sample
    (r, { w with pack := { w.pack with energy := energy } })
  | .finish => (r, { w with pack := w.pack.finishCycle r.cadence })
  | .pause _ => (r, w)

end PollRun

/-- Do steps up to the first pause: how long it takes and the steps behind it, or `none` when there
    is none. -/
def advanceSteps {σ : Type} [SensorLink σ] (now : Nat) :
    List PollStep → PollRun → Station σ → Option (Nat × List PollStep) × PollRun × Station σ
  | [], r, w => (none, r, w)
  | .pause ms :: rest, r, w => (some (ms, rest), r, w)
  | step :: rest, r, w =>
    let (r, w) := r.perform w now step
    advanceSteps now rest r w

/-- Do steps one after the other, each pause moving the time along. -/
def runSteps {σ : Type} [SensorLink σ] :
    List PollStep → Nat → PollRun → Station σ → Nat × PollRun × Station σ
  | [], now, r, w => (now, r, w)
  | .pause ms :: rest, now, r, w => runSteps rest (now + ms) r w
  | step :: rest, now, r, w =>
    let (r, w) := r.perform w now step
    runSteps rest now r w

/-! ## 4. Whole cycles and single averages -/

/-- The outcome of a cycle: the count of cycles with it, and how many channels were published and
    failed. -/
structure CycleSummary where
  cadence : Cadence
  cycle : UInt64
  published : Nat
  failed : Nat
deriving DecidableEq, Repr

/-- Run a cycle at once, from a time to a time. -/
def runCycle {σ : Type} [SensorLink σ] (s : PollSettings) (c : Cadence) (now : Nat)
    (w : Station σ) : CycleSummary × Nat × Station σ :=
  let (now, r, w) := runSteps (cycleSteps s (w.pack.slots c) c) now { cadence := c } w
  (⟨c, w.pack.cycles.of c, r.published, r.failed⟩, now, w)

/-- Read one channel as a cycle would and average the readings. -/
def readAveraged {σ : Type} [SensorLink σ] (s : PollSettings) (slot : Slot) (now : Nat)
    (w : Station σ) : Except Failure Float32 × Nat × Station σ :=
  let (now, r, w) := runSteps (readSteps s slot) now { cadence := .pack } w
  let ch := ((w.pack.track? slot).map (·.channel)).getD .packVoltage
  (average ch r.readings.reverse, now, w)

end PackGuard
