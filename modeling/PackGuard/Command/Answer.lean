import PackGuard.Command.Arguments
import PackGuard.Command.Session

/-!
# What the commands answer

A command answers with an exit code, a text for the standard output and one for the standard error
stream. Results are a line of words, or with `--json` a line of JSON; a failure is an explanation on
the error stream, or a line of JSON there. With `--json` and no file for events the events of a run
come first on the standard output.
-/

namespace PackGuard

/-- What a command leaves behind. -/
structure Answer where
  exitCode : Nat := 0
  output : String := ""
  errors : String := ""
  files : Files

namespace Answer

/-! ## 1. Texts -/

/-- A line of words, or a line of JSON. -/
def line (json : Bool) (words : String) (fields : List (String × Json)) : String :=
  (if json then (Json.sorted fields).render else words) ++ "\n"

/-- A number that may be missing. -/
def optionalNumber (n : Option Nat) : Json := (n.map fun (k : Nat) => .whole k).getD .null

def runLine (json : Bool) (r : RunSummary) : String :=
  line json
    ("run complete: ticks=" ++ toString r.ticks ++ " engaged_ticks=" ++ toString r.ticksEngaged ++
      " transitions=" ++ toString r.transitions ++ " peak_faults=" ++ toString r.peakFaults)
    [ ("result", .string "run"),
      ("ticks", .whole r.ticks),
      ("engaged_ticks", .whole r.ticksEngaged),
      ("transitions", .whole r.transitions),
      ("peak_faults", .whole r.peakFaults) ]

/-- The active faults, each with its entity. -/
def faultTexts (faults : FaultSet) : List String :=
  faults.keys.map fun k => k.entity.label ++ ":" ++ k.kind.label

def checkLine (json : Bool) (o : TickOutcome) : String :=
  line json
    ("self-check ok: faults=[" ++ ",".intercalate (faultTexts o.faults) ++ "] current_limit=" ++
      Decimal.fixed 1 o.limit ++ " keepalive_expired=" ++ toString o.expired)
    [ ("result", .string "self-check"),
      ("faults", .array ((faultTexts o.faults).map .string)),
      ("current_limit", .number o.limit),
      ("keepalive_expired", .bool o.expired) ]

def renewLine (json : Bool) (deadline : Nat) : String :=
  line json ("keep-alive renewed: deadline_ms=" ++ toString deadline)
    [("deadline_ms", .whole deadline)]

def statusLine (json : Bool) (s : Surroundings.StoredStatus) : String :=
  line json
    ("keep-alive: k_ms=" ++ toString s.period ++
      " deadline_ms=" ++ (s.deadline.map toString).getD "none" ++
      " remaining_ms=" ++ toString s.remaining ++ " expired=" ++ toString s.expired)
    [ ("k_ms", .whole s.period),
      ("deadline_ms", optionalNumber s.deadline),
      ("remaining_ms", .whole s.remaining),
      ("expired", .bool s.expired) ]

/-! ## 2. Answers -/

/-- The answer to a failed command. -/
def ofReport (json : Bool) (files : Files) (r : Report) : Answer where
  exitCode := r.exitCode
  errors := (if json then r.json else r.explanation) ++ "\n"
  files := files

/-- The answer to a command that succeeded with a line, or failed. -/
def ofResult (json : Bool) (files : Files) : Except Report String → Answer
  | .ok text => { output := text, files := files }
  | .error r => ofReport json files r

/-- The texts of events, one line each. -/
def eventLines (events : List Event) : String := String.join (events.map Event.line)

/-- The files with events at the end of the file for them. -/
def storeEvents (files : Files) (c : Config) (events : List Event) : Files :=
  match c.logging.events with
  | none => files
  | some path => match files.append path (eventLines events).toUTF8 with
    | .error _ => files
    | .ok files => files

/-- The events that go to the standard output. -/
def shownEvents (json : Bool) (c : Config) (events : List Event) : String :=
  if json && c.logging.events.isNone then eventLines events else ""

/-- The answer to a run that has ended. -/
def ofRun (json : Bool) (c : Config) (r : RunResult SimulatedSensor) : Answer :=
  let system := r.system.drop
  let events := system.controller.log.reverse
  let result := (r.result.mapError Report.ofFailure).map (runLine json)
  let answer := ofResult json (storeEvents system.files c events) result
  { answer with output := shownEvents json c events ++ answer.output }

/-! ## 3. Commands -/

/-- Why logs cannot go to the file that is set for them, if they cannot. -/
def logFault? (c : Config) : Option Report :=
  c.logging.file.bind fun file =>
    if (Path.name? file).isNone then some (.ofText ("logging.file has no file name: " ++ file))
    else none

/-- Whether logs go to a new file from time to time, whose name then bears its date. -/
def rotates (c : Config) : Bool := c.logging.rotation.any (· != "never")

/-- The files with a place for logs: the folders on the way there, and the file, unless it gets a
    name with the first entry. -/
def withLog (files : Files) (c : Config) : Files :=
  match c.logging.file with
  | none => files
  | some path =>
    let made := (files.makeDirectories (Path.folder path)).bind fun files =>
      if rotates c then .ok files else files.append (Path.bare path) .empty
    made.toOption.getD files

/-- Run a controller over a history. -/
def run (json : Bool) (c : Config) (s : Surroundings) (o : RunOptions) (lockout : Bool)
    (rounds : List (Round SimulatedSensor)) : Answer :=
  match s.openRun c lockout with
  | .error r => ofReport json s.files r
  | .ok system => ofRun json c (PackGuard.run o false rounds system)

/-- Do what a command says. A run without a number of ticks ends with the history given. -/
def perform (json : Bool) (c : Config) (s : Surroundings)
    (rounds : List (Round SimulatedSensor)) : Command → Answer
  | .run ticks renew lockout =>
    let rounds := match ticks with
      | some n => List.replicate n {}
      | none => rounds
    run json c s { maxTicks := ticks, selfRenew := renew } lockout rounds
  | .selfCheck => ofResult json s.files ((s.selfCheck c).map (checkLine json))
  | .renew ms =>
    let (r, files) := s.renewStored c ms
    ofResult json files (r.map (renewLine json))
  | .status => ofResult json s.files ((s.storedStatus c).map (statusLine json))

/-- Load the configuration and do what the arguments say. -/
def ofArguments (a : Arguments) (s : Surroundings) : Answer :=
  match Config.load s.files a.config a.table with
  | .error r => ofReport a.json s.files r
  | .ok c => match logFault? c with
    | some r => ofReport a.json s.files r
    | none => perform a.json c { s with files := withLog s.files c } [] a.command

/-- The name of the program and its version. -/
def version : String := "bms 0.1.0\n"

/-- How the program is called. -/
def usage : String :=
  "Usage: bms [--config FILE] [--calibration FILE] [--json] [--log-level LEVEL] COMMAND\n\n" ++
  "Commands:\n" ++
  "  run [--ticks N] [--renew] [--lockout]  run the controller\n" ++
  "  self-check                             poll and evaluate once\n" ++
  "  renew [--ms MS]                        renew the stored keep-alive\n" ++
  "  status                                 show the stored keep-alive\n" ++
  "  help                                   show this text\n"

/-- The exit code for a command line that makes no sense. -/
def exitUsage : Nat := 2

/-- The answer to a command line. -/
def ofWords (words : List String) (s : Surroundings) : Answer :=
  match Arguments.read words with
  | .execute a => ofArguments a s
  | .help => { output := usage, files := s.files }
  | .version => { output := version, files := s.files }
  | .refuse => { exitCode := exitUsage, errors := usage, files := s.files }

end Answer

end PackGuard
