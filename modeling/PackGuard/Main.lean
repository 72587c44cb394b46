import PackGuard.Command.Answer
import Std.Time.DateTime.Timestamp

/-!
# The program

The outer layer around `Answer`: it reads the files that a command looks at, lets the library
decide, writes the changed files and prints. A run without an end of its own follows the real time.
-/

namespace PackGuard.Program

/-! ## 1. Files -/

/-- Whether there is a directory at a place. -/
def isDirectory (place : List String) : IO Bool :=
  try
    let _ ← IO.FS.realPath ("/" ++ "/".intercalate (place ++ ["."]))
    pure true
  catch _ => pure false

/-- What is at a place, if anything can be found there. -/
def entryAt (place : List String) : IO (Option FileEntry) := do
  if ← isDirectory place then pure (some .directory)
  else
    try
      pure (some (.file (← IO.FS.readBinFile ("/" ++ "/".intercalate place))))
    catch _ => pure none

/-- The files with what is at a path and on the way there. -/
def observe (files : Files) (path : String) : IO Files := do
  let mut files := files
  for p in Path.places files.working path do
    match ← entryAt p with
    | some e => files := files.put p e
    | none => files := files.drop p
  pure files

/-- The files at some paths, as seen from the working directory. -/
def observeAll (paths : List String) : IO Files := do
  let working := Path.parts (← IO.currentDir).toString
  let mut files : Files := { working := working }
  for path in paths do
    files ← observe files path
  pure files

/-- Store the content that a file has, by way of its temporary file, if it changed. -/
def store (before after : Files) (path : String) : IO Unit := do
  match before.read path, after.read path with
  | .ok old, .ok new => if old != new then replace new
  | .error _, .ok new => replace new
  | _, .error _ => pure ()
where
  /-- Replace the file as a whole. -/
  replace (content : ByteArray) : IO Unit := do
    IO.FS.writeBinFile (Files.temporary path) content
    IO.FS.rename (Files.temporary path) path

/-- Make a place for logs, as far as that can be done. -/
def beginLog (c : Config) : IO Unit := do
  for path in c.logging.file.toList do
    try
      let folder := Path.folder path
      if !folder.isEmpty then IO.FS.createDirAll folder
      if !Answer.rotates c then IO.FS.withFile (Path.bare path) .append fun _ => pure ()
    catch _ => pure ()

/-! ## 2. Texts -/

/-- Print an answer. -/
def finish (answer : Answer) : IO UInt32 := do
  IO.print answer.output
  IO.eprint answer.errors
  pure answer.exitCode.toUInt32

/-- The wall clock in milliseconds. -/
def wallClock : IO Nat := do
  let now ← Std.Time.Timestamp.now
  pure now.toMillisecondsSinceUnixEpoch.val.toNat

/-- Write events where they belong. -/
def writeEvents (json : Bool) (c : Config) (events : List Event) : IO Unit := do
  IO.print (Answer.shownEvents json c events)
  match c.logging.events with
  | none => pure ()
  | some path =>
    IO.FS.withFile path .append fun h => h.putStr (Answer.eventLines events)

/-! ## 3. Runs in real time -/

/-- A run in real time: where its events go, the keep-alive's file, and when it began. -/
structure Live where
  json : Bool
  config : Config
  options : RunOptions
  began : Nat

/-- Write new events and the changed store. -/
def Live.publish (l : Live) (seen : Nat) (before : Files) (s : System SimulatedSensor) :
    IO Nat := do
  writeEvents l.json l.config (s.controller.eventsSince seen)
  for path in l.config.keepAlivePath.toList do
    store before s.files path
  pure s.controller.log.length

/-- Sleep for a tick of real time while the workers poll. -/
def Live.sleep (l : Live) (s : System SimulatedSensor) : IO (System SimulatedSensor) := do
  IO.sleep s.controller.settings.contactor.tick.toUInt32
  let passed := (← IO.monoMsNow) - l.began
  pure (s.elapse (passed - s.clock.elapsed))

/-- The system with the keep-alive's file as it is now. -/
def Live.refresh (l : Live) (s : System SimulatedSensor) : IO (System SimulatedSensor) := do
  let mut files := s.files
  for path in l.config.keepAlivePath.toList do
    files ← observe files path
  pure { s with files := files }

/-- The loop up to the last tick or the first failure. -/
partial def Live.loop (l : Live) (seen : Nat) (r : RunState SimulatedSensor) :
    IO (Nat × Option Failure × RunState SimulatedSensor) := do
  if r.finished l.options false then pure (seen, none, r)
  else
    let r := { r with system := ← l.refresh r.system }
    let before := r.system.files
    let (failure, r) := r.pass l.options
    let seen ← l.publish seen before r.system
    if failure.isSome then pure (seen, failure, r)
    else l.loop seen { r with system := ← l.sleep r.system }

/-- Run a controller in real time. -/
def Live.run (l : Live) (s : System SimulatedSensor) : IO UInt32 := do
  let (failure, s) := s.start
  let seen ← l.publish 0 s.files s
  let (seen, failure, r) ←
    if failure.isSome then pure (seen, failure, ({ system := s } : RunState SimulatedSensor))
    else l.loop seen { system := s.elapse 0 }
  let (closing, s) := r.system.shutdown
  let s := s.drop
  let _ ← l.publish seen r.system.files s
  let result : Except Report String := match failure <|> closing with
    | some f => .error (.ofFailure f)
    | none => .ok (Answer.runLine l.json r.summary)
  finish (Answer.ofResult l.json s.files result)

/-! ## 4. Commands -/

/-- Do a command on a configuration. -/
def perform (a : Arguments) (c : Config) (s : Surroundings) : IO UInt32 := do
  match a.command with
  | .run ticks renew lockout =>
    match s.openRun c lockout with
    | .error r => finish (Answer.ofReport a.json s.files r)
    | .ok system =>
      let options : RunOptions := { maxTicks := ticks, selfRenew := renew }
      Live.run ⟨a.json, c, options, ← IO.monoMsNow⟩ system
  | command =>
    let answer := Answer.perform a.json c s [] command
    for path in c.keepAlivePath.toList do
      store s.files answer.files path
    finish answer

/-- Load the configuration and do what the arguments say. -/
def execute (a : Arguments) : IO UInt32 := do
  let files ← observeAll (a.config :: a.table.toList)
  match Config.load files a.config a.table with
  | .error r => finish (Answer.ofReport a.json files r)
  | .ok c => match Answer.logFault? c with
    | some r => finish (Answer.ofReport a.json files r)
    | none =>
      beginLog c
      let files ← observeAll (c.keepAlivePath.toList ++ c.logging.events.toList)
      perform a c
        { files := files, wall := ← wallClock, packVoltage := ← IO.getEnv "BMS_SIM_PACK_V" }

end PackGuard.Program

/-- The command line of the program. -/
def main (words : List String) : IO UInt32 :=
  match PackGuard.Arguments.read words with
  | .execute a => PackGuard.Program.execute a
  | _ => PackGuard.Program.finish (PackGuard.Answer.ofWords words { files := {} })
