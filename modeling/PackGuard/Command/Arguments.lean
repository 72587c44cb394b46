import PackGuard.Number.Decimal

/-!
# The command line

  `bms [--config FILE] [--calibration FILE] [--json] [--log-level LEVEL] COMMAND …`

with the commands `run`, `self-check`, `renew`, `status` and `help`. The options before the command
are for all commands, those behind it for this one. A value follows its option as the next word,
which must not look like an option, or behind an equals sign. **No option may be given twice.** The
words are read from left to right, and the first request for help, or for the version, or the first
word that makes no sense decides.
-/

namespace PackGuard

/-! ## 1. What can be asked for -/

/-- A command with its options. -/
inductive Command where
  /-- Run the controller, for a number of ticks or until it is stopped. -/
  | run (ticks : Option Nat) (renew lockout : Bool)
  /-- Poll and evaluate once without closing the contactor. -/
  | selfCheck
  /-- Renew the stored keep-alive, for some milliseconds or a whole period. -/
  | renew (ms : Option Nat)
  /-- Show the stored keep-alive. -/
  | status
deriving DecidableEq, Repr

/-- A command with the options that all commands have. -/
structure Arguments where
  config : String := "etc/bms.toml"
  table : Option String := none
  json : Bool := false
  logLevel : String := "info"
  command : Command
deriving DecidableEq, Repr

/-- What a command line asks for. -/
inductive Request where
  | execute (arguments : Arguments)
  | help
  | version
  /-- The command line makes no sense. -/
  | refuse
deriving DecidableEq, Repr

namespace Arguments

/-! ## 2. Options -/

/-- What an option takes: nothing, or a value that passes a test. -/
inductive OptionKind where
  | flag
  | value (test : String → Bool)

/-- Options by their names. -/
abbrev OptionTable := List (String × OptionKind)

/-- The options that were given, with their values. -/
abbrev Given := List (String × String)

/-- Where the reading of options ends. -/
inductive Stop where
  /-- At a word that is no option. -/
  | word (word : String) (rest : List String) (given : Given)
  | finished (given : Given)
  | help
  | version
  | refuse

/-- A word of the command line. -/
inductive Word where
  /-- A long option, with the value behind its equals sign. -/
  | long (name : String) (value : Option String)
  /-- Short options behind a single dash. -/
  | short (first : Char)
  /-- Two dashes: no options follow. -/
  | finish
  | plain
deriving DecidableEq, Repr

/-- The name of a long option and the value behind an equals sign. -/
def splitLong (cs : List Char) : Word :=
  let name := cs.takeWhile (· != '=')
  .long (String.ofList name)
    (match cs.drop name.length with
      | '=' :: value => some (String.ofList value)
      | _ => none)

/-- How a word reads. -/
def wordOf (s : String) : Word :=
  match s.toList with
  | ['-', '-'] => .finish
  | '-' :: '-' :: cs => splitLong cs
  | '-' :: c :: _ => .short c
  | _ => .plain

/-- An option with a value, if it may be given. -/
def Given.add? (given : Given) (table : OptionTable) (name value : String) : Option Given :=
  match table.lookup name with
  | some (.value test) =>
    if test value && (given.lookup name).isNone then some ((name, value) :: given) else none
  | _ => none

/-- A flag, if it may be given. -/
def Given.addFlag? (given : Given) (table : OptionTable) (name : String) : Option Given :=
  match table.lookup name with
  | some .flag => if (given.lookup name).isNone then some ((name, "") :: given) else none
  | _ => none

/-- Whether an option takes a value. -/
def takesValue (table : OptionTable) (name : String) : Bool :=
  match table.lookup name with
  | some (.value _) => true
  | _ => false

/-- Read options up to the first other word. `versioned` says whether the version may be asked
    for. -/
def readOptions (table : OptionTable) (versioned : Bool) (given : Given) : List String → Stop
  | [] => .finished given
  | w :: rest => match wordOf w with
    | .plain => .word w rest given
    | .finish => if rest.isEmpty then .finished given else .refuse
    | .short 'h' => .help
    | .short 'V' => if versioned then .version else .refuse
    | .short _ => .refuse
    | .long name (some value) => match given.add? table name value with
      | some given => readOptions table versioned given rest
      | none => .refuse
    | .long name none =>
      if takesValue table name then
        match rest with
        | [] => .refuse
        | value :: rest =>
          if wordOf value == .plain then
            match given.add? table name value with
            | some given => readOptions table versioned given rest
            | none => .refuse
          else .refuse
      else if name == "help" then .help
      else if name == "version" && versioned then .version
      else match given.addFlag? table name with
        | some given => readOptions table versioned given rest
        | none => .refuse

/-! ## 3. Commands -/

/-- A number of 64 bits. -/
def number? (s : String) : Option Nat :=
  (Numeral.natural? (Numeral.withoutPlus s.toList)).bind fun n =>
    if n < UInt64.size then some n else none

def isNumber : OptionKind := .value fun s => (number? s).isSome

/-- A path, which must not be empty. -/
def isPath : OptionKind := .value fun s => !s.isEmpty

def isText : OptionKind := .value fun _ => true

/-- The options for all commands. -/
def commonOptions : OptionTable :=
  [("config", isPath), ("calibration", isPath), ("json", .flag), ("log-level", isText)]

/-- The options of a command, if there is such a command. -/
def commandOptions? (name : String) : Option OptionTable :=
  [ ("run", [("ticks", isNumber), ("renew", .flag), ("lockout", .flag)]),
    ("self-check", []),
    ("renew", [("ms", isNumber)]),
    ("status", []) ].lookup name

/-- Whether a flag was given. -/
def Given.has (given : Given) (name : String) : Bool := (given.lookup name).isSome

/-- The number that was given for an option. -/
def Given.number? (given : Given) (name : String) : Option Nat :=
  (given.lookup name).bind Arguments.number?

/-- The command of a name with its options. -/
def command? (name : String) (given : Given) : Option Command :=
  match name with
  | "run" => some (.run (given.number? "ticks") (given.has "renew") (given.has "lockout"))
  | "self-check" => some .selfCheck
  | "renew" => some (.renew (given.number? "ms"))
  | "status" => some .status
  | _ => none

/-- The arguments of a command with its options behind options for all commands. -/
def build (common given : Given) (name : String) : Request :=
  match command? name given with
  | none => .refuse
  | some c => .execute
    { config := (common.lookup "config").getD "etc/bms.toml"
      table := common.lookup "calibration"
      json := common.has "json"
      logLevel := (common.lookup "log-level").getD "info"
      command := c }

/-- Whether help can be asked for about these words. -/
def isTopic : List String → Bool
  | [] => true
  | [name] => name == "help" || (commandOptions? name).isSome
  | _ => false

/-- Read a command and its options. -/
def readCommand (common : Given) (name : String) (rest : List String) : Request :=
  if name == "help" then if isTopic rest then .help else .refuse
  else match commandOptions? name with
    | none => .refuse
    | some table => match readOptions table false [] rest with
      | .finished given => build common given name
      | .help => .help
      | _ => .refuse

/-- What a command line asks for. -/
def read (words : List String) : Request :=
  match readOptions commonOptions true [] words with
  | .word name rest common => readCommand common name rest
  | .help => .help
  | .version => .version
  | _ => .refuse

end Arguments

end PackGuard
