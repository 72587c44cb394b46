import PackGuard.Failure
import PackGuard.Text.Json

/-!
# Reports of failures

A report is what reaches the operator when a command fails: a chain of items, the outermost first,
each the cause of the one before. Contexts are added in front (`Report.wrap`), so **a failure keeps
its kind below any number of contexts**: the first build failure in the chain decides, or else the
first failure of an operation (`Report.origin?`). A report without either is about the
configuration if its outermost text says so.

From the chain follow the short name of the class, the exit code, the explanation for people, and
one line of JSON.
-/

namespace PackGuard

/-! ## 1. Chains -/

/-- One item of a report. -/
inductive ReportItem where
  | text (text : String)
  | failure (failure : Failure)
  | build (failure : BuildFailure)
deriving DecidableEq, Repr

def ReportItem.message : ReportItem → String
  | text s => s
  | failure f => f.message
  | build f => f.message

/-- A report: its outermost item and the causes behind it. -/
structure Report where
  top : ReportItem
  causes : List ReportItem := []
deriving DecidableEq, Repr

namespace Report

def ofText (text : String) : Report := { top := .text text }

def ofFailure (f : Failure) : Report := { top := .failure f }

def ofBuild (f : BuildFailure) : Report := { top := .build f }

/-- All items, the outermost first. -/
def items (r : Report) : List ReportItem := r.top :: r.causes

/-- The report in a further context. -/
def wrap (r : Report) (context : String) : Report := { top := .text context, causes := r.items }

/-- The outermost text. -/
def message (r : Report) : String := r.top.message

/-- The innermost item. -/
def root (r : Report) : ReportItem := r.causes.getLast?.getD r.top

/-! ## 2. Classes -/

/-- The failure that a report goes back to. -/
inductive Origin where
  | build (failure : BuildFailure)
  | failure (failure : Failure)
deriving DecidableEq, Repr

/-- The first build failure of a chain. -/
def build? (items : List ReportItem) : Option BuildFailure :=
  items.findSome? fun
    | .build f => some f
    | _ => none

/-- The first failure of an operation in a chain. -/
def failure? (items : List ReportItem) : Option Failure :=
  items.findSome? fun
    | .failure f => some f
    | _ => none

/-- The failure that a report goes back to: a build failure before any other. -/
def origin? (r : Report) : Option Origin :=
  match build? r.items with
  | some f => some (.build f)
  | none => (failure? r.items).map .failure

/-- Whether a text occurs in another. -/
def occurs (part : List Char) : List Char → Bool
  | [] => part.isEmpty
  | c :: cs => part.isPrefixOf (c :: cs) || occurs part cs

/-- Whether the outermost text, in small letters, is about the configuration. -/
def aboutConfig (r : Report) : Bool :=
  let small := r.message.toList.map Char.toLower
  "parse config".toList.isPrefixOf small || "read config".toList.isPrefixOf small ||
    occurs "calibration csv".toList small

/-- The short name of the class of a report. -/
def reason (r : Report) : String :=
  match r.origin? with
  | some (.build _) => "Build"
  | some (.failure f) => f.name
  | none => if r.aboutConfig then "ConfigInvalid" else "Error"

/-- The configuration was rejected. -/
def exitConfig : Nat := 3

/-- An output or the stored deadline failed. -/
def exitOutput : Nat := 4

/-- Anything else. -/
def exitOther : Nat := 1

/-- The exit code of a failure of an operation. -/
def failureExit : Failure → Nat
  | .configInvalid _ => exitConfig
  | .relay _ => exitOutput
  | .io _ => exitOutput
  | _ => exitOther

def exitCode (r : Report) : Nat :=
  match r.origin? with
  | some (.build _) => exitConfig
  | some (.failure f) => failureExit f
  | none => if r.aboutConfig then exitConfig else exitOther

/-! ## 3. Explanations -/

/-- What happened, likely causes, and how to fix it. -/
def explain (happened causes fix : String) : String :=
  "What happened: " ++ happened ++ ".\nLikely causes: " ++ causes ++ "\nHow to fix: " ++ fix

/-- The explanation of an invalid configuration. -/
def explainConfig (text : String) : String :=
  explain ("Invalid configuration (" ++ text ++ ")") "Missing or out-of-range values in the TOML."
    "Edit the config file, then rerun."

def explainBuild : BuildFailure → String
  | .missingRelay =>
    explain "No relay output was provided to the controller"
      "The contactor driver failed to initialize." "Check [relay] pin and GPIO permissions."
  | .missingBalancer =>
    explain "No balance output was provided to the controller"
      "The bleed-resistor outputs failed to initialize."
      "Check [balance] pins and GPIO permissions."
  | .missingConfig =>
    "What happened: The controller was built without a configuration.\n" ++
      "How to fix: Pass --config with a valid TOML file."
  | .invalidConfig text => explainConfig text

def explainFailure : Failure → String
  | .configInvalid text => explainConfig text
  | .relay text =>
    explain ("The relay or balance output failed (" ++ text ++ ")")
      "Wiring, driver power or GPIO permissions."
      "Verify the contactor driver; the relay may be in an unknown position."
  | .io text =>
    explain ("File access failed (" ++ text ++ ")")
      "The keep-alive store or log directory is missing or not writable."
      "Check [keepalive] path and [logging] paths."
  | .sensorUnavailable text =>
    explain ("The sensor link is unavailable (" ++ text ++ ")")
      "Cable, bus address or power of the cell monitor."
      "Check the link and rerun with --log-level=debug."
  | f =>
    "What happened: " ++ f.message ++
      ".\nHow to fix: Re-run with --log-level=debug or set RUST_LOG for more detail."

/-- The explanation of a report that is about nothing in particular. -/
def explainOther (r : Report) : String :=
  let cause := match r.causes with
    | [] => ""
    | item :: _ => " Cause: " ++ item.message
  "Something went wrong." ++ cause ++
    "\nHow to fix: Re-run with --log-level=debug for details. Original: " ++ r.message

/-- Whether any item says that a calibration table has the wrong header. -/
def aboutHeader (r : Report) : Bool :=
  r.items.any fun i => occurs "calibration CSV must have headers".toList i.message.toList

/-- The explanation for people. -/
def explanation (r : Report) : String :=
  match r.origin? with
  | some (.build f) => explainBuild f
  | some (.failure f) => explainFailure f
  | none =>
    if r.aboutHeader then
      "Invalid headers in cell calibration CSV. Expected 'cell,scale,offset'."
    else if r.aboutConfig then explain r.message r.root.message "Fix the file and rerun."
    else r.explainOther

/-- The report as one line of JSON. -/
def json (r : Report) : String :=
  (Json.sorted
    [ ("reason", .string r.reason),
      ("exit_code", .whole r.exitCode),
      ("message", .string r.explanation) ]).render

end Report

end PackGuard
