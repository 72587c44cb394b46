import PackGuard.Failure
import PackGuard.Storage.Files
import PackGuard.Toml.Moment

/-!
# The stored deadline

The deadline of the keep-alive survives a restart in a file of one line, `deadline_ms = ` and a
number, which is wall-clock milliseconds. Reading accepts any TOML document with such a key; **a
missing file is no deadline, anything else that is not a deadline is a failure**.
-/

namespace PackGuard.Deadline

/-- The greatest number a document can hold. -/
def greatest : Nat := 9223372036854775807

/-- The document that holds a deadline; one that is too great is held as the greatest number. -/
def document (deadline : Nat) : String :=
  "deadline_ms = " ++ toString (min deadline greatest) ++ "\n"

/-- The deadline a document holds. -/
def ofDocument? (v : Toml.Value) : Option Nat :=
  ((v.get? "deadline_ms").bind Toml.Value.integer?).bind fun n =>
    if 0 ≤ n then some n.toNat else none

/-- What goes wrong with the content of a stored deadline. -/
def ofText (path text : String) : Except Failure Nat :=
  match Toml.freeDocument? text with
  | none => .error (.io ("parse " ++ path ++ ": not a document"))
  | some v => match ofDocument? v with
    | some n => .ok n
    | none => .error (.io (path ++ ": missing or negative deadline_ms"))

/-- Read the stored deadline. -/
def read (fs : Files) (path : String) : Except Failure (Option Nat) :=
  match fs.readText path with
  | .error .notFound => .ok none
  | .error fault => .error (.io ("read " ++ path ++ ": " ++ fault.message))
  | .ok text => (ofText path text).map some

/-- Store a deadline. -/
def write (fs : Files) (path : String) (deadline : Nat) : Option Failure × Files :=
  let (fault, fs) := fs.writeAtomic path (document deadline).toUTF8
  (fault.map fun f => .io ("write " ++ path ++ ": " ++ f.message), fs)

end PackGuard.Deadline
