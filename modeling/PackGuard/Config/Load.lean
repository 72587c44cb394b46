import PackGuard.Config.CalibrationTable
import PackGuard.Config.Check
import PackGuard.Config.Decode
import PackGuard.Report

/-!
# Configurations from files

A configuration file is read, the calibration table, if there is one, is laid over it, and the whole
is checked. What comes out has no defect.
-/

namespace PackGuard.Config

/-- The configuration in a file. -/
def readFile (fs : Files) (path : String) : Except Report Config :=
  match fs.readText path with
  | .error fault => .error ((Report.ofText fault.message).wrap ("read config " ++ path))
  | .ok text => match ofText? text with
    | none => .error (.ofText ("parse config " ++ path ++ ": not a configuration"))
    | some c => .ok c

/-- The configuration under the calibration table in a file. -/
def readTable (fs : Files) (c : Config) : Option String → Except Report Config
  | none => .ok c
  | some path => match CalibrationTable.load fs path with
    | .error d => .error ((Report.ofText d.message).wrap ("load calibration CSV " ++ path))
    | .ok rows => .ok (c.calibrate rows)

/-- The configuration, if it has no defect. -/
def checked (c : Config) : Except Report Config :=
  match c.defect? with
  | some d => .error (.ofFailure (.configInvalid d.message))
  | none => .ok c

/-- The configuration in a file, with a calibration table in another. -/
def load (fs : Files) (path : String) (table : Option String) : Except Report Config :=
  match readFile fs path with
  | .error r => .error r
  | .ok c => match readTable fs c table with
    | .error r => .error r
    | .ok c => c.checked

end PackGuard.Config
