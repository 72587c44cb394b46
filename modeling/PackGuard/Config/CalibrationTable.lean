import PackGuard.Config.Schema
import PackGuard.Number.Decimal
import PackGuard.Storage.Files
import PackGuard.Text.Blank
import PackGuard.Text.Separated

/-!
# Calibration tables

The calibration of single cells may come from a file of comma-separated records under the header
`cell,scale,offset`. **The table is accepted as a whole or not at all, and the first bad record
decides**; records count from 2, behind the header. Blanks around a field do not count.

`CalibrationTable.ofRecords` reads the records, `CalibrationTable.load` a file, and
`Config.calibrate` sets the rows apart for their cells.
-/

namespace PackGuard

/-! ## 1. Rows -/

/-- The calibration of one cell. -/
structure CalibrationRow where
  cell : CellIndex
  scale : Float32
  offset : Float32
deriving DecidableEq, Repr

/-- What is wrong with one record. -/
inductive RowDefect where
  | notText
  | fieldCount
  | notNumbers
  | cellZero
  | scale
  | offset
deriving DecidableEq, Repr

def RowDefect.message : RowDefect → String
  | notText => "CSV parse error: a field is not valid UTF-8"
  | fieldCount => "CSV error: not as many fields as the header has"
  | notNumbers => "CSV deserialize error: a field is not a number of its kind"
  | cellZero => "cell index is 1-based"
  | scale => "scale must be finite and non-zero"
  | offset => "offset must be finite"

/-- What is wrong with a table. -/
inductive TableDefect where
  | unreadable (path : String) (fault : FileFault)
  | header (names : List String)
  /-- The header cannot be read: for a fault of the system, or because it is no text. -/
  | headerUnreadable (path : String) (fault : Option FileFault)
  | row (number : Nat) (defect : RowDefect)
  | cellTwice (cell : CellIndex)
  | noRows
deriving DecidableEq, Repr

def TableDefect.message : TableDefect → String
  | unreadable path fault =>
    "open cell calibration CSV " ++ Path.quoted path ++ ": " ++ fault.message
  | header names =>
    "cell calibration CSV must have headers 'cell,scale,offset', got: " ++ ",".intercalate names
  | headerUnreadable path fault =>
    "read CSV headers " ++ Path.quoted path ++ ": " ++
      (fault.map FileFault.message).getD RowDefect.notText.message
  | row number defect => "invalid CSV row " ++ toString number ++ ": " ++ defect.message
  | cellTwice cell => "cell " ++ toString cell ++ " appears twice in calibration CSV"
  | noRows => "cell calibration CSV has no rows"

/-! ## 2. Fields -/

namespace CalibrationRow

/-- The value of a hexadecimal digit. -/
def hexDigit? (c : Char) : Option Nat :=
  if c.isDigit then some (c.toNat - '0'.toNat)
  else if 'a' ≤ c ∧ c ≤ 'f' then some (c.toNat - 'a'.toNat + 10)
  else if 'A' ≤ c ∧ c ≤ 'F' then some (c.toNat - 'A'.toNat + 10)
  else none

/-- A natural number in hexadecimal digits, at least one. -/
def hexadecimal? (cs : List Char) : Option Nat :=
  if cs.isEmpty then none
  else (cs.mapM hexDigit?).map fun ds => ds.foldl (fun n d => 16 * n + d) 0

/-- A natural number: decimal digits, or hexadecimal ones behind `0x`, either behind a plus sign. -/
def natural? : List Char → Option Nat
  | '0' :: 'x' :: cs => hexadecimal? (Numeral.withoutPlus cs)
  | cs => Numeral.natural? (Numeral.withoutPlus cs)

/-- A number of a cell. -/
def cell? (s : String) : Option CellIndex :=
  (natural? s.toList).bind fun n => if n < UInt16.size then some n.toUInt16 else none

def number? (s : String) : Option Float32 := (Numeral.read? s).map (·.toFloat32)

/-- The row that three fields denote. -/
def ofFields? : List String → Option CalibrationRow
  | [cell, scale, offset] => do some ⟨← cell? cell, ← number? scale, ← number? offset⟩
  | _ => none

/-- The first defect of a row that could be read. -/
def defect? (r : CalibrationRow) : Option RowDefect :=
  if r.cell == 0 then some .cellZero
  else if !(r.scale.isFinite && !(r.scale == 0)) then some .scale
  else if !r.offset.isFinite then some .offset
  else none

/-- The row that a record denotes. -/
def ofRecord (r : Separated.Record) : Except RowDefect CalibrationRow :=
  match Separated.texts? r with
  | none => .error .notText
  | some fields =>
    if fields.length != 3 then .error .fieldCount
    else match ofFields? (fields.map trimBlanks) with
      | none => .error .notNumbers
      | some row => match row.defect? with
        | some d => .error d
        | none => .ok row

end CalibrationRow

/-! ## 3. Tables -/

namespace CalibrationTable

/-- The names of the columns. -/
def header : List String := ["cell", "scale", "offset"]

/-- The rows of records with these numbers and on, behind rows for the cells given. -/
def rowsFrom (number : Nat) (seen : List CellIndex) :
    List Separated.Record → Except TableDefect (List CalibrationRow)
  | [] => .ok []
  | r :: rest => match CalibrationRow.ofRecord r with
    | .error d => .error (.row number d)
    | .ok row =>
      if seen.contains row.cell then .error (.cellTwice row.cell)
      else (rowsFrom (number + 1) (row.cell :: seen) rest).map (row :: ·)

/-- The rows below the header. -/
def body (rs : List Separated.Record) : Except TableDefect (List CalibrationRow) :=
  if rs.isEmpty then .error .noRows else rowsFrom 2 [] rs

/-- The rows of a table, given as the records of the file at a path. -/
def ofRecords (path : String) : List Separated.Record → Except TableDefect (List CalibrationRow)
  | [] => .error (.header [])
  | h :: rs => match Separated.texts? h with
    | none => .error (.headerUnreadable path none)
    | some names =>
      let names := names.map trimBlanks
      if names != header then .error (.header names) else body rs

/-- The rows of the table in a file. -/
def load (fs : Files) (path : String) : Except TableDefect (List CalibrationRow) :=
  match fs.read path with
  | .error .isDirectory => .error (.headerUnreadable path (some .isDirectory))
  | .error fault => .error (.unreadable path fault)
  | .ok content => ofRecords path (Separated.records content)

end CalibrationTable

/-! ## 4. Rows set apart for their cells -/

namespace CellOverride

/-- The override with the calibration of a row. -/
def calibrate (o : CellOverride) (r : CalibrationRow) : CellOverride :=
  { o with scale := some r.scale, offset := some r.offset }

/-- Overrides with a row: the first one for its cell takes the calibration, or a new one follows. -/
def place (r : CalibrationRow) : List CellOverride → List CellOverride
  | [] => [CellOverride.calibrate { index := r.cell } r]
  | o :: rest => if o.index == r.cell then o.calibrate r :: rest else o :: place r rest

end CellOverride

/-- The configuration with the rows of a calibration table over everything else that is set for
    their cells. -/
def Config.calibrate (c : Config) (rows : List CalibrationRow) : Config :=
  { c with cells := rows.foldl (fun cells r => CellOverride.place r cells) c.cells }

end PackGuard
