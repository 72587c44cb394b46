/-!
# Records of comma-separated fields

A file is read byte by byte, so that a field need not be text. A record ends at a line feed or a
carriage return, and lines without anything on them are no records. A field that **begins** with a
quote runs to the closing quote and may hold commas and line ends; two quotes inside it stand for
one, and what follows the closing quote is taken as it is. The end of the file ends every record.
-/

namespace PackGuard.Separated

/-! ## 1. Fields and records -/

/-- A field, as bytes. -/
abbrev Field := List UInt8

/-- A record, as fields. -/
abbrev Record := List Field

def comma : UInt8 := 0x2c

def quote : UInt8 := 0x22

def isLineEnd (b : UInt8) : Bool := b == 0x0a || b == 0x0d

/-- Where the reader stands. -/
inductive Place where
  /-- Before a record. -/
  | outside
  /-- Before a field that is not the first of its record. -/
  | before
  | plain
  | quoted
  /-- Behind a quote inside a quoted field. -/
  | closing
deriving DecidableEq, Repr

/-- A record under way: its fields, the latest first, and the bytes of the present field, the
    latest first. -/
structure Draft where
  fields : Record := []
  field : Field := []
deriving DecidableEq, Repr

namespace Draft

def add (d : Draft) (b : UInt8) : Draft := { d with field := b :: d.field }

/-- The present field is complete. -/
def endField (d : Draft) : Draft := { fields := d.field.reverse :: d.fields }

/-- The record, whose last field is the present one. -/
def record (d : Draft) : Record := d.endField.fields.reverse

end Draft

/-- What a byte does to a field that is not inside quotes: where the reader stands behind it, or
    `none` if the record ends. -/
def step (d : Draft) (b : UInt8) : Option (Place × Draft) :=
  if b == comma then some (.before, d.endField)
  else if isLineEnd b then none
  else some (.plain, d.add b)

/-- The records of a file, from a place inside a draft. -/
def scan : List UInt8 → Place → Draft → List Record
  | [], .outside, _ => []
  | [], _, d => [d.record]
  | b :: rest, .quoted, d =>
    if b == quote then scan rest .closing d else scan rest .quoted (d.add b)
  | b :: rest, place, d =>
    if place == .outside && isLineEnd b then scan rest .outside d
    else if (place == .outside || place == .before) && b == quote then scan rest .quoted d
    else if place == .closing && b == quote then scan rest .quoted (d.add b)
    else match step d b with
      | some (next, d) => scan rest next d
      | none => d.record :: scan rest .outside {}

/-- The bytes behind the mark that may open a text file. -/
def withoutMark : List UInt8 → List UInt8
  | 0xef :: 0xbb :: 0xbf :: rest => rest
  | bytes => bytes

/-- The records of a file. -/
def records (content : ByteArray) : List Record := scan (withoutMark content.toList) .outside {}

/-! ## 2. Records of texts -/

/-- The fields of a record as texts, if they all are. -/
def texts? (r : Record) : Option (List String) :=
  r.mapM fun f => String.fromUTF8? ⟨f.toArray⟩

end PackGuard.Separated
