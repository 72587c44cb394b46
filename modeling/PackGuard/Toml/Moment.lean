import PackGuard.Toml.Document

/-!
# Moments carried as texts

Where a document may hold anything, **a table whose first key is `momentKey` stands for the moment
that the text under this key denotes**; if it denotes none, the document means nothing. The table at
the top is never a moment.
-/

namespace PackGuard.Toml

/-! ## 1. Texts of moments -/

/-- Whether a text is a date, a time or both, and nothing else: the same texts as where a value is
    written without quotes. -/
def isMoment (cs : List Char) : Bool := (moment? cs).any fun (_, rest) => rest.isEmpty

/-! ## 2. Values with moments in them -/

/-- The first key of a table that stands for a moment. -/
def momentKey : String := "$__toml_private_datetime"

/-- What carries the moment for which a table stands, if it stands for one. -/
def carrier? : List (String × Value) → Option Value
  | [] => none
  | (k, v) :: _ => if k == momentKey then some v else none

/-- The moment that a value carries. -/
def carried? : Value → Option Value
  | .string text => if isMoment text.toList then some .moment else none
  | _ => none

mutual

/-- The value with a moment in place of every table that stands for one. -/
def Value.readMoments? : Value → Option Value
  | .array items => (itemMoments? items).map .array
  | .table entries => match carrier? entries with
    | some v => carried? v
    | none => (entryMoments? entries).map .table
  | v => some v

/-- The same for the items of an array. -/
def itemMoments? : List Value → Option (List Value)
  | [] => some []
  | v :: rest => v.readMoments?.bind fun v => (itemMoments? rest).map (v :: ·)

/-- The same for the entries of a table. -/
def entryMoments? : List (String × Value) → Option (List (String × Value))
  | [] => some []
  | (k, v) :: rest => v.readMoments?.bind fun v => (entryMoments? rest).map ((k, v) :: ·)

end

/-- The document that a text denotes, moments carried as texts being read. -/
def freeDocument? (text : String) : Option Value :=
  (document? text).bind fun
    | .table entries => (entryMoments? entries).map .table
    | v => some v

end PackGuard.Toml
