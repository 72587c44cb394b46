/-!
# Values of a TOML document

A document is a table. Of a date or a time only the fact that one was written matters here, so a
moment carries nothing.
-/

namespace PackGuard.Toml

/-- A value of a TOML document. -/
inductive Value where
  | string (text : String)
  | integer (n : Int)
  | float (x : Float)
  | boolean (b : Bool)
  | moment
  | array (items : List Value)
  | table (entries : List (String × Value))
deriving Repr, Inhabited

namespace Value

/-- The value under a key of a table. -/
def get? (v : Value) (key : String) : Option Value :=
  match v with
  | table entries => entries.lookup key
  | _ => none

/-- The whole number that a value is. -/
def integer? : Value → Option Int
  | integer n => some n
  | _ => none

end Value

end PackGuard.Toml
