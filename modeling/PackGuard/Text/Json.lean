import PackGuard.Number.Shortest

/-!
# Lines of JSON

Events and reports are written as JSON on one line, without blanks and **with the keys of an object
in alphabetical order**. Numbers are whole or 32-bit values; what is no finite number is `null`.
-/

namespace PackGuard

/-- A JSON value. -/
inductive Json where
  | null
  | bool (b : Bool)
  | whole (n : Int)
  | number (x : Float32)
  | string (s : String)
  | array (items : List Json)
  | object (fields : List (String × Json))
deriving Inhabited

namespace Json

/-- A number is set out positionally from `1e-5` up to below `1e16`, and always shows a point or an
    exponent with its sign; of two equally near numbers it takes the one with an even last digit. -/
def numberLayout : Decimal.Layout where
  tie := .even
  least := -5
  greatest := 15
  plus := true
  nan := "null"
  infinity := "null"

/-- The shortest text of a 32-bit value as a 64-bit one. -/
def numberText (x : Float32) : String :=
  if x.isFinite then Decimal.write64 numberLayout (Binary.widen x) else "null"

/-- A hexadecimal digit. -/
def hexDigit (n : Nat) : Char := (Nat.digitChar n)

/-- A character inside a string. -/
def escaped (c : Char) : List Char :=
  if c == '"' then ['\\', '"']
  else if c == '\\' then ['\\', '\\']
  else if c == '\n' then ['\\', 'n']
  else if c == '\r' then ['\\', 'r']
  else if c == '\t' then ['\\', 't']
  else if c == '\x08' then ['\\', 'b']
  else if c == '\x0c' then ['\\', 'f']
  else if c.toNat < 0x20 then
    ['\\', 'u', '0', '0', hexDigit (c.toNat / 16), hexDigit (c.toNat % 16)]
  else [c]

/-- A text in quotes. -/
def quoted (s : String) : String :=
  "\"" ++ String.ofList (s.toList.flatMap escaped) ++ "\""

mutual

/-- The text of a value. -/
def render : Json → String
  | null => "null"
  | bool b => if b then "true" else "false"
  | whole n => toString n
  | number x => numberText x
  | string s => quoted s
  | array items => "[" ++ ",".intercalate (renderItems items) ++ "]"
  | object fields => "\x7b" ++ ",".intercalate (renderFields fields) ++ "\x7d"

/-- The texts of the items of an array. -/
def renderItems : List Json → List String
  | [] => []
  | j :: rest => j.render :: renderItems rest

/-- The texts of the fields of an object. -/
def renderFields : List (String × Json) → List String
  | [] => []
  | (k, j) :: rest => (quoted k ++ ":" ++ j.render) :: renderFields rest

end

/-- An object whose fields are put into alphabetical order. -/
def sorted (fields : List (String × Json)) : Json :=
  object (fields.mergeSort fun a b => a.1 ≤ b.1)

end Json

end PackGuard
