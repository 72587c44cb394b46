import PackGuard.Number.Binary

/-!
# Decimal texts read as binary numbers

The texts `12`, `-3.5`, `.5`, `5.`, `1e-3`, `inf`, `infinity` and `nan` (the words in any case, each
with an optional sign) denote numbers. `Numeral.read?` decides which texts do, and `toFloat32`,
`toFloat` give the nearest binary value in a single rounding, ties to even.
-/

namespace PackGuard

/-- What a decimal text denotes: `± coefficient · 10^exponent`, or one of the special values. -/
inductive Numeral where
  | finite (negative : Bool) (coefficient : Nat) (exponent : Int)
  | infinite (negative : Bool)
  | notANumber (negative : Bool)
deriving DecidableEq, Repr

namespace Numeral

/-! ## 1. Digits -/

/-- The value of a digit text in base ten, read on top of `acc`. -/
def digitsValue (acc : Nat) (cs : List Char) : Nat :=
  cs.foldl (fun n c => 10 * n + (c.toNat - '0'.toNat)) acc

/-- A natural number: one digit or more and nothing else. -/
def natural? (cs : List Char) : Option Nat :=
  if cs.isEmpty then none else if cs.all Char.isDigit then some (digitsValue 0 cs) else none

/-- What stands behind a plus sign, or all if there is none. -/
def withoutPlus : List Char → List Char
  | '+' :: cs => cs
  | cs => cs

/-- The part behind an `e` or `E`: an optional sign, then digits. -/
def exponent? : List Char → Option Int
  | '-' :: cs => (natural? cs).map fun n => -(n : Int)
  | '+' :: cs => (natural? cs).map fun n => (n : Int)
  | cs => (natural? cs).map fun n => (n : Int)

/-! ## 2. Numerals -/

/-- Digits with an optional point and an optional exponent; a digit must stand before the
    exponent, on either side of the point. -/
def unsigned? (negative : Bool) (cs : List Char) : Option Numeral :=
  let whole := cs.takeWhile Char.isDigit
  let (fraction, rest) := match cs.dropWhile Char.isDigit with
    | '.' :: r => (r.takeWhile Char.isDigit, r.dropWhile Char.isDigit)
    | r => ([], r)
  if whole.isEmpty && fraction.isEmpty then none
  else
    let coefficient := digitsValue (digitsValue 0 whole) fraction
    match rest with
    | [] => some (.finite negative coefficient (-(fraction.length : Int)))
    | c :: r =>
      if c == 'e' || c == 'E' then
        (exponent? r).map fun x => .finite negative coefficient (x - fraction.length)
      else none

/-- A numeral without its sign: one of the words, or digits. -/
def magnitude? (negative : Bool) (cs : List Char) : Option Numeral :=
  let word := String.ofList (cs.map Char.toLower)
  if word == "inf" || word == "infinity" then some (.infinite negative)
  else if word == "nan" then some (.notANumber negative)
  else unsigned? negative cs

/-- The numeral a text denotes, if it denotes one. -/
def ofChars? : List Char → Option Numeral
  | '-' :: cs => magnitude? true cs
  | '+' :: cs => magnitude? false cs
  | cs => magnitude? false cs

/-- The numeral a text denotes, if it denotes one. -/
def read? (s : String) : Option Numeral := ofChars? s.toList

/-! ## 3. Binary values -/

/-- The nearest 32-bit value. -/
def toFloat32 : Numeral → Float32
  | .finite n c x =>
    let v : Float32 := OfScientific.ofScientific c (x < 0) x.natAbs
    if n then -v else v
  | .infinite n => if n then Binary.negInfinity else Binary.infinity
  | .notANumber _ => Binary.nan

/-- The nearest 64-bit value. -/
def toFloat : Numeral → Float
  | .finite n c x =>
    let v : Float := OfScientific.ofScientific c (x < 0) x.natAbs
    if n then -v else v
  | .infinite n => if n then -(1.0 / 0.0) else 1.0 / 0.0
  | .notANumber _ => 0.0 / 0.0

end Numeral

end PackGuard
