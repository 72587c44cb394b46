import PackGuard.Number.Binary

/-!
# Binary numbers written as decimal texts

Two ways of writing a value down:

* **shortest**: the fewest digits that read back as the same value, of these the nearest
  (`shortest`); which of two equally near ones are taken, and where the digits stand relative to the
  point, is a `Layout`;
* **fixed**: a given number of places, a half going to the even neighbour (`fixed`).

Both work on the exact value `m · 2^e` in natural numbers.
-/

namespace PackGuard.Decimal

open Float.Model (UnpackedFloat Format)

/-! ## 1. Fractions of two natural numbers -/

/-- A positive rational number `num / den`. -/
structure Fraction where
  num : Nat
  den : Nat
deriving DecidableEq, Repr

/-- `m · 2^e` as a fraction. -/
def Fraction.ofBinary (m : Nat) (e : Int) : Fraction :=
  if 0 ≤ e then ⟨m * Nat.pow 2 e.toNat, 1⟩ else ⟨m, Nat.pow 2 (-e).toNat⟩

/-- The fraction in units of `10^x`. -/
def Fraction.inUnits (f : Fraction) (x : Int) : Fraction :=
  if 0 ≤ x then ⟨f.num, f.den * Nat.pow 10 x.toNat⟩
  else ⟨f.num * Nat.pow 10 (-x).toNat, f.den⟩

/-- How many decimal digits a natural number has. -/
def digitCount (n : Nat) : Nat := (Nat.toDigits 10 n).length

/-- The exponent of the leading digit: `10^p ≤ f < 10^(p+1)`. -/
def Fraction.leading (f : Fraction) : Int :=
  if f.den ≤ f.num then (digitCount (f.num / f.den) : Int) - 1
  else
    let d := digitCount (f.den / f.num)
    if f.den ≤ f.num * Nat.pow 10 (d - 1) then 1 - (d : Int) else -(d : Int)

/-! ## 2. The shortest digits -/

/-- Digits `coefficient · 10^exponent`. -/
structure Digits where
  coefficient : Nat
  exponent : Int
deriving DecidableEq, Repr

/-- The interval of numbers that read back as one binary value, with that value: `lo`, `mid` and
    `hi` are numerators over the common denominator `den`; `closed` says whether the two ends
    belong to it. -/
structure Cell where
  lo : Nat
  mid : Nat
  hi : Nat
  den : Nat
  closed : Bool
deriving DecidableEq, Repr

/-- The interval around `m · 2^e`: half a step to each side, and a quarter of it below where the
    next smaller value lies twice as close. An even `m` keeps both ends. -/
def Cell.around (m : Nat) (e : Int) (closeBelow : Bool) : Cell :=
  let unit := Fraction.ofBinary 1 (e - 2)
  { lo := (if closeBelow then 4 * m - 1 else 4 * m - 2) * unit.num
    mid := 4 * m * unit.num
    hi := (4 * m + 2) * unit.num
    den := unit.den
    closed := m % 2 == 0 }

/-- Whether the point `k · 10^x` reads back as the value of the cell. -/
def Cell.holds (c : Cell) (k : Nat) (x : Int) : Bool :=
  let step := Fraction.inUnits ⟨1, 1⟩ (-x)
  let point := k * step.num * c.den
  let lo := c.lo * step.den
  let hi := c.hi * step.den
  if c.closed then lo ≤ point && point ≤ hi else lo < point && point < hi

/-- Which of two equally near numbers is taken. -/
inductive Tie where
  | upper
  | even
deriving DecidableEq, Repr

/-- Whether of `n` and `n + 1` the lower one is taken when they are equally near. -/
def Tie.takesLower (n : Nat) : Tie → Bool
  | upper => false
  | even => n % 2 == 0

/-- The point of the grid `10^x` that reads back as the value: if both neighbours do, the nearer one,
    and the one that `tie` takes if they are equally near. -/
def Cell.gridPoint? (c : Cell) (tie : Tie) (x : Int) : Option Digits :=
  let q := Fraction.inUnits ⟨c.mid, c.den⟩ x
  let below := q.num / q.den
  let rest := q.num % q.den
  let useBelow := c.holds below x
  let useAbove := c.holds (below + 1) x
  let lower := 2 * rest < q.den || 2 * rest == q.den && tie.takesLower below
  if useBelow && (!useAbove || lower) then some ⟨below, x⟩
  else if useAbove then some ⟨below + 1, x⟩
  else none

/-- The coarsest of the grids with one to `most` digits that has a point in the cell. -/
def Cell.shortest (c : Cell) (tie : Tie) (most : Nat) : Digits :=
  let p := Fraction.leading ⟨c.mid, c.den⟩
  let grids := (List.range most).map fun (k : Nat) => p - k
  (grids.findSome? (c.gridPoint? tie)).getD ⟨0, 0⟩

/-- The shortest digits of a positive value of a format: `most` digits always suffice for it. -/
def shortest (spec : Format) (tie : Tie) (most m : Nat) (e : Int) : Digits :=
  let closeBelow := m == Nat.pow 2 (spec.mantissaBits - 1) && decide (spec.minExponent < e)
  (Cell.around m e closeBelow).shortest tie most

/-! ## 3. Layouts -/

/-- How a value is written: of two equally near shortest digits `tie` takes one; values with leading
    exponent from `least` to `greatest` are written positionally and always show a point; the others
    get an exponent, with a plus sign if `plus`. -/
structure Layout where
  tie : Tie
  least : Int
  greatest : Int
  plus : Bool
  nan : String
  infinity : String

/-- The digits without trailing zeros, and the exponent behind the last of them. -/
def Digits.trimmed (d : Digits) : List Char × Int :=
  let cs := Nat.toDigits 10 d.coefficient
  let kept := (cs.reverse.dropWhile (· == '0')).reverse
  (kept, d.exponent + (cs.length - kept.length : Nat))

/-- The digits set out according to a layout. -/
def Digits.layOut (d : Digits) (l : Layout) : String :=
  let (cs, x) := d.trimmed
  let p : Int := x + (cs.length : Int) - 1
  if l.least ≤ p ∧ p ≤ l.greatest then
    if 0 ≤ x then String.ofList (cs ++ List.replicate x.toNat '0' ++ ['.', '0'])
    else if 0 ≤ p then
      let whole := (p + 1).toNat
      String.ofList (cs.take whole ++ ['.'] ++ cs.drop whole)
    else String.ofList ('0' :: '.' :: List.replicate (-p - 1).toNat '0' ++ cs)
  else
    let mantissa := match cs with
      | [c] => [c]
      | c :: r => c :: '.' :: r
      | [] => []
    let sign := if p < 0 then "-" else if l.plus then "+" else ""
    String.ofList mantissa ++ "e" ++ sign ++ toString p.natAbs

/-- The sign of a negative number. -/
def signText : UnpackedFloat.Sign → String
  | .negative => "-"
  | .positive => ""

/-- The shortest text of an exact value in a format. -/
def write (spec : Format) (most : Nat) (l : Layout) : UnpackedFloat → String
  | .notANumber => l.nan
  | .infinity s => signText s ++ l.infinity
  | .zero s => signText s ++ "0.0"
  | .finite s m e _ => signText s ++ (shortest spec l.tie most m e).layOut l

/-- The shortest text of a 32-bit value. -/
def write32 (l : Layout) (x : Float32) : String := write .binary32 9 l x.toModel.unpack

/-- The shortest text of a 64-bit value. -/
def write64 (l : Layout) (x : Float) : String := write .binary64 17 l x.toModel.unpack

/-! ## 4. Fixed places -/

/-- The quotient rounded to the nearest natural number, a half going to the even neighbour. -/
def roundDiv (num den : Nat) : Nat :=
  let q := num / den
  let r := num % den
  if 2 * r < den then q else if den < 2 * r then q + 1 else q + q % 2

/-- A natural number of units `10^-places` as a text with that many places. -/
def placesText (places n : Nat) : String :=
  let cs := Nat.toDigits 10 n
  let padded := List.replicate (places + 1 - cs.length) '0' ++ cs
  let whole := padded.length - places
  String.ofList (padded.take whole ++ (if places = 0 then [] else '.' :: padded.drop whole))

/-- A 32-bit value with `places` decimal places. -/
def fixed (places : Nat) (x : Float32) : String :=
  match x.toModel.unpack with
  | .notANumber => "NaN"
  | .infinity s => signText s ++ "inf"
  | .zero s => signText s ++ placesText places 0
  | .finite s m e _ =>
    let f := Fraction.ofBinary m e
    signText s ++ placesText places (roundDiv (f.num * Nat.pow 10 places) f.den)

end PackGuard.Decimal
