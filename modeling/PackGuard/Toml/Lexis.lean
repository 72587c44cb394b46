import PackGuard.Number.Decimal
import PackGuard.Toml.Value

/-!
# The words of TOML

Readers for everything in TOML 1.0 that does not nest: blanks and comments, strings of the four
kinds, keys, numbers, dates and times. A reader takes characters off the front and returns what it
read with the rest, or `none`.
-/

namespace PackGuard.Toml

/-- Takes something off the front of a text. -/
abbrev Reader (α : Type) := List Char → Option (α × List Char)

/-! ## 1. Blanks, comments, line ends -/

def isBlank (c : Char) : Bool := c == ' ' || c == '\t'

/-- What may stand in a comment: no control character but the tab. -/
def isPrintable (c : Char) : Bool :=
  c == '\t' || (0x20 ≤ c.toNat && c.toNat ≤ 0x7e) || 0x80 ≤ c.toNat

def skipBlanks (cs : List Char) : List Char := cs.dropWhile isBlank

/-- The text behind a line end: a line feed, alone or after a carriage return. -/
def newline? : List Char → Option (List Char)
  | '\n' :: r => some r
  | '\r' :: '\n' :: r => some r
  | _ => none

/-- The text behind a comment that may stand here. -/
def skipComment : List Char → List Char
  | '#' :: r => r.dropWhile isPrintable
  | cs => cs

/-- The text behind the rest of a line on which nothing but a comment is left. -/
def lineEnd? (cs : List Char) : Option (List Char) :=
  match skipComment (skipBlanks cs) with
  | [] => some []
  | r => newline? r

/-- The text behind any blanks, comments and line ends; a comment has to end in a line end. The
    first argument bounds the number of lines. -/
def skipLines : Nat → List Char → Option (List Char)
  | 0, _ => none
  | n + 1, cs =>
    let r := skipBlanks cs
    match newline? (skipComment r) with
    | some r => skipLines n r
    | none => match r with
      | '#' :: _ => none
      | _ => some r

/-! ## 2. Strings -/

/-- Where a scanner stands inside a string with escapes. -/
inductive StringState where
  /-- Between characters. -/
  | plain
  /-- Behind a backslash. -/
  | escaped
  /-- In a character number, with digits left to read. -/
  | code (left value : Nat)
  /-- Behind a backslash that stands last on its line; `crossed` once the line end is behind. -/
  | folding (crossed : Bool)
deriving DecidableEq, Repr

/-- The value of a hexadecimal digit. -/
def hexDigit? (c : Char) : Option Nat :=
  if c.isDigit then some (c.toNat - '0'.toNat)
  else if 'a' ≤ c ∧ c ≤ 'f' then some (c.toNat - 'a'.toNat + 10)
  else if 'A' ≤ c ∧ c ≤ 'F' then some (c.toNat - 'A'.toNat + 10)
  else none

/-- The character with a number, if there is one. -/
def charOfCode? (n : Nat) : Option Char := if n.isValidChar then some (Char.ofNat n) else none

/-- What a character behind a backslash stands for. -/
def escape? : Char → Option (Char ⊕ StringState)
  | 'b' => some (.inl '\x08')
  | 't' => some (.inl '\t')
  | 'n' => some (.inl '\n')
  | 'f' => some (.inl '\x0c')
  | 'r' => some (.inl '\r')
  | '"' => some (.inl '"')
  | '\\' => some (.inl '\\')
  | 'u' => some (.inr (.code 4 0))
  | 'U' => some (.inr (.code 8 0))
  | _ => none

/-- Take a digit of a character number; at the last one the character is there. -/
def codeDigit? (left value : Nat) (c : Char) : Option (Char ⊕ StringState) :=
  (hexDigit? c).bind fun d =>
    let value := 16 * value + d
    if left ≤ 1 then (charOfCode? value).map .inl else some (.inr (.code (left - 1) value))

/-- The inside of a string in double quotes, up to the closing quote. -/
def basicBody : StringState → List Char → Reader String
  | .plain, acc, '"' :: r => some (String.ofList acc.reverse, r)
  | .plain, acc, '\\' :: r => basicBody .escaped acc r
  | .plain, acc, c :: r => if isPrintable c then basicBody .plain (c :: acc) r else none
  | .escaped, acc, c :: r =>
    match escape? c with
    | some (.inl x) => basicBody .plain (x :: acc) r
    | some (.inr s) => basicBody s acc r
    | none => none
  | .code left value, acc, c :: r =>
    match codeDigit? left value c with
    | some (.inl x) => basicBody .plain (x :: acc) r
    | some (.inr s) => basicBody s acc r
    | none => none
  | _, _, _ => none

/-- The inside of a string in three double quotes. Up to two quotes may stand right before the
    closing three; a backslash at the end of a line swallows all blanks and line ends behind it. -/
def multiBasicBody : StringState → List Char → Reader String
  | .plain, acc, '"' :: '"' :: '"' :: '"' :: '"' :: r =>
    some (String.ofList ('"' :: '"' :: acc).reverse, r)
  | .plain, acc, '"' :: '"' :: '"' :: '"' :: r => some (String.ofList ('"' :: acc).reverse, r)
  | .plain, acc, '"' :: '"' :: '"' :: r => some (String.ofList acc.reverse, r)
  | .plain, acc, '\\' :: r => multiBasicBody .escaped acc r
  | .plain, acc, '\r' :: '\n' :: r => multiBasicBody .plain ('\n' :: acc) r
  | .plain, acc, c :: r =>
    if isPrintable c || c == '\n' then multiBasicBody .plain (c :: acc) r else none
  | .escaped, acc, '\r' :: '\n' :: r => multiBasicBody (.folding true) acc r
  | .escaped, acc, c :: r =>
    if isBlank c then multiBasicBody (.folding false) acc r
    else if c == '\n' then multiBasicBody (.folding true) acc r
    else match escape? c with
      | some (.inl x) => multiBasicBody .plain (x :: acc) r
      | some (.inr s) => multiBasicBody s acc r
      | none => none
  | .code left value, acc, c :: r =>
    match codeDigit? left value c with
    | some (.inl x) => multiBasicBody .plain (x :: acc) r
    | some (.inr s) => multiBasicBody s acc r
    | none => none
  | .folding _, acc, '\r' :: '\n' :: r => multiBasicBody (.folding true) acc r
  | .folding true, acc, '"' :: '"' :: '"' :: '"' :: '"' :: r =>
    some (String.ofList ('"' :: '"' :: acc).reverse, r)
  | .folding true, acc, '"' :: '"' :: '"' :: '"' :: r =>
    some (String.ofList ('"' :: acc).reverse, r)
  | .folding true, acc, '"' :: '"' :: '"' :: r => some (String.ofList acc.reverse, r)
  | .folding crossed, acc, c :: r =>
    if isBlank c then multiBasicBody (.folding crossed) acc r
    else if c == '\n' then multiBasicBody (.folding true) acc r
    else if !crossed then none
    else if c == '\\' then multiBasicBody .escaped acc r
    else if isPrintable c then multiBasicBody .plain (c :: acc) r
    else none
  | _, _, [] => none

/-- The inside of a string in single quotes. -/
def literalBody (cs : List Char) : Option (String × List Char) :=
  let inside := cs.takeWhile fun c => isPrintable c && c != '\''
  match cs.drop inside.length with
  | '\'' :: r => some (String.ofList inside, r)
  | _ => none

/-- The inside of a string in three single quotes. -/
def multiLiteralBody : List Char → Reader String
  | acc, '\'' :: '\'' :: '\'' :: '\'' :: '\'' :: r =>
    some (String.ofList ('\'' :: '\'' :: acc).reverse, r)
  | acc, '\'' :: '\'' :: '\'' :: '\'' :: r => some (String.ofList ('\'' :: acc).reverse, r)
  | acc, '\'' :: '\'' :: '\'' :: r => some (String.ofList acc.reverse, r)
  | acc, '\r' :: '\n' :: r => multiLiteralBody ('\n' :: acc) r
  | acc, c :: r => if isPrintable c || c == '\n' then multiLiteralBody (c :: acc) r else none
  | _, [] => none

/-- A line end right behind the opening quotes does not belong to the string. -/
def skipFirstNewline (cs : List Char) : List Char := (newline? cs).getD cs

/-- A string of any kind. -/
def string? : Reader String
  | '"' :: '"' :: '"' :: r => multiBasicBody .plain [] (skipFirstNewline r)
  | '"' :: r => basicBody .plain [] r
  | '\'' :: '\'' :: '\'' :: r => multiLiteralBody [] (skipFirstNewline r)
  | '\'' :: r => literalBody r
  | _ => none

/-! ## 3. Keys -/

def isBareKeyChar (c : Char) : Bool := c.isAlphanum || c == '_' || c == '-'

/-- One part of a key: quoted on one line, or bare. -/
def simpleKey? : Reader String
  | '"' :: r => basicBody .plain [] r
  | '\'' :: r => literalBody r
  | cs =>
    let word := cs.takeWhile isBareKeyChar
    if word.isEmpty then none else some (String.ofList word, cs.drop word.length)

/-- The parts of a key between points, blanks around them. The first argument bounds their
    number. -/
def keyParts? : Nat → Reader (List String)
  | 0, _ => none
  | n + 1, cs =>
    (simpleKey? (skipBlanks cs)).bind fun (part, r) =>
      match skipBlanks r with
      | '.' :: r => (keyParts? n r).map fun (parts, r) => (part :: parts, r)
      | r => some ([part], r)

/-- The greatest number of parts of a key. -/
def mostKeyParts : Nat := 79

/-- A key, which is a path of parts. -/
def key? : Reader (List String) := keyParts? mostKeyParts

/-! ## 4. Numbers -/

/-- Digits of a kind, single underscores between them allowed; the underscores are left out. The
    flag says whether a digit stands right before. -/
def digitRun (isDigit : Char → Bool) : Bool → List Char → List Char × List Char
  | true, '_' :: c :: r =>
    if isDigit c then
      let (ds, rest) := digitRun isDigit true r
      (c :: ds, rest)
    else ([], '_' :: c :: r)
  | _, c :: r =>
    if isDigit c then
      let (ds, rest) := digitRun isDigit true r
      (c :: ds, rest)
    else ([], c :: r)
  | _, [] => ([], [])

/-- One digit or more. -/
def digits? (isDigit : Char → Bool) (cs : List Char) : Option (List Char × List Char) :=
  let (ds, r) := digitRun isDigit false cs
  if ds.isEmpty then none else some (ds, r)

/-- A sign, if there is one: whether it is a minus, and the text of it. -/
def sign : List Char → List Char × List Char
  | '+' :: r => (['+'], r)
  | '-' :: r => (['-'], r)
  | cs => ([], cs)

/-- A decimal whole number with its sign and no superfluous zero in front. -/
def decimal? (cs : List Char) : Option (List Char × List Char) :=
  let (s, r) := sign cs
  match r with
  | '0' :: r => some (s ++ ['0'], r)
  | r => (digits? Char.isDigit r).map fun (ds, r) => (s ++ ds, r)

/-- The whole numbers that fit. -/
def fits (n : Int) : Bool := -9223372036854775808 ≤ n && n ≤ 9223372036854775807

/-- The whole number a decimal text denotes. -/
def decimalValue : List Char → Int
  | '-' :: ds => -(Numeral.digitsValue 0 ds : Int)
  | '+' :: ds => Numeral.digitsValue 0 ds
  | ds => Numeral.digitsValue 0 ds

/-- A whole number in a base that is a power of two. -/
def radix? (base : Nat) (cs : List Char) : Option (Int × List Char) :=
  (digits? (fun c => (hexDigit? c).any (· < base)) cs).bind fun (ds, r) =>
    let n : Nat := ds.foldl (fun n c => base * n + (hexDigit? c).getD 0) 0
    if fits n then some (n, r) else none

/-- A whole number in one of the four bases. -/
def integer? : Reader Int
  | '0' :: 'x' :: r => radix? 16 r
  | '0' :: 'o' :: r => radix? 8 r
  | '0' :: 'b' :: r => radix? 2 r
  | cs => (decimal? cs).bind fun (t, r) =>
    let n := decimalValue t
    if fits n then some (n, r) else none

/-- A point and digits behind it. -/
def fraction? : List Char → Option (List Char × List Char)
  | '.' :: r => (digits? Char.isDigit r).map fun (ds, r) => ('.' :: ds, r)
  | _ => none

/-- An exponent. -/
def exponent? : List Char → Option (List Char × List Char)
  | c :: r =>
    if c == 'e' || c == 'E' then
      let (s, r) := sign r
      (digits? Char.isDigit r).map fun (ds, r) => ('e' :: s ++ ds, r)
    else none
  | [] => none

/-- What makes a number a fractional one: an exponent, or a fraction and perhaps an exponent. -/
def fractional? (cs : List Char) : Option (List Char × List Char) :=
  match exponent? cs with
  | some e => some e
  | none => (fraction? cs).map fun (f, r) =>
    match exponent? r with
    | some (e, r) => (f ++ e, r)
    | none => (f, r)

/-- The words for what is no finite number. -/
def specialFloat? (cs : List Char) : Option (Float × List Char) :=
  let (s, r) := sign cs
  let signed (x : Float) : Float := if s == ['-'] then -x else x
  match r with
  | 'i' :: 'n' :: 'f' :: r => some (signed (Numeral.infinite false).toFloat, r)
  | 'n' :: 'a' :: 'n' :: r => some (signed (Numeral.notANumber false).toFloat, r)
  | _ => none

/-- A fractional number. One above all finite values is refused, one below them is infinite. -/
def float? (cs : List Char) : Option (Float × List Char) :=
  match (decimal? cs).bind fun (t, r) => (fractional? r).map fun (f, r) => (t ++ f, r) with
  | some (text, r) => (Numeral.ofChars? text).bind fun n =>
    if n.toFloat.isInf && 0 < n.toFloat then none else some (n.toFloat, r)
  | none => specialFloat? cs

/-! ## 5. Dates and times -/

/-- A number of exactly `n` digits between two bounds. -/
def fixedDigits? (n least most : Nat) (cs : List Char) : Option (Nat × List Char) :=
  let ds := cs.take n
  let v := Numeral.digitsValue 0 ds
  if ds.length == n && ds.all Char.isDigit && least ≤ v && v ≤ most then some (v, cs.drop n)
  else none

/-- The text behind a character. -/
def expect? (c : Char) : List Char → Option (List Char)
  | d :: r => if d == c then some r else none
  | [] => none

/-- The days of a month. -/
def daysOf (year month : Nat) : Nat :=
  if month == 2 then
    if year % 4 == 0 && (year % 100 != 0 || year % 400 == 0) then 29 else 28
  else if month == 4 || month == 6 || month == 9 || month == 11 then 30
  else 31

/-- The text behind a date that exists. -/
def date? (cs : List Char) : Option (List Char) := do
  let (year, r) ← fixedDigits? 4 0 9999 cs
  let (month, r) ← fixedDigits? 2 1 12 (← expect? '-' r)
  let (_, r) ← fixedDigits? 2 1 (daysOf year month) (← expect? '-' r)
  some r

/-- The text behind a fraction of a second, if there is one. -/
def skipSecondFraction : List Char → List Char
  | '.' :: r => if r.head?.any Char.isDigit then r.dropWhile Char.isDigit else '.' :: r
  | cs => cs

/-- The text behind a time of day. -/
def time? (cs : List Char) : Option (List Char) := do
  let (_, r) ← fixedDigits? 2 0 23 cs
  let (_, r) ← fixedDigits? 2 0 59 (← expect? ':' r)
  let (_, r) ← fixedDigits? 2 0 60 (← expect? ':' r)
  some (skipSecondFraction r)

/-- The text behind an offset from universal time, if there is one. -/
def skipOffset (cs : List Char) : List Char :=
  match cs with
  | c :: r =>
    if c == 'Z' || c == 'z' then r
    else if c == '+' || c == '-' then
      let numeric : Option (List Char) := do
        let (_, r) ← fixedDigits? 2 0 23 r
        let (_, r) ← fixedDigits? 2 0 59 (← expect? ':' r)
        some r
      numeric.getD cs
    else cs
  | [] => []

/-- The text behind the time that follows a date, if one does. -/
def skipTimeOfDate (cs : List Char) : List Char :=
  match cs with
  | c :: r =>
    if c == 'T' || c == 't' || c == ' ' then
      match time? r with
      | some r => skipOffset r
      | none => cs
    else cs
  | [] => []

/-- A date, a time, or both. -/
def moment? (cs : List Char) : Option (Value × List Char) :=
  match date? cs with
  | some r => some (.moment, skipTimeOfDate r)
  | none => (time? cs).map fun r => (.moment, r)

/-! ## 6. Values that do not nest -/

/-- A word for a truth value. -/
def boolean? : Reader Bool
  | 't' :: 'r' :: 'u' :: 'e' :: r => some (true, r)
  | 'f' :: 'a' :: 'l' :: 's' :: 'e' :: r => some (false, r)
  | _ => none

/-- A number, date or time. -/
def numeral? (cs : List Char) : Option (Value × List Char) :=
  match moment? cs with
  | some v => some v
  | none => match float? cs with
    | some (x, r) => some (.float x, r)
    | none => (integer? cs).map fun (n, r) => (.integer n, r)

/-- A value that does not nest. -/
def scalar? (cs : List Char) : Option (Value × List Char) :=
  match cs.head? with
  | none => none
  | some c =>
    if c == '"' || c == '\'' then (string? cs).map fun (s, r) => (.string s, r)
    else if c == 't' || c == 'f' then (boolean? cs).map fun (b, r) => (.boolean b, r)
    else if c == 'i' || c == 'n' then (specialFloat? cs).map fun (x, r) => (.float x, r)
    else numeral? cs

end PackGuard.Toml
