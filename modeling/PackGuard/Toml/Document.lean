import PackGuard.Toml.Lexis

/-!
# TOML documents

A document is read in two steps: the text into statements (`statements?`), the statements into one
table (`assemble?`). Headers and keys with points build up tables from several places, so while a
document is put together each table remembers its `Origin`, and **a table is defined only once**:

* a header may define a table that so far was only implied by longer headers, no other;
* a key with points may extend tables that keys with points made, and no table with a header;
* a table or array written as a value is closed.
-/

namespace PackGuard.Toml

/-! ## 1. Tables under construction -/

/-- What made a table: a header of its own, a longer header, or a key with points. -/
inductive Origin where
  | header
  | implied
  | dotted
deriving DecidableEq, Repr

/-- A part of a document under construction. -/
inductive Node where
  /-- A value, closed to additions. -/
  | leaf (value : Value)
  | table (origin : Origin) (entries : List (String × Node))
  /-- The tables of repeated headers, the last one first. -/
  | tables (elements : List Node)
deriving Inhabited

/-- The entries of a table under construction. -/
abbrev Entries := List (String × Node)

/-- The entries with the one under a key replaced. -/
def Entries.set (es : Entries) (key : String) (n : Node) : Entries :=
  es.map fun e => if e.1 == key then (key, n) else e

mutual

/-- The value that a finished part of a document is. -/
def Node.value : Node → Value
  | .leaf v => v
  | .table _ entries => .table (entryValues entries)
  | .tables elements => .array (elementValues elements).reverse

/-- The values of entries. -/
def entryValues : List (String × Node) → List (String × Value)
  | [] => []
  | (k, n) :: rest => (k, n.value) :: entryValues rest

/-- The values of the tables of repeated headers. -/
def elementValues : List Node → List Value
  | [] => []
  | n :: rest => n.value :: elementValues rest

end

/-- Change the table at a path, tables on the way being made where they are missing: `dotted` says
    whether a key with points or a header leads there. A header's path goes on in the last of
    repeated tables. -/
def alterAt (dotted : Bool) (f : Origin → Entries → Option Entries) :
    List String → Origin → Entries → Option Entries
  | [], o, es => f o es
  | k :: ks, _, es =>
    match es.lookup k with
    | none =>
      let o := if dotted then Origin.dotted else .implied
      (alterAt dotted f ks o []).map fun sub => es ++ [(k, .table o sub)]
    | some (.leaf _) => none
    | some (.table o sub) =>
      if dotted && o == .header then none
      else (alterAt dotted f ks o sub).map fun sub => es.set k (.table o sub)
    | some (.tables (.table o sub :: earlier)) =>
      (alterAt dotted f ks o sub).map fun sub => es.set k (.tables (.table o sub :: earlier))
    | some (.tables _) => none

/-- Put a value under a new key of the table that the path of its key led to. A path of points must
    end in a table that points made. -/
def putNew (viaPoints : Bool) (key : String) (v : Value) (o : Origin) (es : Entries) :
    Option Entries :=
  if viaPoints && o != .dotted then none
  else if (es.lookup key).isSome then none
  else some (es ++ [(key, .leaf v)])

/-- Define a value under a key, which may have points, relative to a table. -/
def define (key : List String) (v : Value) (o : Origin) (es : Entries) : Option Entries :=
  match key.getLast? with
  | none => none
  | some last =>
    let path := key.dropLast
    alterAt true (putNew (!path.isEmpty) last v) path o es

/-! ## 2. Values that nest -/

/-- Items between separators up to a closing bracket: `item` reads one with all blanks around it.
    The first argument bounds their number. -/
def itemsUntil (item : Reader α) (close : Char) (trailing : Bool)
    (skip : List Char → Option (List Char)) : Nat → Reader (List α)
  | 0, _ => none
  | n + 1, cs =>
    (item cs).bind fun (x, r) =>
      match r with
      | ',' :: r =>
        -- a comma may be the last thing before the bracket
        match if trailing then (skip r).bind (expect? close) else none with
        | some r => some ([x], r)
        | none => (itemsUntil item close trailing skip n r).map fun (xs, r) => (x :: xs, r)
      | r => (expect? close r).map fun r => ([x], r)

/-- Blanks, comments and line ends. -/
def skipSpace (cs : List Char) : Option (List Char) := skipLines (cs.length + 1) cs

/-- A value inside an array, with what may stand around it. -/
def arrayItem (value : Reader Value) (cs : List Char) : Option (Value × List Char) :=
  (skipSpace cs).bind fun r => (value r).bind fun (v, r) => (skipSpace r).map fun r => (v, r)

/-- An array behind its opening bracket. -/
def arrayBody (value : Reader Value) (cs : List Char) : Option (Value × List Char) :=
  (skipSpace cs).bind fun r =>
    match expect? ']' r with
    | some r => some (.array [], r)
    | none =>
      (itemsUntil (arrayItem value) ']' true skipSpace cs.length cs).map fun (xs, r) =>
        (.array xs, r)

/-- A key and a value, with the blanks around them. -/
def keyValue (value : Reader Value) (cs : List Char) : Option ((List String × Value) × List Char) :=
  (key? cs).bind fun (k, r) => (expect? '=' r).bind fun r =>
    (value (skipBlanks r)).map fun (v, r) => ((k, v), skipBlanks r)

/-- The table that keys and values in braces make. -/
def inlineTable? (kvs : List (List String × Value)) : Option Value :=
  (kvs.foldlM (fun es kv => define kv.1 kv.2 .header es) []).map fun es =>
    .table (entryValues es)

/-- A table in braces behind its opening brace. -/
def inlineBody (value : Reader Value) (cs : List Char) : Option (Value × List Char) :=
  match expect? '\x7d' (skipBlanks cs) with
  | some r => some (.table [], r)
  | none =>
    (itemsUntil (keyValue value) '\x7d' false some cs.length cs).bind fun (kvs, r) =>
      (inlineTable? kvs).map fun v => (v, r)

/-- A value; the first argument bounds how deep arrays and tables may nest. -/
def value? : Nat → Reader Value
  | 0, cs => scalar? cs
  | depth + 1, '[' :: r => arrayBody (value? depth) r
  | depth + 1, '\x7b' :: r => inlineBody (value? depth) r
  | _ + 1, cs => scalar? cs

/-- How deep arrays and tables may nest. -/
def mostNesting : Nat := 79

/-! ## 3. Statements -/

/-- A statement of a document. -/
inductive Statement where
  /-- The header of a table. -/
  | header (path : List String)
  /-- The header of one more table of an array. -/
  | element (path : List String)
  /-- A key with its value. -/
  | define (key : List String) (value : Value)
deriving Repr

/-- A key in brackets, the rest of the line being empty. -/
def headerLine? (opening closing : List Char) (cs : List Char) : Option (List String × List Char) :=
  (key? (cs.drop opening.length)).bind fun (k, r) =>
    if r.take closing.length == closing then (lineEnd? (r.drop closing.length)).map fun r => (k, r)
    else none

/-- A statement up to the end of its line. -/
def statement? (cs : List Char) : Option (Statement × List Char) :=
  match cs with
  | '[' :: '[' :: _ =>
    (headerLine? ['[', '['] [']', ']'] cs).map fun (k, r) => (.element k, r)
  | '[' :: _ => (headerLine? ['['] [']'] cs).map fun (k, r) => (.header k, r)
  | _ => (keyValue (value? mostNesting) cs).bind fun ((k, v), r) =>
    (lineEnd? r).map fun r => (.define k v, r)

/-- All statements of a text. The first argument bounds the number of lines. -/
def statementLines? : Nat → List Char → Option (List Statement)
  | 0, _ => none
  | n + 1, cs =>
    let r := skipBlanks cs
    match r with
    | [] => some []
    | '#' :: _ => (lineEnd? r).bind (statementLines? n)
    | _ => match newline? r with
      | some r => statementLines? n r
      | none => (statement? r).bind fun (s, r) => (statementLines? n r).map (s :: ·)

/-- All statements of a text, which may begin with a byte order mark. -/
def statements? (cs : List Char) : Option (List Statement) :=
  let cs := match cs with
    | '\ufeff' :: r => r
    | cs => cs
  statementLines? (cs.length + 1) cs

/-! ## 4. Assembly -/

/-- A document under construction: the path of the header in force, and the top table. -/
structure Draft where
  path : List String := []
  root : Entries := []

/-- Define a table by its header, as the last one so far. -/
def openTable (key : String) (_ : Origin) (es : Entries) : Option Entries :=
  match es.lookup key with
  | none => some (es ++ [(key, .table .header [])])
  | some (.table .implied sub) =>
    some ((es.filter fun e => e.1 != key) ++ [(key, .table .header sub)])
  | some _ => none

/-- Add a table to an array by its header. -/
def openElement (key : String) (_ : Origin) (es : Entries) : Option Entries :=
  match es.lookup key with
  | none => some (es ++ [(key, .tables [.table .header []])])
  | some (.tables elements) => some (es.set key (.tables (.table .header [] :: elements)))
  | some _ => none

namespace Draft

/-- Enter the table of a header. -/
def enter (d : Draft) (path : List String) (add : String → Origin → Entries → Option Entries) :
    Option Draft :=
  match path.getLast? with
  | none => none
  | some last =>
    (alterAt false (add last) path.dropLast .header d.root).map fun root => ⟨path, root⟩

/-- Take in a statement. -/
def add (d : Draft) : Statement → Option Draft
  | .header path => d.enter path openTable
  | .element path => d.enter path openElement
  | .define key v =>
    (alterAt false (fun o es => Toml.define key v o es) d.path .header d.root).map fun root =>
      { d with root := root }

end Draft

/-- The table that statements make. -/
def assemble? (ss : List Statement) : Option Value :=
  (ss.foldlM Draft.add {}).map fun d => .table (entryValues d.root)

/-- The document a text denotes, if it denotes one. -/
def document? (text : String) : Option Value := (statements? text.toList).bind assemble?

end PackGuard.Toml
