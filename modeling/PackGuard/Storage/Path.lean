import PackGuard.Text.Shown

/-!
# Paths as texts

A path is a text in which slashes divide names; `.` and `..` are steps and no names. A name's
extension is what follows its last point, unless that point stands first. The lengths of a name and
of a path are bounded (`longestName`, `longest`).
-/

namespace PackGuard.Path

/-- The text without slashes, and without single points as names, at its end. -/
def trimEnd (cs : List Char) : List Char := (strip cs.reverse).reverse
where
  /-- The same from the front of the reversed text. -/
  strip : List Char → List Char
    | '/' :: r => strip r
    | '.' :: '/' :: r => strip ('/' :: r)
    | r => r

/-- The last name of a path, unless it is no name but a step through the tree. -/
def name? (path : String) : Option String :=
  let last := ((trimEnd path.toList).reverse.takeWhile (· != '/')).reverse
  if last.isEmpty || last == ['.'] || last == ['.', '.'] then none else some (String.ofList last)

/-- The name without its extension. -/
def stem (name : List Char) : List Char :=
  match name.reverse.dropWhile (· != '.') with
  | '.' :: r => if r.isEmpty then name else r.reverse
  | _ => name

/-- The length of a name's extension. -/
def extensionLength (name : List Char) : Nat := name.length - (stem name).length - 1

/-- The path without the characters of its extension, which are taken off the end of the text. What
    is left of `..a` are two points, and so a step. -/
def withoutExtension (path : String) : String :=
  let cs := path.toList
  String.ofList (cs.take (cs.length - ((name? path).map fun n => extensionLength n.toList).getD 0))

/-- The path with another extension for its last name. One that has no name without its extension
    gets none. -/
def withExtension (path extension : String) : String :=
  let path := withoutExtension path
  match name? path with
  | none => path
  | some name =>
    let trimmed := trimEnd path.toList
    let folder := trimmed.take (trimmed.length - name.length)
    String.ofList (folder ++ stem name.toList) ++ "." ++ extension

/-- The path up to its last name. -/
def bare (path : String) : String := String.ofList (trimEnd path.toList)

/-- The folder of a path, empty if it has none. -/
def folder (path : String) : String :=
  let trimmed := trimEnd path.toList
  let name := trimmed.reverse.takeWhile (· != '/')
  String.ofList (trimEnd (trimmed.take (trimmed.length - name.length)))

/-- The texts between slashes, some of them empty. -/
def between : List Char → List (List Char)
  | [] => [[]]
  | c :: r =>
    if c == '/' then [] :: between r
    else match between r with
      | [] => [[c]]
      | word :: words => (c :: word) :: words

/-- The names in a path. -/
def parts (path : String) : List String :=
  ((between path.toList).filter fun word => !word.isEmpty).map String.ofList

/-- One step from a place: `..` goes up, a single point stays, and a name goes down. -/
def step (place : List String) (part : String) : List String :=
  if part == "." then place else if part == ".." then place.dropLast else place ++ [part]

/-- The places on the way along these names, from where it starts to where it ends. -/
def along (place : List String) : List String → List (List String)
  | [] => [place]
  | part :: rest => place :: along (step place part) rest

/-- The places on the way along a path, as seen from a working directory. The empty path leads
    nowhere. -/
def places (working : List String) (path : String) : List (List String) :=
  if path.isEmpty then []
  else along (if path.startsWith "/" then [] else working) (parts path)

/-- Whether a path says that a directory is at its end. -/
def endsInSlash (path : String) : Bool := path.endsWith "/"

/-- Whether the last name in a path is a step. -/
def endsInStep (path : String) : Bool := (parts path).getLast?.any fun n => n == "." || n == ".."

/-- The most bytes that a name may have. -/
def longestName : Nat := 255

/-- The most bytes that a path may have. -/
def longest : Nat := 4095

/-- A character of a path inside quotes: the quote, the backslash and some controls stand behind a
    backslash, what is not shown stands by its number. -/
def quotedChar (c : Char) : List Char :=
  if c == '"' || c == '\\' then ['\\', c]
  else if c == '\n' then ['\\', 'n']
  else if c == '\r' then ['\\', 'r']
  else if c == '\t' then ['\\', 't']
  else if c == '\x00' then ['\\', '0']
  else if isShown c then [c]
  else ['\\', 'u', '\x7b'] ++ Nat.toDigits 16 c.toNat ++ ['\x7d']

/-- A path in quotes, as it is shown where it could be mistaken. -/
def quoted (path : String) : String :=
  "\"" ++ String.ofList (path.toList.flatMap quotedChar) ++ "\""

end PackGuard.Path
