import PackGuard.Storage.Path

/-!
# A tree of files

Files and directories under their names from the root. Every operation either changes the tree or
answers with one of the operating system's faults. A file is replaced as a whole by
`writeAtomic`: **the new content goes to a temporary file beside it, which is then renamed**, so a
reader sees the old content or the new one.
-/

namespace PackGuard

/-! ## 1. Faults and entries -/

/-- Why an operation on files fails. -/
inductive FileFault where
  | notFound
  | exists
  | notDirectory
  | isDirectory
  | nameTooLong
  | busy
  | notText
  | nulInName
deriving DecidableEq, Repr

def FileFault.message : FileFault → String
  | notFound => "No such file or directory (os error 2)"
  | «exists» => "File exists (os error 17)"
  | notDirectory => "Not a directory (os error 20)"
  | isDirectory => "Is a directory (os error 21)"
  | nameTooLong => "File name too long (os error 36)"
  | busy => "Device or resource busy (os error 16)"
  | notText => "stream did not contain valid UTF-8"
  | nulInName => "file name contained an unexpected NUL byte"

/-- What a name stands for. -/
inductive FileEntry where
  | file (content : ByteArray)
  | directory

/-- A tree of files with a working directory. The root is always there. -/
structure Files where
  entries : List (List String × FileEntry) := []
  working : List String := []

namespace Files

/-! ## 2. Looking -/

/-- What stands at a place, by its names from the root. -/
def find? (fs : Files) (place : List String) : Option FileEntry :=
  if place.isEmpty then some .directory else fs.entries.lookup place

/-- Whether the last name of a place is too long for a directory to hold. -/
def tooLong (place : List String) : Bool :=
  place.getLast?.any fun name => Path.longestName < name.utf8ByteSize

/-- The fault that keeps from going through these directories, if there is one. -/
def blocked? (fs : Files) : List (List String) → Option FileFault
  | [] => none
  | d :: ds =>
    if tooLong d then some .nameTooLong
    else match fs.find? d with
      | some .directory => fs.blocked? ds
      | some (.file _) => some .notDirectory
      | none => some .notFound

/-- Why a text can be no path, whatever there is. -/
def malformed? (path : String) : Option FileFault :=
  if path.toList.contains '\x00' then some .nulInName
  else if Path.longest < path.utf8ByteSize then some .nameTooLong
  else none

/-- The place at the end of a way, if every other place on it is a directory. -/
def follow (fs : Files) (way : List (List String)) : Except FileFault (List String) :=
  match way.getLast? with
  | none => .error .notFound
  | some p => match fs.blocked? way.dropLast with
    | some fault => .error fault
    | none => .ok p

/-- The place to which a path leads through directories. There need not be anything. -/
def reach (fs : Files) (path : String) : Except FileFault (List String) :=
  match malformed? path with
  | some fault => .error fault
  | none => fs.follow (Path.places fs.working path)

/-- The place of a path at which to look. A file is not found behind a slash. -/
def place (fs : Files) (path : String) : Except FileFault (List String) :=
  match fs.reach path with
  | .error fault => .error fault
  | .ok p =>
    if tooLong p then .error .nameTooLong
    else match Path.endsInSlash path, fs.find? p with
      | true, some (.file _) => .error .notDirectory
      | _, _ => .ok p

/-- The content of a file. -/
def read (fs : Files) (path : String) : Except FileFault ByteArray :=
  match fs.place path with
  | .error fault => .error fault
  | .ok p => match fs.find? p with
    | some (.file content) => .ok content
    | some .directory => .error .isDirectory
    | none => .error .notFound

/-- The content of a file as text. -/
def readText (fs : Files) (path : String) : Except FileFault String :=
  match fs.read path with
  | .error fault => .error fault
  | .ok content => match String.fromUTF8? content with
    | some text => .ok text
    | none => .error .notText

/-- The names in a directory in alphabetical order, those of directories with a slash. -/
def list (fs : Files) (directory : List String) : List String :=
  let names := fs.entries.filterMap fun (p, e) =>
    match p.getLast? with
    | some name =>
      if p.dropLast == directory then
        some (match e with
          | .file _ => name
          | .directory => name ++ "/")
      else none
    | none => none
  names.mergeSort fun a b => a ≤ b

/-! ## 3. Changing -/

/-- The tree with an entry at a place, in place of any that was there. -/
def put (fs : Files) (p : List String) (e : FileEntry) : Files :=
  { fs with entries := (p, e) :: fs.entries.filter fun x => x.1 != p }

/-- The tree without what stood at a place. -/
def drop (fs : Files) (p : List String) : Files :=
  { fs with entries := fs.entries.filter fun x => x.1 != p }

/-- Without the entries at a place all other places are as before. -/
theorem lookup_filter (es : List (List String × FileEntry)) (p q : List String) :
    (es.filter fun x => x.1 != p).lookup q = if q = p then none else es.lookup q := by
  induction es with
  | nil => simp
  | cons x rest ih =>
    obtain ⟨r, e⟩ := x
    by_cases hr : r = p <;> by_cases hq : q = r <;> grind

/-- A change at a place changes nothing elsewhere. -/
theorem find?_put (fs : Files) {p : List String} (e : FileEntry) (q : List String) (hp : p ≠ []) :
    (fs.put p e).find? q = if q = p then some e else fs.find? q := by
  by_cases hq : q = p
  · simp [put, find?, hq, hp]
  · simp [put, find?, hq, lookup_filter, List.lookup_cons, beq_false_of_ne hq]

/-- Dropping a place leaves nothing there, and changes nothing elsewhere. -/
theorem find?_drop (fs : Files) {p : List String} (q : List String) (hp : p ≠ []) :
    (fs.drop p).find? q = if q = p then none else fs.find? q := by
  by_cases hq : q = p
  · simp [drop, find?, hq, hp, lookup_filter]
  · simp [drop, find?, hq, lookup_filter]

/-- The place of a path at which a file may be written. What ends in a slash is taken for a
    directory before anything is looked up there. -/
def writable (fs : Files) (path : String) : Except FileFault (List String) :=
  match fs.reach path with
  | .error fault => .error fault
  | .ok p =>
    if Path.endsInSlash path then .error .isDirectory
    else if tooLong p then .error .nameTooLong
    else match fs.find? p with
      | some .directory => .error .isDirectory
      | _ => .ok p

/-- The place of a path to which a file may be renamed. A step is no name that could be given, and
    behind a slash only a directory could be. -/
def nameable (fs : Files) (path : String) : Except FileFault (List String) :=
  match fs.reach path with
  | .error fault => .error fault
  | .ok p =>
    if Path.endsInStep path then .error .busy
    else if tooLong p then .error .nameTooLong
    else if Path.endsInSlash path then .error .notDirectory
    else match fs.find? p with
      | some .directory => .error .isDirectory
      | _ => .ok p

/-- Make the file empty, creating it if it is not there. -/
def create (fs : Files) (path : String) : Except FileFault Files :=
  (fs.writable path).map fun p => fs.put p (.file .empty)

/-- Write a file as a whole. -/
def write (fs : Files) (path : String) (content : ByteArray) : Except FileFault Files :=
  (fs.writable path).map fun p => fs.put p (.file content)

/-- Add to the end of a file, creating it if it is not there. -/
def append (fs : Files) (path : String) (content : ByteArray) : Except FileFault Files :=
  (fs.writable path).map fun p =>
    match fs.find? p with
    | some (.file old) => fs.put p (.file (old ++ content))
    | _ => fs.put p (.file content)

/-- Give a file another name, in place of a file that has it. -/
def rename (fs : Files) (source target : String) : Except FileFault Files :=
  match fs.place source with
  | .error fault => .error fault
  | .ok p => match fs.find? p with
    | none => .error .notFound
    | some e => (fs.nameable target).map fun q => (fs.drop p).put q e

/-- Remove a file. -/
def remove (fs : Files) (path : String) : Except FileFault Files :=
  match fs.place path with
  | .error fault => .error fault
  | .ok p => match fs.find? p with
    | some (.file _) => .ok (fs.drop p)
    | some .directory => .error .isDirectory
    | none => .error .notFound

/-- Make a directory. -/
def makeDirectory (fs : Files) (path : String) : Except FileFault Files :=
  match fs.reach path with
  | .error fault => .error fault
  | .ok p =>
    if tooLong p then .error .nameTooLong
    else match fs.find? p with
      | some _ => .error .exists
      | none => .ok (fs.put p .directory)

/-- Make the directories that are missing at these places. -/
def makeAll (fs : Files) : List (List String) → Except FileFault Files
  | [] => .ok fs
  | p :: ps => match fs.find? p with
    | some .directory => fs.makeAll ps
    | some (.file _) => .error (if ps.isEmpty then .exists else .notDirectory)
    | none => if tooLong p then .error .nameTooLong else (fs.put p .directory).makeAll ps

/-- Make a directory and those on the way there, as far as they are missing. -/
def makeDirectories (fs : Files) (path : String) : Except FileFault Files :=
  match malformed? path with
  | some fault => .error fault
  | none => fs.makeAll (Path.places fs.working path)

/-! ## 4. Replacing a file as a whole -/

/-- The temporary file beside a file. -/
def temporary (path : String) : String := Path.withExtension path "new"

/-- Write a file by way of a temporary one. What was done before a fault stays done. -/
def writeAtomic (fs : Files) (path : String) (content : ByteArray) : Option FileFault × Files :=
  match fs.create (temporary path) with
  | .error fault => (some fault, fs)
  | .ok fs => match fs.write (temporary path) content with
    | .error fault => (some fault, fs)
    | .ok fs => match fs.rename (temporary path) path with
      | .error fault => (some fault, fs)
      | .ok fs => (none, fs)

end Files

end PackGuard
