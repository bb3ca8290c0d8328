import BrowserFlow.Text.Digit
import BrowserFlow.Text.Search

/-!
# Files

A file system that lives in memory: directories and files at locations below a root, a working
directory, and the operations on paths that the rest of the library needs. A path is resolved name
by name, `.` and `..` included, and every name before the last must lead to a directory. What an
operation has done before it fails stays done, so that operations are state transformers that keep
the state when they throw.
-/

namespace BrowserFlow

/-- Why an operation on files failed. -/
inductive FileError
  /-- There is nothing at the path. -/
  | notFound
  /-- Something on the way is not a directory. -/
  | notDirectory
  /-- A directory stands where a file is needed. -/
  | isDirectory
  /-- Something is at the path already. -/
  | alreadyExists
  /-- A name or the whole path is too long. -/
  | nameTooLong
  /-- The path holds a null character. -/
  | nullInPath
  /-- The file does not hold a text. -/
  | notText
  deriving DecidableEq, Repr

/-- The failure as the operating system words it. -/
def FileError.message : FileError → String
  | .notFound => "No such file or directory (os error 2)"
  | .notDirectory => "Not a directory (os error 20)"
  | .isDirectory => "Is a directory (os error 21)"
  | .alreadyExists => "File exists (os error 17)"
  | .nameTooLong => "File name too long (os error 36)"
  | .nullInPath => "file name contained an unexpected NUL byte"
  | .notText => "stream did not contain valid UTF-8"

/-- What a file holds. -/
inductive Content
  /-- A text. -/
  | text (value : String)
  /-- Bytes that are no text. -/
  | bytes (values : List UInt8)
  deriving DecidableEq, Repr

/-- The content of a file with the given bytes. -/
def Content.ofBytes (values : List UInt8) : Content :=
  match String.fromUTF8? ⟨values.toArray⟩ with
  | some value => .text value
  | none => .bytes values

/-- What is at a location. -/
inductive Entry
  /-- A file. -/
  | file (content : Content)
  /-- A directory. In a sealed one nothing can be created. -/
  | directory (isSealed : Bool)
  deriving DecidableEq, Repr

/-- A place in the tree of directories: the names that lead there from the root. -/
abbrev Location := List String

/-- A path as it is written. -/
abbrev Path := String

namespace Path

/-- Whether a path starts at the root. -/
def isAbsolute (path : Path) : Bool :=
  path.toList.head? == some '/'

/-- Whether a path ends with a slash. -/
def endsWithSlash (path : Path) : Bool :=
  path.toList.getLast? == some '/'

/-- The names of a path. -/
def names (path : Path) : List String :=
  (Text.partsAt '/' path).filter (!·.isEmpty)

/-- The path of something inside the directory at a path. -/
def join (directory name : Path) : Path :=
  if directory.isEmpty || endsWithSlash directory then directory ++ name
  else directory ++ "/" ++ name

/-- The names of a path without those that mean "here", except for a first one. -/
def components (path : Path) : List String :=
  match names path with
  | [] => []
  | first :: rest =>
    let rest := rest.filter (· != ".")
    if first == "." && isAbsolute path then rest else first :: rest

/-- The components by which a path is compared with others; a slash at the root is the first. -/
def parts (path : Path) : List String :=
  if isAbsolute path then "/" :: components path else components path

/-- The place of a component among those of other kinds: the root comes before `.`, that before
`..`, and that before all names. -/
def rank (component : String) : Nat :=
  if component == "/" then 0
  else if component == "." then 1
  else if component == ".." then 2
  else 3

/-- Whether one component comes before another one: by their kinds, and among names in the order of
their bytes, which is that of their code points. -/
def componentLt (a b : String) : Bool :=
  decide (rank a < rank b) || rank a == rank b && decide (a < b)

/-- Whether a path does not come behind another one when they are compared component by
component. -/
def le (a b : Path) : Bool :=
  !List.lex (parts b) (parts a) componentLt

/-- The paths of the directories that a path leads through, the innermost first. -/
def parents (path : Path) : List Path :=
  let names := components path
  let upTo (n : Nat) : Path :=
    (if isAbsolute path then "/" else "") ++ "/".intercalate (names.take n)
  (List.range names.length).reverse.map upTo

/-- The extension of a path: what follows the last point of its last name, if that point is not
the first character of the name. -/
def extension? (path : Path) : Option String :=
  match (components path).getLast? with
  | none => none
  | some name =>
    match (Text.partsAt '.' name).reverse with
    | extension :: others =>
      if name == ".." || others.isEmpty || others == [""] then none else some extension
    | [] => none

end Path

/-- A file system. -/
structure Files where
  /-- What is where. -/
  entries : List (Location × Entry)
  /-- Where paths that do not start at the root begin. -/
  working : Location
  deriving DecidableEq, Repr

/-- An operation on files. -/
abbrev FileOp := EStateM FileError Files

namespace Files

/-- What is at a location; the root is a directory. -/
def entryAt (files : Files) (location : Location) : Option Entry :=
  if location.isEmpty then some (.directory false)
  else (files.entries.find? (·.1 == location)).map (·.2)

/-- The files with something placed at a location. -/
def place (files : Files) (location : Location) (entry : Entry) : Files :=
  { files with entries := files.entries.filter (·.1 != location) ++ [(location, entry)] }

/-- The files with something placed where a chain of names leads from a location, and with the
directories on the way there. -/
def plant (files : Files) (entry : Entry) : Location → List String → Files
  | _, [] => files
  | at_, [name] =>
    if name == "." || name == ".." then files else files.place (at_ ++ [name]) entry
  | at_, name :: rest =>
    if name == "." then plant files entry at_ rest
    else if name == ".." then plant files entry at_.dropLast rest
    else
      let inner := at_ ++ [name]
      let files :=
        if (files.entryAt inner).isNone then files.place inner (.directory false) else files
      plant files entry inner rest

/-- The most bytes that a name may have. -/
def maxName : Nat := 255

/-- The number of bytes that a path must stay below. -/
def maxPath : Nat := 4096

/-- Where a chain of names leads from a location; everything on the way must be there. -/
def walk (files : Files) : Location → List String → Except FileError Location
  | at_, [] => .ok at_
  | at_, name :: rest =>
    match files.entryAt at_ with
    | none => .error .notFound
    | some (.file _) => .error .notDirectory
    | some (.directory _) =>
      if name == "." then walk files at_ rest
      else if name == ".." then walk files at_.dropLast rest
      else if maxName < name.utf8ByteSize then .error .nameTooLong
      else if (files.entryAt (at_ ++ [name])).isNone then .error .notFound
      else walk files (at_ ++ [name]) rest

/-- Where a path begins. -/
def start (files : Files) (path : Path) : Location :=
  if Path.isAbsolute path then [] else files.working

/-- Whether a path can be given to the operating system at all. -/
def checkPath (path : Path) : Except FileError Unit :=
  if path.toList.contains (Char.ofNat 0) then .error .nullInPath
  else if path.isEmpty then .error .notFound
  else if maxPath ≤ path.utf8ByteSize then .error .nameTooLong
  else .ok ()

/-- The files with something placed at a path, and with the directories on the way there. -/
def plantAt (files : Files) (path : Path) (entry : Entry) : Files :=
  files.plant entry (files.start path) (Path.names path)

/-- What a path leads to. -/
def lookup (files : Files) (path : Path) : Except FileError (Location × Entry) := do
  checkPath path
  let location ← files.walk (files.start path) (Path.names path)
  match files.entryAt location with
  | none => throw .notFound
  | some (.file content) =>
    if Path.endsWithSlash path then throw .notDirectory
    return (location, .file content)
  | some entry => return (location, entry)

/-- Whether a path leads to a file. -/
def isFile (files : Files) (path : Path) : Bool :=
  match files.lookup path with
  | .ok (_, .file _) => true
  | _ => false

/-- Whether a path leads to a directory. -/
def isDirectory (files : Files) (path : Path) : Bool :=
  match files.lookup path with
  | .ok (_, .directory _) => true
  | _ => false

/-- The text of the file at a path. -/
def readText (files : Files) (path : Path) : Except FileError String := do
  match ← files.lookup path with
  | (_, .file (.text value)) => return value
  | (_, .file (.bytes _)) => throw .notText
  | (_, .directory _) => throw .isDirectory

/-- The directory in which the last name of a path is to be created, and the location to be
filled; `here` is the error for a path whose last name stands for a directory that is there. -/
def vacancy (files : Files) (path : Path) (here : FileError) :
    Except FileError (Bool × Location) := do
  checkPath path
  let names := Path.names path
  match names.getLast? with
  | none => throw here
  | some name =>
    let at_ ← files.walk (files.start path) names.dropLast
    match files.entryAt at_ with
    | none => throw .notFound
    | some (.file _) => throw .notDirectory
    | some (.directory isSealed) =>
      if name == "." || name == ".." then throw here
      if maxName < name.utf8ByteSize then throw .nameTooLong
      return (isSealed, at_ ++ [name])

/-- Creates one directory. -/
def makeDirectory (path : Path) : FileOp Unit := do
  let files ← get
  match files.vacancy path .alreadyExists with
  | .error e => throw e
  | .ok (isSealed, location) =>
    if (files.entryAt location).isSome then throw .alreadyExists
    if isSealed then throw .notFound
    set (files.place location (.directory false))

/-- Creates one directory, unless it is there. -/
def ensureDirectory (path : Path) : FileOp Unit :=
  tryCatch (makeDirectory path) fun e => do
    if (← get).isDirectory path then return else throw e

/-- Creates the first directory of a list whose next ones lead to it, and those as far as they are
missing. -/
def makeAll : List Path → FileOp Unit
  | [] => return
  | path :: rest =>
    if path.isEmpty then return
    else
      tryCatch (makeDirectory path) fun e =>
        if e = .notFound then do
          makeAll rest
          ensureDirectory path
        else do
          if (← get).isDirectory path then return else throw e

/-- Creates a directory and every directory on the way to it. -/
def makeDirectories (path : Path) : FileOp Unit :=
  makeAll (path :: Path.parents path)

/-- Writes a text to the file at a path, which is created if it is missing. -/
def writeText (path : Path) (value : String) : FileOp Unit := do
  let files ← get
  match files.vacancy path .isDirectory with
  | .error e => throw e
  | .ok (isSealed, location) =>
    match files.entryAt location with
    | some (.directory _) => throw .isDirectory
    | some (.file _) =>
      if Path.endsWithSlash path then throw .notDirectory
      set (files.place location (.file (.text value)))
    | none =>
      if Path.endsWithSlash path then throw .isDirectory
      if isSealed then throw .notFound
      set (files.place location (.file (.text value)))

/-! ## Listing -/

/-- What is in a directory, in the order in which the file system happens to have it. -/
def children (files : Files) (location : Location) : List (String × Entry) :=
  files.entries.filterMap fun (place, entry) =>
    if place.dropLast == location then place.getLast?.map (·, entry) else none

/-- Everything below a directory, which has the given path, together with its path: every entry
comes before what is inside it. At most `fuel` levels are entered. -/
def below (files : Files) : (fuel : Nat) → Location → Path → List (Path × Entry)
  | 0, _, _ => []
  | fuel + 1, location, path =>
    (files.children location).flatMap fun (name, entry) =>
      let inner := Path.join path name
      (inner, entry) ::
        match entry with
        | .directory _ => below files fuel (location ++ [name]) inner
        | .file _ => []

/-- Everything below the directory at a path. -/
def contents (files : Files) (path : Path) : List (Path × Entry) :=
  match files.lookup path with
  | .ok (location, .directory _) => files.below (files.entries.length + 1) location path
  | _ => []

/-- The paths of everything in the working directory in order, those of directories with a slash. -/
def listing (files : Files) : List Path :=
  ((files.contents ".").mergeSort fun a b => Path.le a.1 b.1).map fun (path, entry) =>
    match entry with
    | .directory _ => path ++ "/"
    | .file _ => path

end Files

/-- States that hold files beside other things. -/
class HasFiles (W : Type) where
  /-- The files. -/
  files : W → Files
  /-- The state with other files. -/
  withFiles : W → Files → W

/-- Runs an operation on the files of a state. -/
def FileOp.within {W ε α : Type} [HasFiles W] (op : EStateM ε Files α) : EStateM ε W α :=
  fun w =>
    match op (HasFiles.files w) with
    | .ok a files => .ok a (HasFiles.withFiles w files)
    | .error e files => .error e (HasFiles.withFiles w files)

instance : HasFiles Files where
  files files := files
  withFiles _ files := files

end BrowserFlow
