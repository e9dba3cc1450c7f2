/-!
# Files

The files below a working directory as a value: reading them, walking over them, and adding
directories and files. A location is the list of the names from the working directory on. The system
may refuse to read a file or to list a directory; a walk tells the latter as an error, and goes on.
-/

namespace InfoFlow

/-- Why the file system refuses something. -/
inductive FileError where
  | notFound
  | alreadyExists
  | notADirectory
  | isADirectory
  | nameTooLong
  | denied
  /-- The content of a file is no text. -/
  | notText
  /-- Something else, told by its message. -/
  | other (text : String)
  deriving DecidableEq, Repr

/-- The message of a refusal. -/
def FileError.message : FileError → String
  | .notFound => "No such file or directory (os error 2)"
  | .alreadyExists => "File exists (os error 17)"
  | .notADirectory => "Not a directory (os error 20)"
  | .isADirectory => "Is a directory (os error 21)"
  | .nameTooLong => "File name too long (os error 36)"
  | .denied => "Permission denied (os error 13)"
  | .notText => "stream did not contain valid UTF-8"
  | .other text => text

/-- A location from the working directory on. Absolute locations start with `/`, and those outside
the working directory with `..`. -/
abbrev Location := List String

/-- What is at a location. -/
inductive Entry where
  | file (content : ByteArray)
  | directory
  /-- A file that cannot be read. -/
  | unreadable (error : FileError)
  /-- A directory that cannot be listed. Paths can still lead through it. -/
  | unlisted (error : FileError)

/-- Whether an entry is a directory. -/
def Entry.isDirectory : Entry → Bool
  | .file _ => false
  | .directory => true
  | .unreadable _ => false
  | .unlisted _ => true

/-- Files and directories with their locations. -/
structure FileTree where
  entries : List (Location × Entry)

namespace Location

/-- The location around a location. -/
def parent (l : Location) : Location :=
  if l = ["/"] then l
  else if l.isEmpty || l.getLast? = some ".." then l ++ [".."]
  else l.dropLast

/-- A location relative to another one, if it is further inside. -/
def relative? (around l : Location) : Option Location :=
  let rest := l.drop around.length
  if around.isPrefixOf l && !rest.isEmpty && rest.all (fun name => name ≠ ".." && name ≠ "/") then
    some rest
  else none

/-- Whether one location is not after another: locations are ordered name by name. -/
def le : Location → Location → Bool
  | [], _ => true
  | _ :: _, [] => false
  | a :: as, b :: bs => if a = b then le as bs else a < b

end Location

namespace Path

/-- The names of a path; a path that ends in a slash has an empty last one. -/
def names (path : String) : List String :=
  (path.toList.splitOn '/').map String.ofList

/-- The names of a path without those that lead nowhere else. -/
def steps (path : String) : List String :=
  (names path).filter fun name => name ≠ "" && name ≠ "."

/-- The names of a path, but for slashes at its end, and then of the paths around it, from the
nearest one outwards. Only the path itself can end in a point. -/
def outwards (path : String) : List (List String) :=
  let steps := steps path
  ((names path).reverse.dropWhile (· = "")).reverse ::
    (List.range steps.length).reverse.map fun count => steps.take count

/-- Where the names of a path start from. -/
def origin (path : String) : Location :=
  if path.toList.head? = some '/' then ["/"] else []

/-- The name of the file that a path leads to. -/
def fileName? (path : String) : Option String :=
  match (steps path).getLast? with
  | some name => if name = ".." then none else some name
  | none => none

/-- What follows the last point of a name, unless the name starts with that point. -/
def extension? (name : String) : Option String :=
  let reversed := name.toList.reverse
  match reversed.dropWhile (· ≠ '.') with
  | _ :: _ :: _ => some (String.ofList (reversed.takeWhile (· ≠ '.')).reverse)
  | _ => none

/-- Whether a path leads to a facts file by its name. -/
def isFacts (path : String) : Bool :=
  (fileName? path).bind extension? = some "json"

/-- The path to a location below another path. -/
def join (path : String) (below : Location) : String :=
  if below.isEmpty then path
  else
    let rest := "/".intercalate below
    if path.toList.getLast? = some '/' then path ++ rest else path ++ "/" ++ rest

end Path

namespace FileTree

/-- The tree without files. -/
def empty : FileTree where
  entries := []

/-- What is at a location. The working directory and those around it are always there. -/
def entry? (t : FileTree) (l : Location) : Option Entry :=
  if l = ["/"] ∨ l.all (· = "..") then some .directory
  else (t.entries.find? fun entry => entry.1 = l).map Prod.snd

/-- The longest name, in bytes. -/
def nameLimit : Nat := 255

/-- The longest path, in bytes. -/
def pathLimit : Nat := 4095

/-- The location that names lead to, from a location on. Every name starts from a directory; the
last one may lead to where nothing is. -/
def follow (t : FileTree) (l : Location) : List String → Except FileError Location
  | [] => .ok l
  | name :: rest =>
    match t.entry? l with
    | none => .error .notFound
    | some entry =>
      if !entry.isDirectory then .error .notADirectory
      else if name = "" ∨ name = "." then t.follow l rest
      else if name = ".." then t.follow (Location.parent l) rest
      else if nameLimit < name.utf8ByteSize then .error .nameTooLong
      else t.follow (l ++ [name]) rest

/-- The location that a path leads to; the empty path leads nowhere. -/
def locate (t : FileTree) (path : String) : Except FileError Location :=
  if path = "" then .error .notFound
  else if pathLimit < path.utf8ByteSize then .error .nameTooLong
  else t.follow (Path.origin path) (Path.names path)

/-- What a path leads to. -/
def lookup (t : FileTree) (path : String) : Except FileError Entry := do
  match t.entry? (← t.locate path) with
  | some entry => return entry
  | none => throw .notFound

/-- Whether a path leads to a file. -/
def isFile (t : FileTree) (path : String) : Bool :=
  match t.lookup path with
  | .ok entry => !entry.isDirectory
  | .error _ => false

/-- The text of the file that a path leads to. -/
def read (t : FileTree) (path : String) : Except FileError String := do
  match ← t.lookup path with
  | .directory => throw .isADirectory
  | .unlisted e => throw e
  | .unreadable e => throw e
  | .file content =>
    match String.fromUTF8? content with
    | some text => return text
    | none => throw .notText

/-- The locations of everything at or below a location, relative to it. -/
def below (t : FileTree) (l : Location) : List Location :=
  [] :: t.entries.filterMap fun entry => Location.relative? l entry.1

/-- Why a directory at or below the location of a path cannot be listed: its own path is too long,
or the system refuses. -/
def blocked? (t : FileTree) (path : String) (l below : Location) : Option FileError :=
  match t.entry? (l ++ below) with
  | none => none
  | some entry =>
    if !entry.isDirectory then none
    else if pathLimit < (Path.join path below).utf8ByteSize then some .nameTooLong
    else
      match entry with
      | .unlisted e => some e
      | _ => none

/-- Whether what is at or below the location of a path shows up in a walk from that path: all
directories on the way have to be listed. -/
def isListed (t : FileTree) (path : String) (l below : Location) : Bool :=
  (List.range below.length).all fun count => (t.blocked? path l (below.take count)).isNone

/-- What a walk from a path comes to, relative to it: everything at or below it that is listed, and
an error for each directory that cannot be. A path that leads nowhere is an error too. -/
def walk (t : FileTree) (path : String) : List (Except FileError Location) :=
  match t.locate path with
  | .error e => [.error e]
  | .ok l =>
    match t.entry? l with
    | none => [.error .notFound]
    | some _ =>
      ((t.below l).filter (t.isListed path l)).flatMap fun below =>
        .ok below :: (t.blocked? path l below).toList.map .error

/-- The facts files that a path stands for: the file itself, whatever its name, or those of a
directory, ordered by location. The errors of the walk are dropped. -/
def factFiles (t : FileTree) (path : String) : List String :=
  if t.isFile path then [path]
  else
    let found := (t.walk path).filterMap Except.toOption
    ((found.mergeSort Location.le).map (Path.join path)).filter Path.isFacts

/-- The tree with an entry at a location, in place of what was there. -/
def insert (t : FileTree) (l : Location) (entry : Entry) : FileTree where
  entries := t.entries.filter (fun other => other.1 ≠ l) ++ [(l, entry)]

/-- Makes the directory that names lead to, from a location on, unless it is there already. The
directory around it has to be there. -/
def makeDirectory (t : FileTree) (l : Location) (names : List String) :
    Except FileError FileTree := do
  let target ← t.follow l names
  match t.entry? target with
  | none => return t.insert target .directory
  | some entry => if entry.isDirectory then return t else throw .alreadyExists

/-- Makes the first of some directories, each of which is followed by the one around it. Where that
one is missing, it is made before. -/
def makeOutwards (t : FileTree) (l : Location) : List (List String) → Except FileError FileTree
  | [] => .ok t
  | names :: around =>
    match t.makeDirectory l names with
    | .error .notFound => do (← t.makeOutwards l around).makeDirectory l names
    | result => result

/-- Makes the directory that a path leads to, and those around it. A path that ends in a point
leads into its directory, so that this one has to be there. -/
def makeDirectories (t : FileTree) (path : String) : Except FileError FileTree :=
  if pathLimit < path.utf8ByteSize then .error .nameTooLong
  else t.makeOutwards (Path.origin path) (Path.outwards path)

/-- The location that a path leads to, if a file can be written there. -/
def writable (t : FileTree) (path : String) : Except FileError Location := do
  let l ← t.locate path
  match t.entry? l with
  | some entry => if entry.isDirectory then throw .isADirectory else return l
  | none => return l

end FileTree

end InfoFlow
