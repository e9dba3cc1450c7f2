import InfoFlow.Command.Run
import Std.Time.DateTime.Timestamp

/-!
# The program

Looks at the files that a command can concern, runs the command on them, writes what it wants
written and prints what it wants printed.
-/

namespace InfoFlow.Main

/-- The locations that a path leads through, if all of them are directories. -/
def route (path : String) : List Location :=
  let step (l : Location) (name : String) : Location :=
    if name = "" ∨ name = "." then l
    else if name = ".." then Location.parent l
    else l ++ [name]
  (Path.names path).foldl (fun ls name => ls ++ [step (ls.getLast?.getD []) name])
    [Path.origin path]

/-- The location that a path leads to. -/
def destination (path : String) : Location :=
  (route path).getLast?.getD []

/-- The path of a location. -/
def place : Location → String
  | [] => "."
  | "/" :: rest => "/" ++ "/".intercalate rest
  | l => "/".intercalate l

/-- The refusal that an error of the system stands for. -/
def refusal : IO.Error → FileError
  | .noFileOrDirectory .. => .notFound
  | .permissionDenied .. => .denied
  | e => .other (toString e)

/-- The file at a location; one that cannot be read stays, with its error. -/
def readFile (l : Location) : IO Entry := do
  try return .file (← IO.FS.readBinFile (place l))
  catch e => return .unreadable (refusal e)

/-- What is at a location. -/
def probe (l : Location) : IO (Except FileError Entry) := do
  try
    if ← (← IO.FS.realPath (place l)).isDir then return .ok .directory
    else return .ok (← readFile l)
  catch e => return .error (refusal e)

/-- What is at some locations. -/
def probeAll (ls : List Location) : IO (List (Location × Entry)) := do
  let mut found := []
  for l in ls.eraseDups do
    if let .ok entry ← probe l then found := found ++ [(l, entry)]
  return found

/-- What is at a location that its directory lists. What cannot be looked at is a file that cannot be
read, such as a link that leads nowhere. -/
def probeListed (l : Location) : IO Entry := do
  match ← probe l with
  | .ok entry => return entry
  | .error _ => readFile l

/-- Whether something in a directory is a link. -/
def isLink (child : IO.FS.DirEntry) : IO Bool := do
  try return (← child.path.symlinkMetadata).type == .symlink
  catch _ => return false

/-- The names in the directory at a location, and whether they are links. -/
def list (l : Location) : IO (Except FileError (List (String × Bool))) := do
  try
    let children ← (← IO.FS.realPath (place l)).readDir
    return .ok (← children.toList.mapM fun child => return (child.fileName, ← isLink child))
  catch e => return .error (refusal e)

/-- An entry at a location and everything below it. A directory that cannot be listed stays, with its
error. -/
partial def survey (l : Location) (entry : Entry) : IO (List (Location × Entry)) := do
  if !entry.isDirectory then return [(l, entry)]
  match ← list l with
  | .error e => return [(l, .unlisted e)]
  | .ok children =>
    let mut found := [(l, entry)]
    for (name, link) in children do
      let child ← probeListed (l ++ [name])
      -- links are not followed, so the directory behind one is not listed
      if link && child.isDirectory then
        found := found ++ [(l ++ [name], .unlisted .isADirectory)]
      else
        found := found ++ (← survey (l ++ [name]) child)
    return found

/-- The files that a command can concern. -/
def filesOf : Command → IO FileTree
  | .check options => do
    let reports := match options.output with
      | none => []
      | some path => ["leak_report.json", "leak_report.md"].map fun name => Path.join path [name]
    let top := destination options.path
    let inside ← match ← probe top with
      | .ok entry => survey top entry
      | .error _ => pure []
    let passed ← probeAll ((options.path :: reports).flatMap route)
    let others := passed.filter fun entry => inside.all fun other => other.1 ≠ entry.1
    return { entries := inside ++ others }
  | .dot file _ => return { entries := ← probeAll (route file) }
  | .version => return .empty

/-- What is said when there is no command. -/
def complaint : Usage.Stop → String
  | .help => ""
  | .version _ => ""
  | .nothing => "Usage: leakflow <check|dot|version|help> [ARGUMENTS]"
  | .missingArgument => "error: a required argument is missing"
  | .unknownArgument => "error: unexpected argument found"
  | .invalidValue => "error: an option lacks its value"
  | .repeatedArgument => "error: an argument is given more than once"
  | .malformedValue => "error: a value is not valid"
  | .unexpectedValue => "error: a flag was given a value"
  | .unknownCommand => "error: unrecognized subcommand"

/-- What is said on request. -/
def helpText : String :=
  "Information-flow leak analysis for enclave code\n\n" ++
  "Usage: leakflow <COMMAND>\n\n" ++
  "Commands:\n" ++
  "  check    Analyze facts files for leaks of sensitive data\n" ++
  "  dot      Print the flow graph of one unit in Graphviz DOT format\n" ++
  "  version  Print version information\n" ++
  "  help     Print this message\n"

/-- Writes the files and prints the texts of a run. -/
def publish (output : Output) : IO UInt32 := do
  for (l, text) in output.written do
    IO.FS.createDirAll (place l.dropLast)
    IO.FS.writeFile (place l) text
  IO.print output.stdout
  IO.eprint output.stderr
  return output.exitCode.toUInt32

end InfoFlow.Main

open InfoFlow in
/-- Runs the program. -/
def main (args : List String) : IO UInt32 := do
  match Usage.parse args with
  | .error stop =>
    if stop = .help then IO.print Main.helpText
    if stop.exitCode ≠ 0 then IO.eprintln (Main.complaint stop)
    Main.publish stop.output
  | .ok command =>
    let colour ← (← IO.getStdout).isTty
    let now ← Std.Time.Timestamp.now
    let timestamp := toString now.toSecondsSinceUnixEpoch.val
    -- the bodies are analysed one after the other, so no workers are needed
    Main.publish (command.run .unlimited colour timestamp (← Main.filesOf command))
