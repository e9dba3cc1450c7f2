import InfoFlow.Command.Load
import InfoFlow.Command.Usage
import InfoFlow.Graph.Dot
import InfoFlow.Report.Document
import InfoFlow.Report.Markdown
import InfoFlow.Report.Terminal

/-!
# Running commands

What a command prints, which files it writes and how it ends, as a function of the files and of the
workers that are there. The exit status of `check` is 2 if the facts of some body are wrong;
otherwise 1 if there is a leak, a file that could not be loaded, or, where that counts, a skipped
body; otherwise 0. Where the workers are refused there is no report, and the exit status is 1.
-/

namespace InfoFlow

open Text

/-- What a run leaves behind. -/
structure Output where
  exitCode : Nat
  stdout : String
  stderr : String
  written : List (Location × String)
  deriving DecidableEq, Repr

/-- Why a command fails. -/
structure Failure where
  message : String
  cause : Option String
  /-- What was printed before. -/
  printed : String := ""
  deriving DecidableEq, Repr

namespace Failure

/-- The text of a failure. -/
def text (f : Failure) : String :=
  match f.cause with
  | none => s!"Error: {f.message}\n"
  | some cause => s!"Error: {f.message}\n\nCaused by:\n    {cause}\n"

/-- The failure for a refusal of the file system. -/
def ofFile (e : FileError) : Failure where
  message := e.message
  cause := none

/-- The failure for a refusal to start the workers, with what was printed before. -/
def ofPool (printed reason : String) : Failure where
  message := reason
  cause := some reason
  printed := printed

/-- What a run leaves behind that fails. -/
def output (f : Failure) : Output where
  exitCode := 1
  stdout := f.printed
  stderr := f.text
  written := []

end Failure

/-- The forms of a report. Names that are not known give the terminal form too. -/
inductive Format where
  | terminal
  | json
  | markdown
  | unknown
  deriving DecidableEq, Repr

/-- The form with the given name. -/
def Format.ofName (name : String) : Format :=
  if name = "terminal" then .terminal
  else if name = "json" then .json
  else if name = "markdown" then .markdown
  else .unknown

/-- The exit status of `check`. -/
def Report.exitCode (config : Config) (r : Report) : Nat :=
  if r.hasFailures then 2
  else if r.hasLeaks || r.hasLoadFailures || (config.strict && r.hasSkips) then 1
  else 0

/-- The report on all facts files that a path stands for. -/
def FileTree.report (t : FileTree) (timestamp path : String) (config : Config) : Report :=
  let (bodies, failures) := t.collect path
  .new timestamp path (Facts.outcomes config bodies) failures

/-- A report in terminal form, with its summary. -/
def Report.screen (colour : Bool) (r : Report) : String :=
  let line := (Style.letters .cyan).paint colour (rule '=')
  r.terminal colour ++ s!"\n{line}\n" ++ r.summaryText colour

/-- What is printed, and written, for the text of a report: with a directory for it the text goes
into the file `name` there. -/
def deliver (colour : Bool) (t : FileTree) (directory : Option String) (name text : String) :
    Except Failure (String × List (Location × String)) :=
  match directory with
  | none => .ok (text ++ "\n", [])
  | some path =>
    let file := Path.join path [name]
    match (t.makeDirectories path).bind (·.writable file) with
    | .error e => .error (.ofFile e)
    | .ok l =>
      let mark := (Style.letters .green).paint colour "[+] Report saved to:"
      let place := (Style.letters .yellow).paint colour file
      .ok (s!"{mark} {place}\n", [(l, text)])

/-- What is printed and written for a report. -/
def Report.present (colour : Bool) (t : FileTree) (format : Format) (directory : Option String)
    (r : Report) : Except Failure (String × List (Location × String)) :=
  match format with
  | .json => deliver colour t directory "leak_report.json" r.render
  | .markdown => deliver colour t directory "leak_report.md" r.markdown
  | .terminal => .ok (r.screen colour, [])
  | .unknown => .ok (r.screen colour, [])

namespace Command

/-- The line that announces the terminal form. -/
def heading (colour : Bool) (path : String) : String :=
  let mark := (Style.boldLetters .green).paint colour "[*] Checking:"
  s!"{mark} {(Style.letters .yellow).paint colour path}\n"

/-- What `check` prints before it looks at any file. -/
def announcement (colour : Bool) (o : CheckOptions) : String :=
  if Format.ofName o.format = .terminal then heading colour o.path else ""

/-- Runs `check`. -/
def runCheck (pool : Pool) (colour : Bool) (timestamp : String) (t : FileTree)
    (o : CheckOptions) : Except Failure Output := do
  let format := Format.ofName o.format
  if format = .terminal ∧ o.output.isSome then
    throw { message := "--output requires --format json or --format markdown", cause := none }
  match pool.refused? o.config with
  | some reason => throw (.ofPool (announcement colour o) reason)
  | none =>
    let report := t.report timestamp o.path o.config
    let (text, written) ← report.present colour t format o.output
    return {
      exitCode := report.exitCode o.config
      stdout := announcement colour o ++ text
      stderr := ""
      written := written }

/-- Runs `dot`. -/
def runDot (t : FileTree) (file unit : String) : Except Failure Output := do
  match t.load file with
  | .error e => throw { message := e.context file, cause := some e.cause }
  | .ok bodies =>
    match bodies.find? (·.name = unit) with
    | none => throw { message := s!"no unit named `{unit}` in {file}", cause := none }
    | some facts =>
      match facts.toBody 1 with
      | .error e => throw { message := e.message, cause := none }
      | .ok b =>
        return {
          exitCode := 0
          stdout := b.graph.dot b.registry b.name ++ "\n"
          stderr := ""
          written := [] }

/-- Runs `version`. -/
def runVersion (colour : Bool) : Output :=
  let mark := (Style.letters .green).paint colour "leakflow version:"
  let version := (Style.letters .yellow).paint colour Report.version
  { exitCode := 0, stdout := s!"{mark} {version}\n", stderr := "", written := [] }

/-- Runs a command. -/
def run (pool : Pool) (colour : Bool) (timestamp : String) (t : FileTree) : Command → Output
  | .check options =>
    match runCheck pool colour timestamp t options with
    | .ok output => output
    | .error failure => failure.output
  | .dot file unit =>
    match runDot t file unit with
    | .ok output => output
    | .error failure => failure.output
  | .version => runVersion colour

end Command

namespace Usage

/-- The name of the program, or of one of its commands. -/
def programName : Option String → String
  | none => "leakflow"
  | some command => "leakflow-" ++ command

/-- What a run leaves behind that comes to no command. -/
def Stop.output (s : Stop) : Output where
  exitCode := s.exitCode
  stdout :=
    match s with
    | .version command => s!"{programName command} {Report.version}\n"
    | _ => ""
  stderr := ""
  written := []

end Usage

/-- What a run of the program with the given arguments leaves behind. -/
def runProgram (pool : Pool) (colour : Bool) (timestamp : String) (t : FileTree)
    (args : List String) : Output :=
  match Usage.parse args with
  | .ok command => command.run pool colour timestamp t
  | .error stop => stop.output

end InfoFlow
