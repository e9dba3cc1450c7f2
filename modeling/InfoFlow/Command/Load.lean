import InfoFlow.Command.FileTree
import InfoFlow.Facts.Document
import InfoFlow.Report.Basic

/-!
# Loading facts files

Each facts file gives all bodies of its document, or one failure.
-/

namespace InfoFlow

/-- Why a facts file cannot be loaded. -/
inductive LoadError where
  | unreadable (error : FileError)
  | unparsable (error : Facts.ReadError)
  deriving DecidableEq, Repr

namespace LoadError

/-- What could not be done with the file at a path. -/
def context (path : String) : LoadError → String
  | .unreadable _ => "failed to read " ++ path
  | .unparsable _ => "failed to parse " ++ path

/-- Why it could not be done. -/
def cause : LoadError → String
  | .unreadable e => e.message
  | .unparsable e => e.message

/-- The failure to load the file at a path. -/
def failure (path : String) (e : LoadError) : LoadFailure where
  path := path
  reason := e.context path ++ ": " ++ e.cause

end LoadError

/-- Loads the facts file at a path. -/
def FileTree.load (t : FileTree) (path : String) : Except LoadError (List BodyFacts) :=
  match t.read path with
  | .error e => .error (.unreadable e)
  | .ok text =>
    match Facts.parse text with
    | .error e => .error (.unparsable e)
    | .ok bodies => .ok bodies

/-- The bodies of a file, none if it could not be loaded. -/
def FileTree.bodiesOf (t : FileTree) (path : String) : List BodyFacts :=
  match t.load path with
  | .ok bodies => bodies
  | .error _ => []

/-- The failure to load a file, if it failed. -/
def FileTree.failureOf (t : FileTree) (path : String) : Option LoadFailure :=
  match t.load path with
  | .ok _ => none
  | .error e => some (e.failure path)

/-- The bodies and the failures of all facts files that a path stands for. -/
def FileTree.collect (t : FileTree) (path : String) : List BodyFacts × List LoadFailure :=
  let files := t.factFiles path
  (files.flatMap t.bodiesOf, files.filterMap t.failureOf)

end InfoFlow
