import InfoFlow.Taint

/-!
# Reports

What came out of the analysis of the bodies of a program. All nodes are given by their texts here,
so that a report does not depend on any registry.
-/

namespace InfoFlow

/-- A leak of sensitive data into a channel. -/
structure Finding where
  channel : String
  kind : FlowKind
  /-- The nodes from a seed to the channel. -/
  witness : List String
  deriving DecidableEq, Repr

/-- How large a body and its taint are. -/
structure Stats where
  locals : Nat
  params : Nat
  controls : Nat
  dataEdges : Nat
  controlEdges : Nat
  tainted : Nat
  deriving DecidableEq, Repr

/-- What was found in one body. -/
structure BodyReport where
  unit : String
  findings : List Finding
  stats : Stats
  deriving DecidableEq, Repr

/-- What happened to one body. -/
inductive Outcome where
  | analyzed (report : BodyReport)
  /-- The facts are incomplete. -/
  | skipped (unit reason : String)
  /-- The facts are wrong. -/
  | failed (unit reason : String)
  deriving DecidableEq, Repr

/-- A file that could not be loaded. -/
structure LoadFailure where
  path : String
  reason : String
  deriving DecidableEq, Repr

/-- Where a report comes from. -/
structure Metadata where
  version : String
  timestamp : String
  source : String
  deriving DecidableEq, Repr

/-- The numbers of a report. -/
structure Summary where
  explicit : Nat
  implicit : Nat
  total : Nat
  unitsAnalyzed : Nat
  unitsSkipped : Nat
  unitsFailed : Nat
  filesFailed : Nat
  deriving DecidableEq, Repr

/-- The report on a program. -/
structure Report where
  metadata : Metadata
  units : List Outcome
  loadFailures : List LoadFailure
  summary : Summary
  deriving DecidableEq, Repr

/-- The leak in one sentence. -/
def Finding.description (f : Finding) : String :=
  match f.kind with
  | .direct => "sensitive data flows into " ++ f.channel
  | .implicit =>
    "control flow depending on sensitive data is observable through " ++ f.channel

/-- The nodes of the witness in one line. -/
def Finding.path (f : Finding) : String :=
  " -> ".intercalate f.witness

namespace Outcome

/-- The name of the body. -/
def unit : Outcome → String
  | .analyzed report => report.unit
  | .skipped unit _ => unit
  | .failed unit _ => unit

/-- The findings, none if there was no analysis. -/
def findings : Outcome → List Finding
  | .analyzed report => report.findings
  | _ => []

/-- Whether the body was analysed. -/
def isAnalyzed : Outcome → Bool
  | .analyzed _ => true
  | _ => false

/-- Whether the body was skipped. -/
def isSkipped : Outcome → Bool
  | .skipped _ _ => true
  | _ => false

/-- Whether the facts of the body are wrong. -/
def isFailed : Outcome → Bool
  | .failed _ _ => true
  | _ => false

end Outcome

/-- The number of findings of one kind. -/
def Summary.findingCount (units : List Outcome) (kind : FlowKind) : Nat :=
  (units.flatMap Outcome.findings).countP fun f => f.kind = kind

/-- The numbers of a report on the given outcomes and files. -/
def Summary.of (units : List Outcome) (loadFailures : List LoadFailure) : Summary where
  explicit := findingCount units .direct
  implicit := findingCount units .implicit
  total := findingCount units .direct + findingCount units .implicit
  unitsAnalyzed := units.countP Outcome.isAnalyzed
  unitsSkipped := units.countP Outcome.isSkipped
  unitsFailed := units.countP Outcome.isFailed
  filesFailed := loadFailures.length

namespace Report

/-- The version that reports carry. -/
def version : String := "0.1.0"

/-- The report on the given outcomes and files. -/
def new (timestamp source : String) (units : List Outcome) (loadFailures : List LoadFailure) :
    Report where
  metadata := { version := version, timestamp := timestamp, source := source }
  units := units
  loadFailures := loadFailures
  summary := .of units loadFailures

/-- Whether there is a leak. -/
def hasLeaks (r : Report) : Bool :=
  0 < r.summary.total

/-- Whether the facts of some body are wrong. -/
def hasFailures (r : Report) : Bool :=
  0 < r.summary.unitsFailed

/-- Whether some body was skipped. -/
def hasSkips (r : Report) : Bool :=
  0 < r.summary.unitsSkipped

/-- Whether some file could not be loaded. -/
def hasLoadFailures (r : Report) : Bool :=
  0 < r.summary.filesFailed

end Report

end InfoFlow
