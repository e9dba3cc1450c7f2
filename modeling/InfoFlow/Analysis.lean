import InfoFlow.Body
import InfoFlow.Facts.Body
import InfoFlow.Report.Basic

/-!
# Analysis

From a body to the findings in it, and from the facts of a program to an outcome for each body. A
body whose facts are incomplete is skipped and one whose facts are wrong has failed; the others are
not concerned.
-/

namespace InfoFlow

/-- What to analyse and how to judge it. -/
structure Config where
  /-- Keep implicit leaks. -/
  reportImplicit : Bool := true
  /-- How many workers to use. Outcomes do not depend on it, but the system may refuse to start so
  many. -/
  jobs : Option Nat := none
  /-- Take a skipped body for a failed run. -/
  strict : Bool := false
  deriving DecidableEq, Repr

/-- The workers that the system gives: why it does not start a number of them, if it does not. -/
structure Pool where
  refusal? : Nat → Option String

namespace Pool

/-- The pool that has any number of workers. -/
def unlimited : Pool where
  refusal? _ := none

/-- Why the workers that are asked for are not there. Without a number, those that are there do. -/
def refused? (pool : Pool) (config : Config) : Option String :=
  config.jobs.bind pool.refusal?

end Pool

/-- A leak with the texts of its nodes. -/
def Finding.ofLeak (r : Registry) (leak : Leak) : Finding where
  channel := leak.channel.name
  kind := leak.kind
  witness := leak.witness.map r.display

/-- The report on a body with the given taint. -/
def Body.report (b : Body) (t : Taint) : BodyReport where
  unit := b.name
  findings := t.leaks.map (Finding.ofLeak b.registry)
  stats := {
    locals := b.registry.vars.length
    params := b.registry.params.length
    controls := b.registry.controls.length
    dataEdges := b.graph.edgeCount .data
    controlEdges := b.graph.edgeCount .control
    tainted := t.tainted.length }

/-- The report on a body, if it is known what is sensitive in it. -/
def Body.analyze (b : Body) : Except Refusal BodyReport := do
  let seeds ← b.seeds
  return b.report (Taint.ofSeeds b.graph seeds)

/-- The report without implicit leaks, unless they are to be kept. -/
def BodyReport.select (r : BodyReport) (config : Config) : BodyReport :=
  if config.reportImplicit then r
  else { r with findings := r.findings.filter fun f => f.kind = .direct }

/-- The outcome for a body called `name` that could not be analysed. -/
def Outcome.ofError (name : String) (e : Refusal) : Outcome :=
  match e.category with
  | .incomplete => .skipped name e.message
  | .contradictory => .failed name e.message

/-- The outcome for the facts of a body, which gets the number `unit`. -/
def BodyFacts.outcome (f : BodyFacts) (config : Config) (unit : Nat) : Outcome :=
  match f.toBody unit >>= Body.analyze with
  | .ok report => .analyzed (report.select config)
  | .error e => .ofError f.name e

/-- The outcomes for the facts of a program, whose bodies are numbered from 1. -/
def Facts.outcomes (config : Config) (bodies : List BodyFacts) : List Outcome :=
  bodies.mapIdx fun i f => f.outcome config (i + 1)

end InfoFlow
