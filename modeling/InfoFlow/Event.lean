import InfoFlow.Analysis

/-!
# Events

What the analysis has to tell while it runs. Events are read off the values before and after a step,
so that no step carries a log along.
-/

namespace InfoFlow

/-- How important an event is. -/
inductive Level where
  | trace
  | debug
  | warn
  | error
  deriving DecidableEq, Repr

/-- Something that happened. -/
inductive Event where
  | varIssued (unit : Nat) (name : String)
  | paramRegistered (unit : Nat) (index : ParamIndex)
  | controlIssued (unit : Nat) (display : String)
  | staticSeedIgnored
  | taintReached (nodes direct rounds : Nat)
  | bodyAnalyzed (name : String) (nodes edges findings : Nat)
  | bodySkipped (name : String) (error : Refusal)
  | bodyFailed (name : String) (error : Refusal)
  deriving DecidableEq, Repr

namespace Event

/-- The importance of an event. -/
def level : Event → Level
  | .varIssued .. => .trace
  | .paramRegistered .. => .trace
  | .controlIssued .. => .trace
  | .staticSeedIgnored => .warn
  | .taintReached .. => .debug
  | .bodyAnalyzed .. => .debug
  | .bodySkipped .. => .warn
  | .bodyFailed .. => .error

/-- The text of an event. -/
def message : Event → String
  | .varIssued unit name => s!"unit {unit}: constructed local `{name}`"
  | .paramRegistered unit index => s!"unit {unit}: registered param{index.val}"
  | .controlIssued unit display => s!"unit {unit}: constructed {display}"
  | .staticSeedIgnored =>
    "ignoring <static> as a taint seed; static reads are never sensitive"
  | .taintReached nodes direct rounds =>
    s!"taint reached {nodes} node(s) ({direct} direct) in {rounds} round(s)"
  | .bodyAnalyzed name nodes edges findings =>
    s!"unit `{name}`: {nodes} node(s), {edges} edge(s), {findings} finding(s)"
  | .bodySkipped name error => s!"skipping unit `{name}`: {error.message}"
  | .bodyFailed name error => s!"internal error in unit `{name}`: {error.message}"

end Event

/-- The nodes that a registry issued since it was `before`. -/
def Registry.events (before after : Registry) : List Event :=
  (after.vars.drop before.vars.length).map (.varIssued after.unit) ++
  (after.params.drop before.params.length).map (.paramRegistered after.unit) ++
  (List.range' before.controls.length (after.controls.length - before.controls.length)).map
    fun slot => .controlIssued after.unit (after.display (.control ⟨after.unit, slot⟩))

/-- What a propagation from the seeds has to tell. -/
def Taint.events (seeds : List Node) (t : Taint) : List Event :=
  (seeds.filter (· = .boundary .statics)).map (fun _ => .staticSeedIgnored) ++
  [.taintReached t.order.length t.directCount t.rounds]

/-- What the analysis of a body has to tell. -/
def Body.events (b : Body) : List Event :=
  match b.seeds with
  | .error _ => []
  | .ok seeds =>
    let t := Taint.ofSeeds b.graph seeds
    t.events seeds ++
    [.bodyAnalyzed b.name b.graph.nodes.length b.graph.size t.leaks.length]

/-- What it means for a body called `name` that it could not be analysed. -/
def Event.ofError (name : String) (e : Refusal) : Event :=
  match e.category with
  | .incomplete => .bodySkipped name e
  | .contradictory => .bodyFailed name e

/-- What the analysis of the facts of a body has to tell, the nodes that are issued apart. -/
def BodyFacts.events (f : BodyFacts) (unit : Nat) : List Event :=
  match f.toBody unit with
  | .error e => [.ofError f.name e]
  | .ok b =>
    match b.analyze with
    | .error e => b.events ++ [.ofError f.name e]
    | .ok _ => b.events

/-- What the analysis of the facts of a program has to tell. -/
def Facts.events (bodies : List BodyFacts) : List Event :=
  (bodies.mapIdx fun i f => f.events (i + 1)).flatten

end InfoFlow
