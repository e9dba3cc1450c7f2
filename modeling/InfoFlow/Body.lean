import InfoFlow.Graph

/-!
# Bodies

A body is the unit of analysis: a registry, a graph over its nodes, and the nodes declared
sensitive. Its operations keep the graph inside the registry: an edge is added only between nodes
that the registry accepts.
-/

namespace InfoFlow

/-- One body under analysis. `declared` is `none` until something is said about what is
sensitive. -/
structure Body where
  name : String
  registry : Registry
  graph : Graph
  declared : Option (List Node)
  deriving DecidableEq, Repr

namespace Body

/-- A new body with the number `unit`. -/
def new (unit : Nat) (name : String) : Body where
  name := name
  registry := .empty unit
  graph := .empty
  declared := none

/-- A change of the registry as a change of the body. -/
def onRegistry {α : Type} (change : Update Registry α) : Update Body α := fun b =>
  match change b.registry with
  | .ok a r => .ok a { b with registry := r }
  | .error e r => .error e { b with registry := r }

/-- A change of the graph as a change of the body. -/
def onGraph {α : Type} (change : Registry → Update Graph α) : Update Body α := fun b =>
  match change b.registry b.graph with
  | .ok a g => .ok a { b with graph := g }
  | .error e g => .error e { b with graph := g }

/-- The variable called `name`. -/
def var (name : String) : Update Body Node :=
  onRegistry (Registry.var name)

/-- The parameter at `index`. -/
def param (index : Int64) : Update Body Node :=
  onRegistry (Registry.param index)

/-- A new control node. -/
def control (parent : Option ControlId) (branch : Int64) : Update Body ControlId :=
  onRegistry (Registry.control parent branch)

/-- Adds a data edge. -/
def addData (source target : Node) : Update Body Bool :=
  onGraph fun r => Graph.connect r { source, target, kind := .data }

/-- Adds a control edge. -/
def addControl (guard : ControlId) (target : Node) : Update Body Bool :=
  onGraph fun r => Graph.connect r { source := .control guard, target, kind := .control }

/-- Says that there is something known about what is sensitive. -/
def markKnown : Update Body PUnit := fun b =>
  .ok ⟨⟩ { b with declared := some (b.declared.getD []) }

/-- Declares the variable called `name` an annotated source. -/
def markSource (name : String) : Update Body Node := do
  let n ← var name
  let _ ← addData (.boundary .source) n
  markKnown
  return n

/-- Declares the variable called `name` an annotated sink. -/
def markSink (name : String) : Update Body Node := do
  let n ← var name
  let _ ← addData n (.boundary .sink)
  markKnown
  return n

/-- Declares a node sensitive. -/
def markSensitive (n : Node) : Update Body PUnit := fun b =>
  match b.registry.check n with
  | .error e => .error e b
  | .ok () =>
    let declared := b.declared.getD []
    .ok ⟨⟩ { b with declared := some (if n ∈ declared then declared else declared ++ [n]) }

/-- The nodes that taint starts from: the origin of annotated sources and the declared nodes. -/
def seeds (b : Body) : Except Refusal (List Node) :=
  match b.declared with
  | none => .error (.missingSensitivity b.name)
  | some declared => .ok (.boundary .source :: declared)

end Body

end InfoFlow
