import InfoFlow.Facts.Controls
import InfoFlow.Facts.Reference

/-!
# Bodies from facts

`BodyFacts.toBody` makes a body of its facts: control nodes first, then data edges, control edges
and declarations, each in the order of the facts. The first item that is refused decides the
refusal of the body.
-/

namespace InfoFlow

namespace Facts

/-- The node that a reference string refers to. Variables and parameters are registered if they are
new; control nodes have to be declared. -/
def resolve (issued : Issued) (raw : String) : Update Body Node :=
  match Reference.parse raw with
  | .error e => throw e
  | .ok (.boundary p) => return .boundary p
  | .ok (.param index) => Body.param index
  | .ok (.control id) =>
    match issued.get? id with
    | some id => return .control id
    | none => throw (.unregisteredNode raw)
  | .ok (.var name) => Body.var name

/-- The declared control node with the given id. -/
def controlNamed (issued : Issued) (id : String) : Update Body ControlId :=
  match issued.get? id with
  | some id => return id
  | none => throw (.unregisteredNode ("#" ++ id))

/-- The control node that a reference string refers to where a control edge starts. There the id
of a control node may stand without its mark. -/
def resolveGuard (issued : Issued) (raw : String) : Update Body ControlId :=
  match Reference.parse raw with
  | .error e => throw e
  | .ok (.boundary _) => throw (.notAControlNode raw)
  | .ok (.param _) => throw (.notAControlNode raw)
  | .ok (.control id) => controlNamed issued id
  | .ok (.var name) => do
    if (issued.get? name).isNone && ((← get).registry.var? name).isSome then
      throw (.notAControlNode raw)
    else controlNamed issued name

/-- Adds the data edge between two reference strings. -/
def addData (issued : Issued) (edge : String × String) : Update Body PUnit := do
  let source ← resolve issued edge.1
  let target ← resolve issued edge.2
  let _ ← Body.addData source target

/-- Adds the control edge between two reference strings. -/
def addControl (issued : Issued) (edge : String × String) : Update Body PUnit := do
  let guard ← resolveGuard issued edge.1
  let target ← resolve issued edge.2
  let _ ← Body.addControl guard target

/-- Declares a parameter sensitive. -/
def markParam (index : Int64) : Update Body PUnit := do
  Body.markSensitive (← Body.param index)

/-- Declares the node of a reference string sensitive. -/
def markLocal (issued : Issued) (raw : String) : Update Body PUnit := do
  Body.markSensitive (← resolve issued raw)

end Facts

namespace BodyFacts

/-- Carries out the declarations, if there are any. -/
def markAll (f : BodyFacts) (issued : Facts.Issued) : Update Body PUnit := do
  if f.declaresSensitivity then
    Body.markKnown
    (f.sources.getD []).forM fun name => do
      let _ ← Body.markSource name
    (f.sinks.getD []).forM fun name => do
      let _ ← Body.markSink name
    (f.sensitiveParams.getD []).forM Facts.markParam
    (f.sensitiveLocals.getD []).forM (Facts.markLocal issued)

/-- Carries out all facts on a body. -/
def replay (f : BodyFacts) : Update Body PUnit := do
  let issued ← Facts.issueControls f.controls
  f.data.forM (Facts.addData issued)
  f.control.forM (Facts.addControl issued)
  f.markAll issued

/-- The body of the facts, with the number `unit`. -/
def toBody (f : BodyFacts) (unit : Nat) : Except Refusal Body :=
  match f.replay (Body.new unit f.name) with
  | .ok _ b => .ok b
  | .error e _ => .error e

end BodyFacts

end InfoFlow
