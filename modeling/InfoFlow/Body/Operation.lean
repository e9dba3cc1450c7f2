import InfoFlow.Body

/-!
# Operations on a body

The operations as values, so that histories of a body can be spoken of: `Operation.perform` carries
one out and answers, `Body.after` is the body that a history leads to.
-/

namespace InfoFlow

/-- An operation on a body. -/
inductive Operation where
  | var (name : String)
  | param (index : Int64)
  | control (parent : Option ControlId) (branch : Int64)
  | dataEdge (source target : Node)
  | controlEdge (guard : ControlId) (target : Node)
  | markSource (name : String)
  | markSink (name : String)
  | markSensitive (node : Node)
  | markKnown
  deriving DecidableEq, Repr

/-- The answer to an operation. -/
inductive Answer where
  /-- The node that was asked for. -/
  | node (node : Node)
  /-- Whether the edge is new. -/
  | edge (isNew : Bool)
  /-- Nothing but success. -/
  | done
  deriving DecidableEq, Repr

namespace Operation

/-- Carries out an operation. -/
def perform : Operation → Update Body Answer
  | .var name => do return .node (← Body.var name)
  | .param index => do return .node (← Body.param index)
  | .control parent branch => do return .node (.control (← Body.control parent branch))
  | .dataEdge source target => do return .edge (← Body.addData source target)
  | .controlEdge guard target => do return .edge (← Body.addControl guard target)
  | .markSource name => do return .node (← Body.markSource name)
  | .markSink name => do return .node (← Body.markSink name)
  | .markSensitive n => do
    Body.markSensitive n
    return .done
  | .markKnown => do
    Body.markKnown
    return .done

/-- The answer to an operation, or why it was refused, and the body afterwards. -/
def run (op : Operation) (b : Body) : Except Refusal Answer × Body :=
  match op.perform b with
  | .ok answer b => (.ok answer, b)
  | .error e b => (.error e, b)

end Operation

/-- The body after a history of operations, those that were refused included. -/
def Body.after (b : Body) (history : List Operation) : Body :=
  history.foldl (fun b op => (op.run b).2) b

end InfoFlow
