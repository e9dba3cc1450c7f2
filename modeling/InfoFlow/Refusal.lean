/-!
# Refusals

Every way in which an operation on a body can be refused, with its class and its message. A refusal
of class `incomplete` says that the facts lack something, and the body can be skipped; one of class
`contradictory` says that the facts contradict themselves.
-/

namespace InfoFlow

/-- The kinds of nodes that belong to one body and live in numbered slots. -/
inductive SlotKind where
  | var
  | control
  deriving DecidableEq, Repr

/-- The word for a kind of slot. -/
def SlotKind.word : SlotKind → String
  | .var => "local"
  | .control => "control"

/-- Why an operation is refused. -/
inductive Refusal where
  | negativeParamIndex (index : Int64)
  | danglingNode (node : String) (unit : Nat)
  | paramIndexOverflow (node : String)
  | registryFull (kind : SlotKind)
  | cyclicControlChain (node : String)
  | duplicateControl (id : String)
  | notAControlNode (node : String)
  | unregisteredNode (node : String)
  | missingSensitivity (unit : String)
  deriving DecidableEq, Repr

/-- Whether the facts are wrong or only incomplete. -/
inductive RefusalClass where
  | contradictory
  | incomplete
  deriving DecidableEq, Repr

namespace Refusal

/-- The class of a refusal. -/
def category : Refusal → RefusalClass
  | .unregisteredNode _ => .incomplete
  | .missingSensitivity _ => .incomplete
  | _ => .contradictory

/-- A body refused in this way can be skipped. -/
def isRecoverable (e : Refusal) : Bool :=
  e.category = .incomplete

/-- The message of a refusal. -/
def message : Refusal → String
  | .negativeParamIndex index =>
    s!"parameter index must be non-negative, got {index.toInt}"
  | .danglingNode node unit => s!"node `{node}` does not belong to analysis unit {unit}"
  | .paramIndexOverflow node => s!"parameter index in `{node}` is out of range"
  | .registryFull kind => s!"unit has more than 4294967295 {kind.word} nodes"
  | .cyclicControlChain node => s!"control node `{node}` has a cyclic parent chain"
  | .duplicateControl id => s!"control node `{id}` declared more than once"
  | .notAControlNode node => s!"`{node}` guards a control edge but is not a control node"
  | .unregisteredNode node => s!"node `{node}` referenced before it was registered"
  | .missingSensitivity unit =>
    s!"no sensitivity declarations were supplied for unit `{unit}`"

end Refusal

/-- A change of a `σ` that may be refused. The state after a refusal is part of the result, so
that it can be stated that a refused change leaves everything as it was. -/
abbrev Update (σ α : Type) := EStateM Refusal σ α

end InfoFlow
