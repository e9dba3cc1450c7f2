import InfoFlow.Refusal

/-!
# Nodes

The nodes of a flow graph. A `Boundary` node is visible outside a body and is the same node in
every body; variables and control nodes belong to one body and are told apart by its number and a
slot.
-/

namespace InfoFlow

/-- The position of a parameter, at most `2^63 - 1`. -/
structure ParamIndex where
  val : Nat
  isLt : val < 9223372036854775808
  deriving DecidableEq, Repr

/-- The position that a number stands for. Negative numbers are refused. -/
def ParamIndex.ofInt64 (index : Int64) : Except Refusal ParamIndex :=
  if 0 ≤ index.toInt then
    .ok ⟨index.toInt.toNat, by have := index.toInt_lt; omega⟩
  else .error (.negativeParamIndex index)

/-- A node that is visible outside a body. -/
inductive Boundary where
  /-- What the body returns. -/
  | returned
  /-- What the body throws. -/
  | thrown
  /-- The state shared by all bodies. -/
  | statics
  /-- The object the body is called on. -/
  | receiver
  /-- A parameter of the body. -/
  | param (index : ParamIndex)
  /-- The origin of annotated sources. -/
  | source
  /-- The target of annotated sinks. -/
  | sink
  deriving DecidableEq, Repr

namespace Boundary

/-- The name of a boundary node, the same in every body. -/
def name : Boundary → String
  | .returned => "<return>"
  | .thrown => "<throw>"
  | .statics => "<static>"
  | .receiver => "this"
  | .param index => "param" ++ toString index.val
  | .source => "<@Source>"
  | .sink => "<@Sink>"

/-- The boundary node with the given name, parameters apart. -/
def ofName? (name : String) : Option Boundary :=
  if name = "<return>" then some .returned
  else if name = "<throw>" then some .thrown
  else if name = "<static>" then some .statics
  else if name = "this" then some .receiver
  else if name = "<@Source>" then some .source
  else if name = "<@Sink>" then some .sink
  else none

/-- Whether data that reaches the boundary node has left the body. -/
def isChannel : Boundary → Bool
  | .source => false
  | _ => true

/-- The place of a boundary node in their order; parameters are ordered by position. -/
def rank : Boundary → Nat × Nat
  | .returned => (0, 0)
  | .thrown => (1, 0)
  | .statics => (2, 0)
  | .receiver => (3, 0)
  | .param index => (4, index.val)
  | .source => (5, 0)
  | .sink => (6, 0)

/-- The order of boundary nodes. -/
def le (p q : Boundary) : Bool :=
  p.rank.1 < q.rank.1 || (p.rank.1 = q.rank.1 && p.rank.2 ≤ q.rank.2)

end Boundary

/-- A variable of the body with the number `unit`. -/
structure VarId where
  unit : Nat
  slot : Nat
  deriving DecidableEq, Repr

/-- A control node of the body with the number `unit`. -/
structure ControlId where
  unit : Nat
  slot : Nat
  deriving DecidableEq, Repr

/-- A node of a flow graph. -/
inductive Node where
  | boundary (boundary : Boundary)
  | var (id : VarId)
  | control (id : ControlId)
  deriving DecidableEq, Repr

namespace Node

/-- The boundary node that a node is. -/
def boundary? : Node → Option Boundary
  | .boundary p => some p
  | _ => none

/-- Whether a node is visible outside its body. -/
def isPublic (n : Node) : Bool :=
  n.boundary?.isSome

/-- The control node that a node is. -/
def control? : Node → Option ControlId
  | .control id => some id
  | _ => none

/-- Whether a node is a control node. -/
def isControl (n : Node) : Bool :=
  n.control?.isSome

end Node

end InfoFlow
