/-!
# Facts

What a walk over the code of a body found out about it. Nodes are given by reference strings, which
`Reference.parse` reads.
-/

namespace InfoFlow

/-- The declaration of a control node. -/
structure ControlDecl where
  /-- What the node is called in the facts. -/
  id : String
  /-- What the control node around it is called. -/
  parent : Option String
  /-- The number of its branch among those inside the same control node. -/
  branch : Int64
  deriving DecidableEq, Repr

/-- The facts of one body. If none of the last four lists is there, nothing is known about what is
sensitive; a list that is there may be empty. -/
structure BodyFacts where
  name : String
  controls : List ControlDecl
  /-- Data edges, each from the first to the second node. -/
  data : List (String × String)
  /-- Control edges, each from a control node to a node in its branch. -/
  control : List (String × String)
  /-- Variables with sensitive content. -/
  sources : Option (List String)
  /-- Variables whose content leaves the body. -/
  sinks : Option (List String)
  /-- Parameters with sensitive content. -/
  sensitiveParams : Option (List Int64)
  /-- Nodes with sensitive content. -/
  sensitiveLocals : Option (List String)
  deriving DecidableEq, Repr

/-- Whether anything is said about what is sensitive. -/
def BodyFacts.declaresSensitivity (f : BodyFacts) : Bool :=
  f.sources.isSome || f.sinks.isSome || f.sensitiveParams.isSome || f.sensitiveLocals.isSome

end InfoFlow
