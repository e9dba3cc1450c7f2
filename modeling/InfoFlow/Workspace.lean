import InfoFlow.Body.Operation

/-!
# Workspaces

Several bodies that are worked on side by side. They are numbered from 1 in the order of creation,
so a node tells which of them issued it. A body that was analysed is gone.
-/

namespace InfoFlow

/-- The bodies created so far, `none` standing for one that is gone. -/
structure Workspace where
  bodies : List (Option Body)
  deriving DecidableEq, Repr

namespace Workspace

/-- Why there is no body at a place. -/
inductive Absence where
  /-- None was created there. -/
  | unknown
  /-- It is gone. -/
  | consumed
  deriving DecidableEq, Repr

/-- The workspace without bodies. -/
def empty : Workspace where
  bodies := []

/-- The workspace with one more body, at the last place, that has the number `unit`. -/
def add (w : Workspace) (unit : Nat) (name : String) : Workspace where
  bodies := w.bodies ++ [some (Body.new unit name)]

/-- The workspace with one more body, numbered by its place. -/
def create (w : Workspace) (name : String) : Workspace :=
  w.add (w.bodies.length + 1) name

/-- The body at a place. -/
def body (w : Workspace) (place : Nat) : Except Absence Body :=
  match w.bodies[place]? with
  | none => .error .unknown
  | some none => .error .consumed
  | some (some b) => .ok b

/-- The workspace with another body at a place. -/
def replace (w : Workspace) (place : Nat) (b : Option Body) : Workspace where
  bodies := w.bodies.set place b

/-- Carries out an operation on the body at a place. -/
def perform (w : Workspace) (place : Nat) (op : Operation) :
    Except Absence (Except Refusal Answer × Workspace) :=
  match w.body place with
  | .error absence => .error absence
  | .ok b =>
    let (answer, after) := op.run b
    .ok (answer, w.replace place (some after))

/-- The workspace without the body at a place. -/
def consume (w : Workspace) (place : Nat) : Workspace :=
  w.replace place none

end Workspace

end InfoFlow
