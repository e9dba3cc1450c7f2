import InfoFlow.Listing
import InfoFlow.Node

/-!
# Registries

A registry issues the nodes of one body. A variable has one node for each name and a parameter one
for each position; every request for a control node is answered by a new one. `Registry.check`
accepts exactly the nodes that can be used in the body.

The variables are kept twice, by their names and by their slots. `VarTable.Inverse` says that these
two tables tell the same, and `VarTable.Inverse.push` that it stays so when a variable is issued.
-/

namespace InfoFlow

/-- What a registry knows of a control node. -/
structure ControlInfo where
  parent : Option ControlId
  branch : Int64
  deriving DecidableEq, Repr

/-- The variables of a body. -/
structure VarTable where
  /-- The variables by their names. -/
  locals : List (String × VarId)
  /-- The names of the variables by their slots. -/
  vars : List String
  deriving DecidableEq, Repr

namespace VarTable

/-- The table with a variable in the next slot. -/
def push (t : VarTable) (unit : Nat) (name : String) : VarTable where
  locals := t.locals ++ [(name, ⟨unit, t.vars.length⟩)]
  vars := t.vars ++ [name]

/-- A variable is found under a name if and only if its slot holds that name. -/
def Inverse (unit : Nat) (t : VarTable) : Prop :=
  ∀ name id, t.locals.lookup name = some id ↔ id.unit = unit ∧ t.vars[id.slot]? = some name

/-- Without variables nothing is found. -/
theorem Inverse.none (unit : Nat) : Inverse unit ⟨[], []⟩ := by
  intro name id
  simp

/-- A variable with a new name keeps the tables inverse to each other. -/
theorem Inverse.push {t : VarTable} {unit name} (h : t.Inverse unit)
    (fresh : t.locals.lookup name = .none) : (t.push unit name).Inverse unit := by
  intro name' id
  have last : [(name, VarId.mk unit t.vars.length)].lookup name' = some id ↔
      name' = name ∧ id = ⟨unit, t.vars.length⟩ := by
    rw [List.lookup_cons]
    by_cases same : name' = name
    · simp [same, eq_comm]
    · have other : (name' == name) = false := by simpa using same
      simp [other, same]
  unfold VarTable.push
  simp only [List.lookup_append, Option.or_eq_some_iff, last, getElem?_snoc, h name' id]
  constructor
  · rintro (⟨own, slot⟩ | ⟨-, rfl, rfl⟩)
    · exact ⟨own, .inl slot⟩
    · exact ⟨rfl, .inr ⟨rfl, rfl⟩⟩
  · rintro ⟨own, slot | ⟨slot, rfl⟩⟩
    · exact .inl ⟨own, slot⟩
    · obtain ⟨unit', slot'⟩ := id
      cases own
      cases slot
      exact .inr ⟨fresh, rfl, rfl⟩

end VarTable

/-- The nodes of the body with the number `unit`, in the order in which they were issued. -/
structure Registry extends VarTable where
  unit : Nat
  params : List ParamIndex
  controls : List ControlInfo
  inverse : toVarTable.Inverse unit
  deriving DecidableEq, Repr

namespace Registry

/-- How many variables, and how many control nodes, a body can have: `2^32`. -/
def slotLimit : Nat := 4294967296

/-- The registry of a new body. -/
def empty (unit : Nat) : Registry where
  unit := unit
  locals := []
  vars := []
  params := []
  controls := []
  inverse := .none unit

/-- The variable called `name`, if it was issued. -/
def var? (r : Registry) (name : String) : Option VarId :=
  r.locals.lookup name

/-- The registry with a variable that has a new name. -/
def push (r : Registry) (name : String) (fresh : r.var? name = none) : Registry :=
  { r with
    toVarTable := r.toVarTable.push r.unit name
    inverse := r.inverse.push fresh }

/-- The variable called `name`, issued now if it was not before. -/
def var (name : String) : Update Registry Node := fun r =>
  match fresh : r.var? name with
  | some id => .ok (.var id) r
  | none =>
    if r.vars.length < slotLimit then
      .ok (.var ⟨r.unit, r.vars.length⟩) (r.push name fresh)
    else .error (.registryFull .var) r

/-- The parameter at `index`, registered now if it was not before. -/
def param (index : Int64) : Update Registry Node := fun r =>
  match ParamIndex.ofInt64 index with
  | .error e => .error e r
  | .ok index =>
    if index ∈ r.params then .ok (.boundary (.param index)) r
    else .ok (.boundary (.param index)) { r with params := r.params ++ [index] }

/-- What is known of a control node, `none` for one that the registry did not issue. -/
def entry? (r : Registry) (id : ControlId) : Option ControlInfo :=
  if id.unit = r.unit then r.controls[id.slot]? else none

/-- The control node around a control node. -/
def parent? (r : Registry) (id : ControlId) : Option ControlId :=
  (r.entry? id).bind ControlInfo.parent

/-- The branches from the outermost control node to `id`, over at most the given number of
nodes. -/
def pathWithin (r : Registry) : Nat → ControlId → List Int64
  | 0, _ => []
  | steps + 1, id =>
    match r.entry? id with
    | none => []
    | some entry =>
      match entry.parent with
      | none => [entry.branch]
      | some parent => r.pathWithin steps parent ++ [entry.branch]

/-- The branches from the outermost control node to `id`, empty for one that the registry did not
issue. -/
def branchPath (r : Registry) (id : ControlId) : List Int64 :=
  r.pathWithin (r.controls.length + 1) id

/-- The text of a node. A node of another body shows that body's number and its slot there. -/
def display (r : Registry) : Node → String
  | .boundary p => p.name
  | .var id =>
    match if id.unit = r.unit then r.vars[id.slot]? else none with
    | some name => name
    | none => s!"<local {id.unit}:{id.slot}>"
  | .control id =>
    match r.entry? id with
    | none => s!"<control {id.unit}:?{id.slot}>"
    | some _ =>
      "<control " ++ ".".intercalate ((r.branchPath id).map fun b => toString b.toInt) ++ ">"

/-- Whether a variable was issued by this registry. -/
def knowsVar (r : Registry) (id : VarId) : Bool :=
  id.unit = r.unit && id.slot < r.vars.length

/-- Whether a control node was issued by this registry. -/
def knowsControl (r : Registry) (id : ControlId) : Bool :=
  id.unit = r.unit && id.slot < r.controls.length

/-- Accepts the nodes that can be used in this body. -/
def check (r : Registry) (n : Node) : Except Refusal Unit :=
  match n with
  | .boundary (.param index) =>
    if index ∈ r.params then .ok ()
    else .error (.unregisteredNode (Boundary.name (.param index)))
  | .boundary _ => .ok ()
  | .var id =>
    if r.knowsVar id then .ok () else .error (.danglingNode (r.display n) r.unit)
  | .control id =>
    if r.knowsControl id then .ok () else .error (.danglingNode (r.display n) r.unit)

/-- Accepts a missing control node and those that can be used in this body. -/
def checkParent (r : Registry) : Option ControlId → Except Refusal Unit
  | none => .ok ()
  | some id => r.check (.control id)

/-- Issues a new control node inside `parent`. -/
def control (parent : Option ControlId) (branch : Int64) : Update Registry ControlId := fun r =>
  match r.checkParent parent with
  | .error e => .error e r
  | .ok () =>
    if r.controls.length < slotLimit then
      .ok ⟨r.unit, r.controls.length⟩ { r with controls := r.controls ++ [⟨parent, branch⟩] }
    else .error (.registryFull .control) r

end Registry

end InfoFlow
