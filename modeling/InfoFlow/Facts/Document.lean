import InfoFlow.Facts.Basic
import InfoFlow.Json.Printer
import InfoFlow.Json.Reader

/-!
# Facts as JSON documents

A document holds the facts of a program, `{"units": [...]}`, or of one body. `Facts.parse` reads
both, trying the program first; `BodyFacts.toJson` and `Facts.toJson` write them.
-/

namespace InfoFlow

namespace ControlDecl

/-- The names of the fields of a control node, in order. -/
def fieldNames : List String := ["id", "parent", "branch"]

/-- A control node as a JSON value. -/
def toJson (c : ControlDecl) : Json :=
  .obj [("id", .str c.id), ("parent", (c.parent.map Json.str).getD .null),
    ("branch", .int c.branch.toInt)]

/-- The control node that a JSON value stands for. -/
def ofJson? (value : Json) : Option ControlDecl := do
  match ← value.record? fieldNames with
  | [id, parent, branch] =>
    return {
      id := ← Json.required? Json.str? id
      parent := ← Json.optional? Json.str? parent
      branch := ← Json.required? Json.int64? branch }
  | _ => none

end ControlDecl

namespace BodyFacts

/-- The names of the fields of a body, in order. -/
def fieldNames : List String :=
  ["name", "controls", "data", "control", "sources", "sinks", "sensitive_params",
    "sensitive_locals"]

/-- A list of edges as a JSON value. -/
def edgesToJson (edges : List (String × String)) : Json :=
  .arr (edges.map fun (source, target) => Json.ofStrings [source, target])

/-- A field for a list that is there, and none for one that is not. -/
def optionalField {α : Type} (name : String) (write : α → Json) (items : Option (List α)) :
    List (String × Json) :=
  match items with
  | none => []
  | some items => [(name, .arr (items.map write))]

/-- The facts of a body as a JSON value. -/
def toJson (f : BodyFacts) : Json :=
  .obj ([("name", .str f.name), ("controls", .arr (f.controls.map ControlDecl.toJson)),
      ("data", edgesToJson f.data), ("control", edgesToJson f.control)] ++
    optionalField "sources" .str f.sources ++ optionalField "sinks" .str f.sinks ++
    optionalField "sensitive_params" (fun n => .int n.toInt) f.sensitiveParams ++
    optionalField "sensitive_locals" .str f.sensitiveLocals)

/-- The facts that a JSON value stands for. -/
def ofJson? (value : Json) : Option BodyFacts := do
  match ← value.record? fieldNames with
  | [name, controls, data, control, sources, sinks, params, locals] =>
    return {
      name := ← Json.required? Json.str? name
      controls := ← Json.withDefault? [] (Json.listOf? ControlDecl.ofJson?) controls
      data := ← Json.withDefault? [] (Json.listOf? Json.pair?) data
      control := ← Json.withDefault? [] (Json.listOf? Json.pair?) control
      sources := ← Json.optional? (Json.listOf? Json.str?) sources
      sinks := ← Json.optional? (Json.listOf? Json.str?) sinks
      sensitiveParams := ← Json.optional? (Json.listOf? Json.int64?) params
      sensitiveLocals := ← Json.optional? (Json.listOf? Json.str?) locals }
  | _ => none

end BodyFacts

namespace Facts

/-- Why a text is no facts document. -/
inductive ReadError where
  /-- The text is no JSON document. -/
  | json (fault : Json.Fault)
  /-- The value is neither a program nor a body. -/
  | shape
  deriving DecidableEq, Repr

/-- The facts of a program as a JSON value. -/
def toJson (bodies : List BodyFacts) : Json :=
  .obj [("units", .arr (bodies.map BodyFacts.toJson))]

/-- The bodies of a program. -/
def ofProgram? (value : Json) : Option (List BodyFacts) := do
  match ← value.record? ["units"] with
  | [units] => Json.required? (Json.listOf? BodyFacts.ofJson?) units
  | _ => none

/-- The bodies of a document: those of a program, or else a single one. -/
def ofJson? (value : Json) : Option (List BodyFacts) :=
  match ofProgram? value with
  | some bodies => some bodies
  | none => (BodyFacts.ofJson? value).map fun body => [body]

/-- What is wrong with a document that cannot be read. -/
def ReadError.message : ReadError → String
  | .json .malformed => "<json Syntax error>"
  | .json .truncated => "<json Eof error>"
  | .shape => "data did not match any variant of untagged enum FactsFile"

/-- Reads a facts document. What follows the value is looked at last. -/
def parse (text : String) : Except ReadError (List BodyFacts) :=
  match Json.readOne text.toList with
  | .error fault => .error (.json fault)
  | .ok (value, rest) =>
    match ofJson? value with
    | none => .error .shape
    | some bodies =>
      match Json.expectEnd rest with
      | .error fault => .error (.json fault)
      | .ok () => .ok bodies

end Facts

end InfoFlow
