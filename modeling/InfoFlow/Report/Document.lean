import InfoFlow.Json.Printer
import InfoFlow.Json.Reader
import InfoFlow.Report.Basic

/-!
# Reports as JSON documents

Each type of a report with its written form `toJson` and its reader `ofJson?`. The outcome of a
body is written as one object whose field `status` says which of the three it is. A kind of taint
that is written as an object maps its name to `null`; inside an outcome it may map it to an empty
object too.
-/

namespace InfoFlow

/-- A kind of taint as a JSON value. -/
def FlowKind.toJson (kind : FlowKind) : Json :=
  .str kind.word

/-- The kind of taint that a JSON value stands for. -/
def FlowKind.ofJson? (nothing : Json → Bool) (value : Json) : Option FlowKind :=
  (value.caseName? nothing).bind FlowKind.ofWord?

/-- A kind of edge as a JSON value. -/
def EdgeKind.toJson (kind : EdgeKind) : Json :=
  .str kind.word

/-- The kind of edge that a JSON value stands for. -/
def EdgeKind.ofJson? (value : Json) : Option EdgeKind :=
  (value.caseName? Json.isNull).bind EdgeKind.ofWord?

namespace Finding

/-- A finding as a JSON value. -/
def toJson (f : Finding) : Json :=
  .obj [("channel", .str f.channel), ("kind", f.kind.toJson),
    ("witness", Json.ofStrings f.witness)]

/-- The finding that a JSON value stands for. -/
def ofJson? (nothing : Json → Bool) (value : Json) : Option Finding := do
  match ← value.record? ["channel", "kind", "witness"] with
  | [channel, kind, witness] =>
    return {
      channel := ← Json.required? Json.str? channel
      kind := ← Json.required? (FlowKind.ofJson? nothing) kind
      witness := ← Json.required? (Json.listOf? Json.str?) witness }
  | _ => none

end Finding

namespace Stats

/-- Sizes as a JSON value. -/
def toJson (s : Stats) : Json :=
  .obj [("locals", Json.ofNat s.locals), ("params", Json.ofNat s.params),
    ("controls", Json.ofNat s.controls), ("data_edges", Json.ofNat s.dataEdges),
    ("control_edges", Json.ofNat s.controlEdges), ("tainted", Json.ofNat s.tainted)]

/-- The sizes that a JSON value stands for. -/
def ofJson? (value : Json) : Option Stats := do
  match ← value.record?
    ["locals", "params", "controls", "data_edges", "control_edges", "tainted"] with
  | [locals, params, controls, dataEdges, controlEdges, tainted] =>
    return {
      locals := ← Json.required? Json.count? locals
      params := ← Json.required? Json.count? params
      controls := ← Json.required? Json.count? controls
      dataEdges := ← Json.required? Json.count? dataEdges
      controlEdges := ← Json.required? Json.count? controlEdges
      tainted := ← Json.required? Json.count? tainted }
  | _ => none

end Stats

namespace BodyReport

/-- The fields of the report on a body. -/
def fields (r : BodyReport) : List (String × Json) :=
  [("unit", .str r.unit), ("findings", .arr (r.findings.map Finding.toJson)),
    ("stats", r.stats.toJson)]

/-- The report on a body that a JSON value stands for. -/
def ofJson? (value : Json) : Option BodyReport := do
  match ← value.record? ["unit", "findings", "stats"] with
  | [unit, findings, stats] =>
    return {
      unit := ← Json.required? Json.str? unit
      findings := ← Json.required? (Json.listOf? (Finding.ofJson? Json.isVacant)) findings
      stats := ← Json.required? Stats.ofJson? stats }
  | _ => none

end BodyReport

namespace Outcome

/-- An outcome as a JSON value. -/
def toJson : Outcome → Json
  | .analyzed report => .obj (("status", .str "analyzed") :: report.fields)
  | .skipped unit reason =>
    .obj [("status", .str "skipped"), ("unit", .str unit), ("reason", .str reason)]
  | .failed unit reason =>
    .obj [("status", .str "failed"), ("unit", .str unit), ("reason", .str reason)]

/-- The status of an outcome and the record of its other fields. -/
def status? : Json → Option (Json × Json)
  | .obj fields => do
    let status ← (← Json.fieldOnce? fields "status")
    return (status, .obj (fields.filter fun field => field.1 ≠ "status"))
  | .arr (status :: items) => some (status, .arr items)
  | _ => none

/-- The name of a body and the reason why it was not analysed. -/
def reason? (value : Json) : Option (String × String) := do
  match ← value.record? ["unit", "reason"] with
  | [unit, reason] =>
    return (← Json.required? Json.str? unit, ← Json.required? Json.str? reason)
  | _ => none

/-- The outcome that a JSON value stands for. -/
def ofJson? (value : Json) : Option Outcome := do
  let (status, record) ← status? value
  let status ← status.str?
  if status = "analyzed" then
    return .analyzed (← BodyReport.ofJson? record)
  else if status = "skipped" then
    let (unit, reason) ← reason? record
    return .skipped unit reason
  else if status = "failed" then
    let (unit, reason) ← reason? record
    return .failed unit reason
  else none

end Outcome

namespace LoadFailure

/-- A file that could not be loaded as a JSON value. -/
def toJson (f : LoadFailure) : Json :=
  .obj [("path", .str f.path), ("reason", .str f.reason)]

/-- The file that could not be loaded that a JSON value stands for. -/
def ofJson? (value : Json) : Option LoadFailure := do
  match ← value.record? ["path", "reason"] with
  | [path, reason] =>
    return {
      path := ← Json.required? Json.str? path
      reason := ← Json.required? Json.str? reason }
  | _ => none

end LoadFailure

namespace Metadata

/-- The origin of a report as a JSON value. -/
def toJson (m : Metadata) : Json :=
  .obj [("version", .str m.version), ("timestamp", .str m.timestamp), ("source", .str m.source)]

/-- The origin of a report that a JSON value stands for. -/
def ofJson? (value : Json) : Option Metadata := do
  match ← value.record? ["version", "timestamp", "source"] with
  | [version, timestamp, source] =>
    return {
      version := ← Json.required? Json.str? version
      timestamp := ← Json.required? Json.str? timestamp
      source := ← Json.required? Json.str? source }
  | _ => none

end Metadata

namespace Summary

/-- The numbers of a report as a JSON value. -/
def toJson (s : Summary) : Json :=
  .obj [("explicit", Json.ofNat s.explicit), ("implicit", Json.ofNat s.implicit),
    ("total", Json.ofNat s.total), ("units_analyzed", Json.ofNat s.unitsAnalyzed),
    ("units_skipped", Json.ofNat s.unitsSkipped), ("units_failed", Json.ofNat s.unitsFailed),
    ("files_failed", Json.ofNat s.filesFailed)]

/-- The numbers of a report that a JSON value stands for. -/
def ofJson? (value : Json) : Option Summary := do
  match ← value.record?
    ["explicit", "implicit", "total", "units_analyzed", "units_skipped", "units_failed",
      "files_failed"] with
  | [explicit, implicit, total, analyzed, skipped, failed, files] =>
    return {
      explicit := ← Json.required? Json.count? explicit
      implicit := ← Json.required? Json.count? implicit
      total := ← Json.required? Json.count? total
      unitsAnalyzed := ← Json.required? Json.count? analyzed
      unitsSkipped := ← Json.required? Json.count? skipped
      unitsFailed := ← Json.required? Json.count? failed
      filesFailed := ← Json.withDefault? 0 Json.count? files }
  | _ => none

end Summary

namespace Report

/-- A report as a JSON value. -/
def toJson (r : Report) : Json :=
  .obj [("metadata", r.metadata.toJson), ("units", .arr (r.units.map Outcome.toJson)),
    ("load_failures", .arr (r.loadFailures.map LoadFailure.toJson)),
    ("summary", r.summary.toJson)]

/-- The report that a JSON value stands for. -/
def ofJson? (value : Json) : Option Report := do
  match ← value.record? ["metadata", "units", "load_failures", "summary"] with
  | [metadata, units, loadFailures, summary] =>
    return {
      metadata := ← Json.required? Metadata.ofJson? metadata
      units := ← Json.required? (Json.listOf? Outcome.ofJson?) units
      loadFailures := ← Json.withDefault? [] (Json.listOf? LoadFailure.ofJson?) loadFailures
      summary := ← Json.required? Summary.ofJson? summary }
  | _ => none

/-- The JSON text of a report. -/
def render (r : Report) : String :=
  r.toJson.renderPretty

/-- Reads the JSON text of a report. -/
def parse? (text : String) : Option Report :=
  match Json.parse text with
  | .ok value => ofJson? value
  | .error _ => none

end Report

end InfoFlow
