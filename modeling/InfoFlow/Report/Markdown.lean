import InfoFlow.Report.Basic

/-!
# Reports as Markdown
-/

namespace InfoFlow

/-- The head of a report and the table of its numbers. -/
def Report.markdownHead (r : Report) : String :=
  "# Information Flow Report\n\n" ++
  s!"- **Version**: {r.metadata.version}\n" ++
  s!"- **Timestamp**: {r.metadata.timestamp}\n" ++
  s!"- **Source**: `{r.metadata.source}`\n\n" ++
  "## Summary\n\n" ++
  "| Explicit | Implicit | Total | Analyzed | Skipped | Failed |\n" ++
  "|----------|----------|-------|----------|---------|--------|\n" ++
  s!"| {r.summary.explicit} | {r.summary.implicit} | {r.summary.total} | " ++
  s!"{r.summary.unitsAnalyzed} | {r.summary.unitsSkipped} | {r.summary.unitsFailed} |\n\n"

/-- The section on the files that could not be loaded, if there are any. -/
def LoadFailure.markdown (failures : List LoadFailure) : String :=
  if failures.isEmpty then ""
  else
    "## Unreadable Files\n\n" ++
    String.join (failures.map fun f => s!"- `{f.path}`: {f.reason}\n") ++ "\n"

/-- The item for a finding. -/
def Finding.markdown (f : Finding) : String :=
  s!"- **{f.kind.label}** leak into `{f.channel}`: {f.description}\n" ++
  s!"  - witness: `{f.path}`\n"

/-- The section on a body; there is none for a body without findings. -/
def Outcome.markdown : Outcome → String
  | .analyzed report =>
    if report.findings.isEmpty then ""
    else
      s!"## `{report.unit}`\n\n" ++ String.join (report.findings.map Finding.markdown) ++ "\n"
  | .skipped unit reason => s!"> Skipped `{unit}`: {reason}\n\n"
  | .failed unit reason => s!"> **Failed** `{unit}`: {reason}\n\n"

/-- A report as Markdown. -/
def Report.markdown (r : Report) : String :=
  r.markdownHead ++ LoadFailure.markdown r.loadFailures ++
  (if r.hasLeaks then "" else "No leaks found.\n") ++
  String.join (r.units.map Outcome.markdown)

end InfoFlow
