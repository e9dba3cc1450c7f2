import InfoFlow.Graph.Tables
import InfoFlow.Event
import InfoFlow.Main
import InfoFlow.Workspace
import InfoFlow.Proofs.Reachability
import InfoFlow.Proofs.Taint.Growth
import InfoFlow.Proofs.Taint.Exactness
import InfoFlow.Proofs.Taint.Witness
import InfoFlow.Proofs.Taint.Leak
import InfoFlow.Proofs.Taint.Course
import InfoFlow.Proofs.Taint.Shortest
import InfoFlow.Proofs.Taint.DataPart
import InfoFlow.Proofs.Taint.Frame
import InfoFlow.Proofs.Facts.Denotation
import InfoFlow.Proofs.Body.Effect
import InfoFlow.Proofs.Body.History
import InfoFlow.Proofs.Facts.Controls
import InfoFlow.Proofs.Facts.Nesting
import InfoFlow.Proofs.Facts.Diagnosis
import InfoFlow.Proofs.Facts.Reading
import InfoFlow.Proofs.Facts.Items
import InfoFlow.Proofs.Facts.Depiction
import InfoFlow.Proofs.Facts.Refusals
import InfoFlow.Proofs.Verdict.Findings
import InfoFlow.Proofs.Verdict.Rearrangement
import InfoFlow.Proofs.Verdict.Monotone
import InfoFlow.Proofs.Verdict.ExitStatus
import InfoFlow.Proofs.Registry.Stability
import InfoFlow.Proofs.Registry.Identity
import InfoFlow.Proofs.Body.Ownership
import InfoFlow.Proofs.Workspace.Isolation
import InfoFlow.Proofs.Facts.Renumbering
import InfoFlow.Proofs.Taint.Matching
import InfoFlow.Proofs.Verdict.Numbering
import InfoFlow.Proofs.Verdict.ExplicitOnly
import InfoFlow.Proofs.Json.Lexical
import InfoFlow.Proofs.Json.Roundtrip
import InfoFlow.Proofs.Json.Record
import InfoFlow.Proofs.Facts.Roundtrip
import InfoFlow.Proofs.Report.Roundtrip
import InfoFlow.Proofs.Facts.Naming
import InfoFlow.Proofs.Facts.Grammar
import InfoFlow.Proofs.Graph.Dot
import InfoFlow.Proofs.Command.Files
import InfoFlow.Proofs.Command.Loading
