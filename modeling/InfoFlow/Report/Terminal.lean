import InfoFlow.Report.Basic
import InfoFlow.Text.Style

/-!
# Reports on the terminal

The text of a report and of its summary, with or without colour.
-/

namespace InfoFlow

open Text

namespace FlowKind

/-- The badge of a leak of this kind. -/
def badge (colour : Bool) : FlowKind → String
  | .direct => (Style.badge .white .red).paint colour "EXPLICIT"
  | .implicit => (Style.badge .black .yellow).paint colour "IMPLICIT"

/-- The mark of a leak of this kind. -/
def mark : FlowKind → String
  | .direct => "[!!]"
  | .implicit => "[!]"

end FlowKind

/-- The text of a finding in the body called `unit`, with its number. -/
def Finding.terminal (colour : Bool) (unit : String) (index : Nat) (f : Finding) : String :=
  let number := (Style.boldLetters .cyan).paint colour ("#" ++ toString index)
  let body := (Style.letters .yellow).paint colour unit
  let channel := (Style.boldLetters .white).paint colour f.channel
  let description := Style.dimmed.paint colour f.description
  let title := Style.dimmed.paint colour "Witness:"
  let path := (Style.letters .brightWhite).paint colour f.path
  let line := Style.dimmed.paint colour (rule '-')
  "\n" ++ s!"{number} {f.kind.badge colour} {body} {channel}\n" ++
  s!"   {description}\n   {title} {path}\n{line}\n"

/-- The line for a file that could not be loaded. -/
def LoadFailure.terminal (colour : Bool) (f : LoadFailure) : String :=
  let mark := (Style.boldLetters .red).paint colour "[x] Unreadable"
  s!"{mark} {f.path}: {f.reason}\n"

/-- The line for a body that was not analysed. -/
def Outcome.terminal (colour : Bool) : Outcome → String
  | .analyzed _ => ""
  | .skipped unit reason =>
    let mark := (Style.letters .yellow).paint colour "[-] Skipped"
    s!"{mark} {unit}: {Style.dimmed.paint colour reason}\n"
  | .failed unit reason =>
    let mark := (Style.boldLetters .red).paint colour "[x] Failed"
    s!"{mark} {unit}: {reason}\n"

namespace Report

/-- The findings with the names of their bodies. -/
def located (r : Report) : List (String × Finding) :=
  r.units.flatMap fun o => o.findings.map fun f => (o.unit, f)

/-- The text of a report. -/
def terminal (colour : Bool) (r : Report) : String :=
  String.join (r.loadFailures.map (LoadFailure.terminal colour)) ++
  String.join (r.units.map (Outcome.terminal colour)) ++
  if r.hasLeaks then
    let title := (Style.boldLetters .red).paint colour "[!] Leak Findings:"
    let line := (Style.letters .cyan).paint colour (rule '=')
    s!"\n{title}\n{line}\n" ++
    String.join (r.located.mapIdx fun i (unit, f) => f.terminal colour unit (i + 1))
  else
    let none := (Style.boldLetters .green).paint colour "[+] No leaks found."
    s!"\n{none}\n"

/-- The text of the summary of a report. -/
def summaryText (colour : Bool) (r : Report) : String :=
  let s := r.summary
  let numbers := Style.bold.paint colour
    (s!"[*] Summary: {s.explicit} Explicit | {s.implicit} Implicit | " ++
      s!"{s.unitsAnalyzed} unit(s) analyzed, {s.unitsSkipped} skipped, {s.unitsFailed} failed")
  let files := (Style.boldLetters .red).paint colour
    s!"[x] {s.filesFailed} facts file(s) could not be loaded"
  let total := s!"[!] Total: {s.total} leak(s) found"
  let verdict :=
    if s.total = 0 then (Style.boldLetters .green).paint colour "[+] No leaks found."
    else if 0 < s.explicit then (Style.boldLetters .red).paint colour total
    else (Style.boldLetters .yellow).paint colour total
  numbers ++ "\n" ++ (if r.hasLoadFailures then files ++ "\n" else "") ++ verdict ++ "\n"

end Report

end InfoFlow
