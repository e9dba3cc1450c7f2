import InfoFlow.Command.Run
import InfoFlow.Proofs.Facts.Refusals
import InfoFlow.Proofs.Verdict.Findings

/-!
# The exit status

The exit status of `check` is read off the counts of a report. `Verdict` says what it has to be, in
terms of the facts of each body: how making a body from them and analysing it ends, and which
channels the edges that they speak of lead to.

Neither depends on the number that a body gets (`BodyFacts.endsIn_iff`, `BodyFacts.analyze_isOk`),
so what holds of some outcome holds of some body (`Facts.exists_outcome`). The main result is
`exitCode_verdict`.
-/

namespace InfoFlow

open Facts

namespace Outcome

/-- The class of the refusal that an outcome is about. -/
def category? : Outcome → Option RefusalClass
  | .analyzed _ => none
  | .skipped _ _ => some .incomplete
  | .failed _ _ => some .contradictory

/-- The outcome for a refusal keeps its class. -/
lemma category?_ofError {name : String} {e : Refusal} :
    (ofError name e).category? = some e.category := by
  unfold ofError
  cases e.category with
  | incomplete => rfl
  | contradictory => rfl

/-- An outcome has failed if the facts were contradictory. -/
lemma isFailed_iff {o : Outcome} : o.isFailed = true ↔ o.category? = some .contradictory := by
  cases o <;> simp [isFailed, category?]

/-- An outcome is a skip if the facts were incomplete. -/
lemma isSkipped_iff {o : Outcome} : o.isSkipped = true ↔ o.category? = some .incomplete := by
  cases o <;> simp [isSkipped, category?]

end Outcome

namespace BodyFacts

variable {f : BodyFacts} {config : Config} {unit : Nat}

/-- Makes a body from facts and analyses it. -/
def analyze (f : BodyFacts) (unit : Nat) : Except Refusal BodyReport :=
  f.toBody unit >>= Body.analyze

/-- The analysis of the facts is refused for a reason of the given class. -/
def EndsIn (f : BodyFacts) (unit : Nat) (category : RefusalClass) : Prop :=
  ∃ e, f.analyze unit = .error e ∧ e.category = category

/-- Sensitive data gets into some channel, by data edges alone if implicit leaks do not count. -/
def Exposes (f : BodyFacts) (config : Config) : Prop :=
  ∃ c : Boundary, c ≠ .source ∧ ¬ f.Seed c.reference ∧
    if config.reportImplicit then f.Reached c.reference else f.DirectlyReached c.reference

/-- The three ways in which the analysis of facts can end. -/
lemma analyze_cases (f : BodyFacts) (unit : Nat) :
    (∃ e, f.refusal? = some e ∧ f.analyze unit = .error e) ∨
    (f.refusal? = none ∧ f.declaresSensitivity = false ∧
      ∃ name, f.analyze unit = .error (.missingSensitivity name)) ∨
    (f.refusal? = none ∧ f.declaresSensitivity = true ∧ ∃ report, f.analyze unit = .ok report) := by
  unfold analyze
  cases built : f.toBody unit with
  | error e => exact .inl ⟨e, toBody_error.1 built, rfl⟩
  | ok b =>
    have made : f.refusal? = none := toBody_exists.1 ⟨b, built⟩
    show _ ∨ (_ ∧ _ ∧ ∃ name, b.analyze = _) ∨ _ ∧ _ ∧ ∃ report, b.analyze = _
    rw [← declared_isSome built]
    cases known : b.declared with
    | none => exact .inr (.inl ⟨made, rfl, b.name, Body.analyze_error known⟩)
    | some nodes => exact .inr (.inr ⟨made, rfl, _, Body.analyze_ok.2 ⟨nodes, known, rfl⟩⟩)

/-- The class of the refusal does not depend on the number of the body. -/
lemma endsIn_iff {category} :
    f.EndsIn unit category ↔
      (∃ e, f.refusal? = some e ∧ e.category = category) ∨
        (f.refusal? = none ∧ f.declaresSensitivity = false ∧ category = .incomplete) := by
  unfold EndsIn
  rcases f.analyze_cases unit with
    ⟨e, refused, h⟩ | ⟨made, declares, name, h⟩ | ⟨made, declares, report, h⟩
  · simp [h, refused]
  · simp [h, made, declares, Refusal.category, eq_comm]
  · simp [h, made, declares]

/-- Facts are analysed if nothing is to be refused and they say what is sensitive. -/
lemma analyze_isOk :
    (∃ report, f.analyze unit = .ok report) ↔
      f.refusal? = none ∧ f.declaresSensitivity = true := by
  rcases f.analyze_cases unit with
    ⟨e, refused, h⟩ | ⟨made, declares, name, h⟩ | ⟨made, declares, report, h⟩
  · simp [h, refused]
  · simp [h, declares]
  · simp [h, made, declares]

/-- The outcome of an analysis that succeeds is its report. -/
lemma outcome_ok {report} (h : f.analyze unit = .ok report) :
    f.outcome config unit = .analyzed (report.select config) := by
  unfold analyze at h
  unfold outcome
  rw [h]

/-- The outcome of an analysis that is refused tells the refusal. -/
lemma outcome_error {e} (h : f.analyze unit = .error e) :
    f.outcome config unit = .ofError f.name e := by
  unfold analyze at h
  unfold outcome
  rw [h]

/-- The outcome tells the class of the refusal. -/
lemma outcome_category {category} :
    (f.outcome config unit).category? = some category ↔ f.EndsIn unit category := by
  unfold EndsIn
  cases h : f.analyze unit with
  | ok report => simp [outcome_ok h, Outcome.category?]
  | error e =>
    rw [outcome_error h, Outcome.category?_ofError]
    simp

lemma DirectlyReached.reached {x} (h : f.DirectlyReached x) : f.Reached x :=
  Reachable.mono (fun _ _ flows => ⟨.data, flows⟩) (fun _ => id) h

/-- A channel is exposed if there is a leak into it that counts. -/
lemma exposes_iff :
    f.Exposes config ↔
      ∃ c kind, f.Leaks c kind ∧ (config.reportImplicit = true ∨ kind = .direct) := by
  unfold Exposes Leaks
  refine exists_congr fun c => ?_
  cases config.reportImplicit with
  | false =>
    simp
  | true =>
    refine ⟨fun h => ?_, fun h => ?_⟩
    · obtain ⟨ne, fresh, reached⟩ := h
      by_cases direct : f.DirectlyReached c.reference
      · exact ⟨.direct, ⟨ne, fresh, direct⟩, .inl rfl⟩
      · exact ⟨.implicit, ⟨ne, fresh, direct, reached⟩, .inl rfl⟩
    · obtain ⟨kind, ⟨ne, fresh, reached⟩, -⟩ := h
      refine ⟨ne, fresh, ?_⟩
      cases kind with
      | direct => exact reached.reached
      | implicit => exact reached.2

/-- There is a finding if and only if the body is analysed and exposes something. -/
lemma exists_finding :
    (∃ finding, finding ∈ (f.outcome config unit).findings) ↔
      (∃ report, f.analyze unit = .ok report) ∧ f.Exposes config := by
  cases h : f.analyze unit with
  | error e =>
    rw [outcome_error h]
    unfold Outcome.ofError
    cases e.category with
    | incomplete => simp [Outcome.findings]
    | contradictory => simp [Outcome.findings]
  | ok report =>
    have analyzed : f.outcome config unit = .analyzed (report.select config) := outcome_ok h
    rw [exposes_iff, analyzed]
    refine ⟨fun h => ⟨⟨report, rfl⟩, ?_⟩, fun h => ?_⟩
    · obtain ⟨finding, mem⟩ := h
      obtain ⟨c, hc⟩ := findings_channel analyzed mem
      refine ⟨c, finding.kind, (findings_iff analyzed).1 ⟨finding.witness, ?_⟩⟩
      rw [← hc]
      exact mem
    · obtain ⟨-, c, kind, leaks⟩ := h
      obtain ⟨witness, mem⟩ := (findings_iff analyzed).2 leaks
      exact ⟨_, mem⟩

end BodyFacts

/-- What holds of an outcome whatever number its body has holds of some outcome if and only if it
holds of some body. -/
lemma Facts.exists_outcome {config : Config} {bodies : List BodyFacts} {P : Outcome → Prop}
    {Q : BodyFacts → Prop} (each : ∀ f unit, P (f.outcome config unit) ↔ Q f) :
    (∃ o ∈ outcomes config bodies, P o) ↔ ∃ f ∈ bodies, Q f := by
  unfold outcomes
  refine ⟨fun h => ?_, fun h => ?_⟩
  · obtain ⟨o, mem, ho⟩ := h
    obtain ⟨i, hi, rfl⟩ := List.mem_mapIdx.1 mem
    exact ⟨_, List.getElem_mem hi, (each _ _).1 ho⟩
  · obtain ⟨f, mem, hf⟩ := h
    obtain ⟨i, hi, rfl⟩ := List.getElem_of_mem mem
    exact ⟨_, List.mem_mapIdx.2 ⟨i, hi, rfl⟩, (each _ _).2 hf⟩

namespace Report

variable {timestamp source : String} {units : List Outcome} {failures : List LoadFailure}

/-- A report has failures if some outcome has failed. -/
lemma hasFailures_new :
    (new timestamp source units failures).hasFailures = true ↔ ∃ o ∈ units, o.isFailed = true := by
  unfold hasFailures new Summary.of
  rw [decide_eq_true_iff, List.countP_pos_iff]

/-- A report has skips if some outcome is one. -/
lemma hasSkips_new :
    (new timestamp source units failures).hasSkips = true ↔ ∃ o ∈ units, o.isSkipped = true := by
  unfold hasSkips new Summary.of
  rw [decide_eq_true_iff, List.countP_pos_iff]

/-- A report has load failures if some file could not be loaded. -/
lemma hasLoadFailures_new :
    (new timestamp source units failures).hasLoadFailures = true ↔ failures ≠ [] := by
  unfold hasLoadFailures new Summary.of
  rw [decide_eq_true_iff, List.length_pos_iff]

/-- There is a leak if some outcome has a finding; every finding counts, whatever its kind. -/
lemma hasLeaks_new :
    (new timestamp source units failures).hasLeaks = true ↔
      ∃ o ∈ units, ∃ finding, finding ∈ o.findings := by
  unfold hasLeaks new Summary.of Summary.findingCount
  rw [decide_eq_true_iff, Nat.add_pos_iff_pos_or_pos, List.countP_pos_iff, List.countP_pos_iff]
  simp only [List.mem_flatMap]
  refine ⟨fun h => ?_, fun h => ?_⟩
  · rcases h with ⟨finding, ⟨o, mem, hfinding⟩, -⟩ | ⟨finding, ⟨o, mem, hfinding⟩, -⟩
    · exact ⟨o, mem, finding, hfinding⟩
    · exact ⟨o, mem, finding, hfinding⟩
  · obtain ⟨o, mem, finding, hfinding⟩ := h
    cases kind : finding.kind with
    | direct => exact .inl ⟨finding, ⟨o, mem, hfinding⟩, by simp [kind]⟩
    | implicit => exact .inr ⟨finding, ⟨o, mem, hfinding⟩, by simp [kind]⟩

end Report

/-- The facts of some body are wrong. -/
def Wrong (unit : Nat) (bodies : List BodyFacts) : Prop :=
  ∃ f ∈ bodies, f.EndsIn unit .contradictory

/-- Some body exposes something, some file could not be loaded or, where that counts, the facts of
some body are incomplete. -/
def Alarming (config : Config) (unit : Nat) (bodies : List BodyFacts)
    (failures : List LoadFailure) : Prop :=
  (∃ f ∈ bodies, (∃ report, f.analyze unit = .ok report) ∧ f.Exposes config) ∨
    failures ≠ [] ∨ config.strict = true ∧ ∃ f ∈ bodies, f.EndsIn unit .incomplete

/-- What the exit status says about bodies and about the files that could not be loaded. -/
structure Verdict (config : Config) (unit : Nat) (bodies : List BodyFacts)
    (failures : List LoadFailure) (code : Nat) : Prop where
  two : code = 2 ↔ Wrong unit bodies
  one : code = 1 ↔ ¬ Wrong unit bodies ∧ Alarming config unit bodies failures
  zero : code = 0 ↔ ¬ Wrong unit bodies ∧ ¬ Alarming config unit bodies failures

section

variable {config : Config} {unit : Nat} {bodies bodies' : List BodyFacts}
  {failures failures' : List LoadFailure}

/-- A report has failures if the facts of some body are wrong. -/
lemma wrong_iff {timestamp source} {r : Report}
    (hr : r = .new timestamp source (outcomes config bodies) failures) :
    r.hasFailures = true ↔ Wrong unit bodies := by
  subst hr
  rw [Report.hasFailures_new]
  refine exists_outcome fun f number => ?_
  rw [Outcome.isFailed_iff, BodyFacts.outcome_category, BodyFacts.endsIn_iff, BodyFacts.endsIn_iff]

/-- A report asks for attention if there is something alarming. -/
lemma alarming_iff {timestamp source} {r : Report}
    (hr : r = .new timestamp source (outcomes config bodies) failures) :
    (r.hasLeaks || r.hasLoadFailures || (config.strict && r.hasSkips)) = true ↔
      Alarming config unit bodies failures := by
  subst hr
  have leaks : (∃ o ∈ outcomes config bodies, ∃ finding, finding ∈ o.findings) ↔
      ∃ f ∈ bodies, (∃ report, f.analyze unit = .ok report) ∧ f.Exposes config := by
    refine exists_outcome fun f number => ?_
    rw [BodyFacts.exists_finding, BodyFacts.analyze_isOk, BodyFacts.analyze_isOk]
  have skips : (∃ o ∈ outcomes config bodies, o.isSkipped = true) ↔
      ∃ f ∈ bodies, f.EndsIn unit .incomplete := by
    refine exists_outcome fun f number => ?_
    rw [Outcome.isSkipped_iff, BodyFacts.outcome_category, BodyFacts.endsIn_iff,
      BodyFacts.endsIn_iff]
  rw [Bool.or_eq_true, Bool.or_eq_true, Bool.and_eq_true, Report.hasLeaks_new,
    Report.hasLoadFailures_new, Report.hasSkips_new, leaks, skips, or_assoc]
  exact Iff.rfl

/-- The exit status that a report comes to is the verdict on what it was made from. -/
lemma exitCode_new {timestamp source} {r : Report}
    (hr : r = .new timestamp source (outcomes config bodies) failures) :
    Verdict config unit bodies failures (r.exitCode config) := by
  have wrong : r.hasFailures = true ↔ Wrong unit bodies := wrong_iff hr
  have alarming : _ ↔ Alarming config unit bodies failures := alarming_iff hr
  unfold Report.exitCode
  refine ⟨?_, ?_, ?_⟩
  all_goals
    rw [← wrong]
    try rw [← alarming]
    split
    case isTrue h => simp [h]
    case isFalse h =>
      split
      case isTrue h' => simp [h, h']
      case isFalse h' => simp [h, h']

/-- There is only one right verdict. -/
lemma Verdict.unique {code code'} (h : Verdict config unit bodies failures code)
    (h' : Verdict config unit bodies failures code') : code = code' := by
  by_cases wrong : Wrong unit bodies
  · rw [h.two.2 wrong, h'.two.2 wrong]
  · by_cases alarming : Alarming config unit bodies failures
    · rw [h.one.2 ⟨wrong, alarming⟩, h'.one.2 ⟨wrong, alarming⟩]
    · rw [h.zero.2 ⟨wrong, alarming⟩, h'.zero.2 ⟨wrong, alarming⟩]

/-- The verdict does not depend on the workers. -/
lemma Verdict.withJobs {code jobs}
    (h : Verdict { config with jobs := jobs } unit bodies failures code) :
    Verdict config unit bodies failures code :=
  ⟨h.two, h.one, h.zero⟩

/-- The verdict is on the bodies, not on their order. -/
lemma Verdict.perm {code} (perm : bodies.Perm bodies') (loaded : failures = [] ↔ failures' = [])
    (h : Verdict config unit bodies failures code) :
    Verdict config unit bodies' failures' code := by
  have wrong : Wrong unit bodies ↔ Wrong unit bodies' := by
    unfold Wrong
    simp only [perm.mem_iff]
  have alarming : Alarming config unit bodies failures ↔
      Alarming config unit bodies' failures' := by
    unfold Alarming
    simp only [perm.mem_iff, ne_eq, loaded]
  refine ⟨?_, ?_, ?_⟩
  · rw [← wrong]
    exact h.two
  · rw [← wrong, ← alarming]
    exact h.one
  · rw [← wrong, ← alarming]
    exact h.zero

end

namespace FileTree

variable {t : FileTree} {path text : String} {content : ByteArray}

/-- A file is read as its text. -/
lemma read_file (found : t.lookup path = .ok (.file content))
    (decoded : String.fromUTF8? content = some text) : t.read path = .ok text := by
  unfold read
  rw [found]
  simp only [bind, Except.bind, decoded]
  rfl

/-- A file with a document is loaded with its bodies. -/
lemma load_file {bodies} (read : t.read path = .ok text) (parsed : Facts.parse text = .ok bodies) :
    t.load path = .ok bodies := by
  unfold load
  rw [read]
  simp only [parsed]

/-- A path that leads to a file with a document stands for its bodies. -/
lemma collect_file {bodies} (found : t.lookup path = .ok (.file content))
    (decoded : String.fromUTF8? content = some text) (parsed : Facts.parse text = .ok bodies) :
    t.collect path = (bodies, []) := by
  have loaded := load_file (read_file found decoded) parsed
  have itself : t.factFiles path = [path] := by
    unfold factFiles isFile
    rw [found]
    rfl
  unfold collect
  rw [itself]
  simp [bodiesOf, failureOf, loaded]

end FileTree

namespace Command

variable {pool : Pool} {colour : Bool} {timestamp : String} {t : FileTree} {o : CheckOptions}

/-- Where the workers are refused, `check` fails, and says why. -/
lemma runCheck_refused {reason} (printed : o.output = none)
    (refused : pool.refused? o.config = some reason) :
    runCheck pool colour timestamp t o = .error (.ofPool (announcement colour o) reason) := by
  unfold runCheck
  rw [printed, refused]
  simp only [Option.isSome_none, Bool.false_eq_true, and_false, if_false]
  rfl

/-- A run of `check` that does not fail has its workers. -/
lemma granted_of_ok {output} (h : runCheck pool colour timestamp t o = .ok output) :
    pool.refused? o.config = none := by
  cases refused : pool.refused? o.config with
  | none => rfl
  | some reason =>
    unfold runCheck at h
    rw [refused] at h
    simp only at h
    split at h
    · cases h
    · cases h

/-- The exit status of `check` is that of its report. -/
lemma runCheck_exitCode {output} (h : runCheck pool colour timestamp t o = .ok output) :
    output.exitCode = (t.report timestamp o.path o.config).exitCode o.config := by
  have granted := granted_of_ok h
  unfold runCheck at h
  rw [granted] at h
  simp only at h
  split at h
  · cases h
  · cases presented : (t.report timestamp o.path o.config).present colour t (Format.ofName o.format)
        o.output with
    | error failure =>
      rw [presented] at h
      cases h
    | ok shown =>
      rw [presented] at h
      cases h
      rfl

/-- Without a directory for it, every form of the report is printed. -/
lemma runCheck_printed (printed : o.output = none) (granted : pool.refused? o.config = none) :
    ∃ output, runCheck pool colour timestamp t o = .ok output := by
  unfold runCheck
  rw [printed, granted]
  cases Format.ofName o.format with
  | terminal => exact ⟨_, rfl⟩
  | json => exact ⟨_, rfl⟩
  | markdown => exact ⟨_, rfl⟩
  | unknown => exact ⟨_, rfl⟩

/-- A run of `check` that does not fail ends with the verdict on what was loaded. -/
lemma runCheck_verdict {bodies failures unit output}
    (collected : t.collect o.path = (bodies, failures))
    (h : runCheck pool colour timestamp t o = .ok output) :
    Verdict o.config unit bodies failures output.exitCode := by
  have report : t.report timestamp o.path o.config =
      .new timestamp o.path (outcomes o.config bodies) failures := by
    unfold FileTree.report
    rw [collected]
  rw [runCheck_exitCode h]
  exact exitCode_new report

end Command

/-- The exit status of `check` is the verdict on the bodies and files that were loaded, whatever the
form of the report and whatever numbers the bodies get. Two runs that find the same bodies, in any
order, end in the same way, also with other workers. Printing a report takes nothing but the workers
that are asked for, and where these are refused the run fails and says why. -/
theorem exitCode_verdict (config : Config) (bodies : List BodyFacts) (failures : List LoadFailure)
    (unit : Nat) :
    (∀ timestamp source, Verdict config unit bodies failures
      ((Report.new timestamp source (outcomes config bodies) failures).exitCode config)) ∧
    (∀ pool colour timestamp t o, o.config = config → t.collect o.path = (bodies, failures) →
      (o.output = none → pool.refused? config = none →
        ∃ output, Command.runCheck pool colour timestamp t o = .ok output) ∧
      (o.output = none → ∀ reason, pool.refused? config = some reason →
        Command.runCheck pool colour timestamp t o =
          .error (.ofPool (Command.announcement colour o) reason)) ∧
      ∀ output, Command.runCheck pool colour timestamp t o = .ok output →
        Verdict config unit bodies failures output.exitCode ∧
        ∀ pool' colour' timestamp' t' o' bodies' failures' output',
          o'.config = { config with jobs := o'.jobs } →
          t'.collect o'.path = (bodies', failures') → bodies'.Perm bodies →
          (failures' = [] ↔ failures = []) →
          Command.runCheck pool' colour' timestamp' t' o' = .ok output' →
          output'.exitCode = output.exitCode) := by
  refine ⟨fun timestamp source => exitCode_new rfl, ?_⟩
  intro pool colour timestamp t o same collected
  subst same
  refine ⟨Command.runCheck_printed, fun printed _ => Command.runCheck_refused printed,
    fun output h => ?_⟩
  have verdict : Verdict o.config unit bodies failures output.exitCode :=
    Command.runCheck_verdict collected h
  refine ⟨verdict, ?_⟩
  intro pool' colour' timestamp' t' o' bodies' failures' output' same' collected' perm loaded h'
  have verdict' : Verdict o'.config unit bodies' failures' output'.exitCode :=
    Command.runCheck_verdict collected' h'
  rw [same'] at verdict'
  exact (verdict'.withJobs.perm perm loaded).unique verdict

/-- A body that returns its parameter by a branch only. -/
def guarded : BodyFacts where
  name := "f"
  controls := [⟨"c", none, 0⟩]
  data := [("param0", "#c")]
  control := [("c", "<return>")]
  sources := none
  sinks := none
  sensitiveParams := some [0]
  sensitiveLocals := none

/-- The facts of `guarded` as they stand in a file. -/
def guardedText : String :=
  "\x7b\"name\": \"f\", \"controls\": [\x7b\"id\": \"c\", \"branch\": 0\x7d], " ++
    "\"data\": [[\"param0\", \"#c\"]], \"control\": [[\"c\", \"<return>\"]], " ++
    "\"sensitive_params\": [0]\x7d"

/-- A file with these facts and nothing else. -/
def guardedTree : FileTree where
  entries := [(["a"], .file guardedText.toUTF8)]

/-- The only file of `guardedTree` has the facts of `guarded`. -/
lemma guardedTree_collect : guardedTree.collect "a" = ([guarded], []) := by
  have decoded : String.fromUTF8? guardedText.toUTF8 = some guardedText := by decide +kernel
  have parsed : Facts.parse guardedText = .ok [guarded] := by decide +kernel
  refine FileTree.collect_file ?_ decoded parsed
  unfold guardedTree
  -- the content is not looked at
  generalize guardedText.toUTF8 = content
  rfl

/-- What `guarded` returns depends on its parameter, and `check` says so in every form, also where
the system has no more than four workers. -/
theorem guarded_exitCode_verdict :
    ∃ output output',
      Command.runCheck .unlimited false "" guardedTree ⟨"a", "json", none, false, none, false⟩ =
        .ok output ∧
      Command.runCheck ⟨fun jobs => if jobs ≤ 4 then none else some "no"⟩ true "now" guardedTree
        ⟨"a", "terminal", none, false, some 4, false⟩ = .ok output' ∧
      output.exitCode = 1 ∧ output'.exitCode = 1 := by
  obtain ⟨reports, runs⟩ := exitCode_verdict ⟨true, none, false⟩ [guarded] [] 1
  obtain ⟨printed, -, verdicts⟩ := runs .unlimited false "" guardedTree
    ⟨"a", "json", none, false, none, false⟩ rfl guardedTree_collect
  obtain ⟨output, h⟩ := printed rfl rfl
  obtain ⟨verdict, same⟩ := verdicts output h
  obtain ⟨output', h'⟩ := ((exitCode_verdict ⟨true, some 4, false⟩ [guarded] [] 1).2
    ⟨fun jobs => if jobs ≤ 4 then none else some "no"⟩ true "now" guardedTree
    ⟨"a", "terminal", none, false, some 4, false⟩ rfl guardedTree_collect).1 rfl rfl
  have one : output.exitCode = 1 := by
    have computed : (Report.new "" "" (outcomes ⟨true, none, false⟩ [guarded]) []).exitCode
        ⟨true, none, false⟩ = 1 := by decide +kernel
    have verdict' := reports "" ""
    rw [computed] at verdict'
    exact verdict.unique verdict'
  refine ⟨output, output', h, h', one, ?_⟩
  rw [← one]
  exact same _ true "now" guardedTree ⟨"a", "terminal", none, false, some 4, false⟩ [guarded] []
    output' rfl guardedTree_collect (.refl _) Iff.rfl h'

end InfoFlow
