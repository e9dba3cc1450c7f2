import InfoFlow.Analysis
import InfoFlow.Proofs.Facts.Image
import InfoFlow.Proofs.Taint.Leak

/-!
# Findings from facts

A channel leaks if the edges that the facts speak of lead to it from a seed (`BodyFacts.Leaks`).
`BodyFacts.findings_iff` says that the findings in a body are the leaks that its facts speak of, for
every configuration, and `BodyFacts.outcome_findings` puts together what the analysis of facts
answers.
-/

namespace InfoFlow

open Facts

namespace Boundary

/-- The name of a boundary node is read as that node, unless it is a parameter. -/
lemma ofName?_name (c : Boundary) :
    ofName? c.name = match c with
      | .param _ => none
      | c => some c := by
  cases c with
  | param index =>
    have ne : ∀ s : String, s.toList.head? ≠ some 'p' → "param" ++ toString index.val ≠ s := by
      intro s hs e
      rw [← e, String.toList_append] at hs
      exact hs rfl
    unfold ofName? name
    rw [if_neg (ne _ (by decide)), if_neg (ne _ (by decide)), if_neg (ne _ (by decide)),
      if_neg (ne _ (by decide)), if_neg (ne _ (by decide)), if_neg (ne _ (by decide))]
  | _ => rfl

/-- Channels with the same name are the same. -/
lemma name_injective {c d : Boundary} (h : c.name = d.name) : c = d := by
  have e := congrArg ofName? h
  rw [ofName?_name, ofName?_name] at e
  cases c with
  | param i =>
    cases d with
    | param j =>
      have digits := (String.append_right_inj _).1 h
      rw [Nat.toString_eq_repr, Nat.toString_eq_repr, Nat.repr_eq_ofList_toDigits,
        Nat.repr_eq_ofList_toDigits, String.ofList_inj] at digits
      have val := congrArg (fun digits => Nat.ofDigitChars 10 digits 0) digits
      simp only [Nat.ofDigitChars_toDigits (b := 10) (by decide) (by decide)] at val
      obtain ⟨i, _⟩ := i
      obtain ⟨j, _⟩ := j
      cases val
      rfl
    | _ => cases e
  | _ =>
    cases d with
    | param j => cases e
    | _ => exact Option.some.inj e

end Boundary

/-- The findings that are kept: all of them, or the direct ones. -/
lemma BodyReport.mem_select {r : BodyReport} {config finding} :
    finding ∈ (r.select config).findings ↔
      finding ∈ r.findings ∧ (config.reportImplicit = true ∨ finding.kind = .direct) := by
  unfold select
  split
  case isTrue keep => simp [keep]
  case isFalse drop => simp [drop]

/-- The findings in a body are its leaks, given by their names. -/
lemma Body.mem_report {b : Body} {t : Taint} {c : Boundary} {kind} :
    (∃ witness, ⟨c.name, kind, witness⟩ ∈ (b.report t).findings) ↔
      ∃ leak ∈ t.leaks, leak.channel = c ∧ leak.kind = kind := by
  unfold report
  simp only [List.mem_map]
  refine ⟨fun h => ?_, fun h => ?_⟩
  · obtain ⟨witness, leak, mem, e⟩ := h
    obtain ⟨hname, hkind, -⟩ := Finding.mk.inj e
    exact ⟨leak, mem, Boundary.name_injective hname, hkind⟩
  · obtain ⟨leak, mem, rfl, rfl⟩ := h
    exact ⟨_, leak, mem, rfl⟩

/-- A body is analysed if it is known what is sensitive in it. -/
lemma Body.analyze_ok {b : Body} {report} :
    b.analyze = .ok report ↔ ∃ nodes, b.declared = some nodes ∧
      report = b.report (Taint.ofSeeds b.graph (.boundary .source :: nodes)) := by
  unfold analyze seeds
  cases b.declared with
  | none =>
    refine ⟨nofun, fun h => ?_⟩
    obtain ⟨nodes, h, -⟩ := h
    cases h
  | some nodes =>
    refine ⟨fun h => ?_, fun h => ?_⟩
    · cases h
      exact ⟨nodes, rfl, rfl⟩
    · obtain ⟨nodes', h, rfl⟩ := h
      cases h
      rfl

/-- A body without declarations is not analysed. -/
lemma Body.analyze_error {b : Body} (unknown : b.declared = none) :
    b.analyze = .error (.missingSensitivity b.name) := by
  unfold analyze seeds
  rw [unknown]
  rfl

namespace BodyFacts

/-- Facts are analysed if they make a body and it can be analysed. -/
lemma outcome_analyzed {f : BodyFacts} {config unit report} :
    f.outcome config unit = .analyzed report ↔
      ∃ b nodes, f.toBody unit = .ok b ∧ b.declared = some nodes ∧
        report = (b.report (Taint.ofSeeds b.graph (.boundary .source :: nodes))).select config := by
  have refused : ∀ e, Outcome.ofError f.name e ≠ .analyzed report := by
    intro e h
    unfold Outcome.ofError at h
    split at h
    · cases h
    · cases h
  have run : ∀ b, (Except.ok b >>= Body.analyze) = b.analyze := fun _ => rfl
  unfold outcome
  refine ⟨fun h => ?_, fun h => ?_⟩
  · cases built : f.toBody unit with
    | error e =>
      rw [built] at h
      exact absurd h (refused e)
    | ok b =>
      rw [built, run] at h
      cases analyzed : b.analyze with
      | error e =>
        rw [analyzed] at h
        exact absurd h (refused e)
      | ok all =>
        rw [analyzed] at h
        cases h
        obtain ⟨nodes, known, rfl⟩ := Body.analyze_ok.1 analyzed
        exact ⟨b, nodes, rfl, known, rfl⟩
  · obtain ⟨b, nodes, built, known, rfl⟩ := h
    rw [built, run, Body.analyze_ok.2 ⟨nodes, known, rfl⟩]

/-- A body that was made from facts is what they describe. -/
lemma rendered {f : BodyFacts} {unit b nodes} (built : f.toBody unit = .ok b)
    (known : b.declared = some nodes) : ∃ issued, Rendered f issued b nodes := by
  obtain ⟨issued, distinct, depicts, controls⟩ := toBody_depicts built
  exact ⟨issued, distinct, depicts, controls, known⟩

/-- It is known what is sensitive in a body if and only if its facts say so. -/
lemma declared_isSome {f : BodyFacts} {unit b} (built : f.toBody unit = .ok b) :
    b.declared.isSome = f.declaresSensitivity := by
  obtain ⟨issued, -, depicts, -⟩ := toBody_depicts built
  rw [depicts.known, Bool.eq_iff_iff, List.any_eq_true]
  refine ⟨fun h => ?_, fun h => ⟨.known, mem_statements.2 h, rfl⟩⟩
  obtain ⟨st, mem, declares⟩ := h
  have mem' := mem_statements.1 mem
  unfold declaresSensitivity
  cases st with
  | data edge => cases declares
  | control edge => cases declares
  | known => exact mem'
  | source name => obtain ⟨_, e, -⟩ := mem'; simp [e]
  | sink name => obtain ⟨_, e, -⟩ := mem'; simp [e]
  | param index => obtain ⟨_, e, -⟩ := mem'; simp [e]
  | place raw => obtain ⟨_, e, -⟩ := mem'; simp [e]

/-- Facts are analysed if and only if they make a body and say what is sensitive. -/
lemma exists_analyzed {f : BodyFacts} (config : Config) {unit} :
    (∃ report, f.outcome config unit = .analyzed report) ↔
      (∃ b, f.toBody unit = .ok b) ∧ f.declaresSensitivity = true := by
  refine ⟨fun h => ?_, fun h => ?_⟩
  · obtain ⟨report, h⟩ := h
    obtain ⟨b, nodes, built, known, -⟩ := outcome_analyzed.1 h
    refine ⟨⟨b, built⟩, ?_⟩
    rw [← declared_isSome built, known]
    rfl
  · obtain ⟨⟨b, built⟩, declares⟩ := h
    rw [← declared_isSome built, Option.isSome_iff_exists] at declares
    obtain ⟨nodes, known⟩ := declares
    exact ⟨_, outcome_analyzed.2 ⟨b, nodes, built, known, rfl⟩⟩

/-- Sensitive data gets into the channel, by data edges or otherwise. -/
def Leaks (f : BodyFacts) (c : Boundary) (kind : FlowKind) : Prop :=
  c ≠ .source ∧ ¬ f.Seed c.reference ∧
    match kind with
    | .direct => f.DirectlyReached c.reference
    | .implicit => ¬ f.DirectlyReached c.reference ∧ f.Reached c.reference

/-- The findings in a body are the leaks that its facts speak of, as far as they are to be kept. -/
lemma findings_iff {f : BodyFacts} {config unit report}
    (h : f.outcome config unit = .analyzed report) {c : Boundary} {kind} :
    (∃ witness, ⟨c.name, kind, witness⟩ ∈ report.findings) ↔
      f.Leaks c kind ∧ (config.reportImplicit = true ∨ kind = .direct) := by
  obtain ⟨b, nodes, built, known, rfl⟩ := outcome_analyzed.1 h
  obtain ⟨issued, rendered⟩ := rendered built known
  -- paths in the graph of the body correspond to paths over references
  have direct : b.graph.DirectlyReached (.boundary .source :: nodes) (.boundary c) ↔
      f.DirectlyReached c.reference := rendered.dataEdge.boundary rendered
  have any : b.graph.Reached (.boundary .source :: nodes) (.boundary c) ↔
      f.Reached c.reference := rendered.anyEdge.boundary rendered
  simp only [BodyReport.mem_select, exists_and_right]
  rw [Body.mem_report, Taint.mem_leaks, rendered.seed]
  unfold Leaks
  cases kind with
  | direct => rw [Taint.exists_direct_iff, direct]
  | implicit => rw [Taint.exists_implicit_iff, direct, any]

/-- No channel has two findings. -/
lemma findings_nodup {f : BodyFacts} {config unit report}
    (h : f.outcome config unit = .analyzed report) :
    (report.findings.map Finding.channel).Nodup := by
  obtain ⟨b, nodes, -, -, rfl⟩ := outcome_analyzed.1 h
  have all : ((b.report (Taint.ofSeeds b.graph (.boundary .source :: nodes))).findings.map
      Finding.channel).Nodup := by
    have e : Finding.channel ∘ Finding.ofLeak b.registry = Boundary.name ∘ Leak.channel := rfl
    unfold Body.report
    rw [List.map_map, e, ← List.map_map]
    refine (Taint.leaks_nodup _ _).map ?_
    intro c d
    exact Boundary.name_injective
  refine all.sublist (List.Sublist.map _ ?_)
  unfold BodyReport.select
  split
  case isTrue => exact .refl _
  case isFalse => exact List.filter_sublist

/-- Every finding is about a channel. -/
lemma findings_channel {f : BodyFacts} {config unit report}
    (h : f.outcome config unit = .analyzed report) {finding} (mem : finding ∈ report.findings) :
    ∃ c : Boundary, finding.channel = c.name := by
  obtain ⟨b, nodes, -, -, rfl⟩ := outcome_analyzed.1 h
  obtain ⟨leak, -, rfl⟩ := List.mem_map.1 (BodyReport.mem_select.1 mem).1
  exact ⟨leak.channel, rfl⟩

/-- Facts that make a body and say what is sensitive are analysed, and the findings are exactly the
channels that edges lead to from a seed: direct ones where data edges do, implicit ones where only
data and control edges together do. -/
theorem outcome_findings (f : BodyFacts) (config : Config) (unit : Nat)
    (built : (f.toBody unit).isOk = true) (declares : f.declaresSensitivity = true)
    (keep : config.reportImplicit = true) :
    ∃ report, f.outcome config unit = .analyzed report ∧
      (report.findings.map Finding.channel).Nodup ∧
      (∀ finding ∈ report.findings, ∃ c : Boundary, finding.channel = c.name) ∧
      ∀ c : Boundary,
        ((∃ witness, ⟨c.name, .direct, witness⟩ ∈ report.findings) ↔
          c ≠ .source ∧ ¬ f.Seed c.reference ∧ f.DirectlyReached c.reference) ∧
        ((∃ witness, ⟨c.name, .implicit, witness⟩ ∈ report.findings) ↔
          c ≠ .source ∧ ¬ f.Seed c.reference ∧ ¬ f.DirectlyReached c.reference ∧
            f.Reached c.reference) := by
  have made : ∃ b, f.toBody unit = .ok b := by
    cases h : f.toBody unit with
    | ok b => exact ⟨b, rfl⟩
    | error e =>
      rw [h] at built
      cases built
  obtain ⟨report, analyzed⟩ := (exists_analyzed config).2 ⟨made, declares⟩
  refine ⟨report, analyzed, findings_nodup analyzed, fun _ => findings_channel analyzed,
    fun c => ?_⟩
  refine ⟨?_, ?_⟩
  · rw [findings_iff analyzed, and_iff_left (.inl keep)]
    exact Iff.rfl
  · rw [findings_iff analyzed, and_iff_left (.inl keep)]
    exact Iff.rfl

/-- A body that compares the digest of a password: the outcome depends on it by a branch only. The
inner control node is declared before the one around it. -/
def login : BodyFacts where
  name := "login"
  controls := [⟨"match", some "attempt", 1⟩, ⟨"attempt", none, 0⟩]
  data := [("param0", "digest"), ("digest", "#match"), ("digest", "log"), ("digest", "<static>"),
    ("<static>", "this"), ("digest", "<throw>")]
  control := [("match", "<return>")]
  sources := none
  sinks := some ["log"]
  sensitiveParams := some [0]
  sensitiveLocals := some ["<static>"]

/-- Because the report on `login` says so, what it returns depends on the password by control edges
only, and nothing gets through the shared state. -/
theorem login_outcome_findings :
    login.Leaks .returned .implicit ∧ login.Leaks .sink .direct ∧
      ¬ login.Leaks .receiver .direct := by
  have computed : login.outcome {} 1 = .analyzed {
      unit := "login"
      findings := [
        ⟨"<static>", .direct, ["param0", "digest", "<static>"]⟩,
        ⟨"<throw>", .direct, ["param0", "digest", "<throw>"]⟩,
        ⟨"<@Sink>", .direct, ["param0", "digest", "log", "<@Sink>"]⟩,
        ⟨"<return>", .implicit, ["param0", "digest", "<control 0.1>", "<return>"]⟩]
      stats := ⟨2, 1, 2, 7, 1, 9⟩ } := by decide +kernel
  obtain ⟨report, analyzed, -, -, findings⟩ :=
    outcome_findings login {} 1 (by decide +kernel) rfl rfl
  rw [computed] at analyzed
  cases analyzed
  refine ⟨(findings .returned).2.1 ⟨_, .tail _ (.tail _ (.tail _ (.head _)))⟩,
    (findings .sink).1.1 ⟨_, .tail _ (.tail _ (.head _))⟩, fun leaks => ?_⟩
  obtain ⟨witness, mem⟩ := (findings .receiver).1.2 leaks
  simp [Boundary.name] at mem

end BodyFacts

end InfoFlow
