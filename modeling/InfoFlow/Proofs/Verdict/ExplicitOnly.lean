import InfoFlow.Proofs.Registry.Stability
import InfoFlow.Proofs.Taint.DataPart
import InfoFlow.Proofs.Verdict.Numbering
import InfoFlow.Proofs.Verdict.Rearrangement

/-!
# Leaving out implicit leaks

Implicit leaks can be left out of a report, or control edges out of the facts, and this comes to the
same (`BodyFacts.outcome_withoutControl`). The bodies that the facts make differ: a control edge may
be the first to name a variable, and then later variables have other slots. But the nodes have
`Facts.Twin`s, and the statements that both facts have keep the bodies `Facts.Pruned`: the data
edges of one match the edges of the other, in the same order. Such bodies have the same direct
leaks.
-/

namespace InfoFlow

namespace Facts

section Twin

variable {r r' : Registry} {issued issued' : Issued} {n n' : Node}

/-- Twins stay twins while both registries grow. -/
lemma Twin.mono {s s' : Registry} (h : Twin r r' issued issued' n n') (grows : r.Grows s)
    (grows' : r'.Grows s') : Twin s s' issued issued' n n' := by
  obtain ⟨x, hn, hn'⟩ := h
  exact ⟨x, hn.grows grows, hn'.grows grows'⟩

/-- Twins are the same boundary node, or control nodes with the same id, or variables with the same
name. -/
lemma Twin.cases (h : Twin r r' issued issued' n n') :
    (∃ p, n = .boundary p ∧ n' = .boundary p) ∨
      (∃ id c c', issued.get? id = some c ∧ issued'.get? id = some c' ∧
        n = .control c ∧ n' = .control c') ∨
      ∃ name v v', r.var? name = some v ∧ r'.var? name = some v' ∧ n = .var v ∧ n' = .var v' := by
  obtain ⟨x, hn, hn'⟩ := h
  cases hn with
  | boundary =>
    cases hn'
    exact .inl ⟨_, rfl, rfl⟩
  | param hp =>
    cases hn' with
    | param hp' =>
      rw [hp] at hp'
      cases hp'
      exact .inl ⟨_, rfl, rfl⟩
  | control hc =>
    cases hn' with
    | control hc' => exact .inr (.inl ⟨_, _, _, hc, hc', rfl, rfl⟩)
  | var hv =>
    cases hn' with
    | var hv' => exact .inr (.inr ⟨_, _, _, hv, hv', rfl, rfl⟩)

/-- Twins can stand for each other in a propagation. -/
lemma twin_matching (distinct : Issued.Distinct issued) (distinct' : Issued.Distinct issued') :
    Matching (Twin r r' issued issued') where
  unique := by
    refine ⟨fun _ _ _ => Twin.injective distinct', fun m n n' h h' => ?_⟩
    obtain ⟨x, hm, hn⟩ := h
    obtain ⟨y, hm', hn'⟩ := h'
    cases hm.injective distinct hm'
    exact hn.unique hn'
  boundary? := by
    intro n n' h
    obtain ⟨p, rfl, rfl⟩ | ⟨id, c, c', -, -, rfl, rfl⟩ | ⟨name, v, v', -, -, rfl, rfl⟩ := h.cases
    · rfl
    · rfl
    · rfl

/-- Twins have the same text, if the control nodes are the same. -/
lemma Twin.display (unit : r'.unit = r.unit) (controls : r'.controls = r.controls)
    (h : Twin r r' issued issued n n') : r.display n = r'.display n' := by
  obtain ⟨p, rfl, rfl⟩ | ⟨id, c, c', hc, hc', rfl, rfl⟩ | ⟨name, v, v', hv, hv', rfl, rfl⟩ :=
    h.cases
  · rfl
  · rw [hc] at hc'
    cases hc'
    exact (Registry.display_control unit controls c).symm
  · obtain ⟨own, slot⟩ := Registry.var?_slot hv
    obtain ⟨own', slot'⟩ := Registry.var?_slot hv'
    unfold Registry.display
    simp only [if_pos own, if_pos own', slot, slot']

end Twin

/-- Whether a statement speaks of a control edge. -/
def Statement.isControl : Statement → Bool
  | .control _ => true
  | _ => false

/-- Only control statements speak of control edges. -/
lemma Statement.Edge.data_of_isControl {st : Statement} {kind x y} (h : st.Edge kind x y)
    (other : st.isControl = false) : kind = .data := by
  cases h with
  | data => rfl
  | control => cases other
  | source => rfl
  | sink => rfl

/-- The second body is like the first one without its control edges. Its variables may have other
slots and its control nodes are the same. -/
structure Pruned (issued : Issued) (b b' : Body) : Prop where
  unit : b'.registry.unit = b.registry.unit
  controls : b'.registry.controls = b.registry.controls
  edges : List.Forall₂ (Edge.Matched (Twin b.registry b'.registry issued issued))
    b.graph.dataPart.edges b'.graph.edges
  declared : Option.Rel (List.Forall₂ (Twin b.registry b'.registry issued issued))
    b.declared b'.declared

namespace Pruned

variable {issued : Issued} {b b' : Body}

/-- A body without edges in which nothing is known to be sensitive. -/
lemma start {unit name} (same : SameButControls (Body.new unit name) b) : Pruned issued b b := by
  obtain ⟨infos, rfl⟩ := same
  exact ⟨rfl, rfl, .nil, .none⟩

/-- The bodies may name more nodes, each on its own. -/
lemma grows (h : Pruned issued b b') {r r' : Registry} (grows : b.registry.Grows r)
    (grows' : b'.registry.Grows r') :
    Pruned issued { b with registry := r } { b' with registry := r' } where
  unit := by
    show r'.unit = r.unit
    rw [grows.unit, grows'.unit, h.unit]
  controls := by
    show r'.controls = r.controls
    rw [grows.controls, grows'.controls, h.controls]
  edges := h.edges.imp fun e e' he =>
    ⟨he.source.mono grows grows', he.target.mono grows grows', he.kind⟩
  declared := by
    have twins := h.declared
    generalize b.declared = nodes at twins
    generalize b'.declared = nodes' at twins
    cases twins with
    | none => exact .none
    | some twins => exact .some (twins.imp fun n n' hn => hn.mono grows grows')

/-- The nodes that are known to be sensitive, none if nothing is known. -/
lemma nodes (h : Pruned issued b b') :
    List.Forall₂ (Twin b.registry b'.registry issued issued) (b.declared.getD [])
      (b'.declared.getD []) := by
  have twins := h.declared
  generalize b.declared = nodes at twins
  generalize b'.declared = nodes' at twins
  cases twins with
  | none => exact .nil
  | some twins => exact twins

/-- What is declared by a statement that speaks of an edge. -/
lemma declare (h : Pruned issued b b') (st : Statement) :
    Pruned issued { b with declared := st.declared b.declared }
      { b' with declared := st.declared b'.declared } where
  unit := h.unit
  controls := h.controls
  edges := h.edges
  declared := by
    show Option.Rel _ (st.declared b.declared) (st.declared b'.declared)
    unfold Statement.declared
    split
    case isTrue => exact .some h.nodes
    case isFalse => exact h.declared

/-- Matched data edges are added to both bodies. -/
lemma connect (h : Pruned issued b b') (distinct : Issued.Distinct issued) {e e' : Edge}
    (matched : Edge.Matched (Twin b.registry b'.registry issued issued) e e')
    (data : e.kind = .data) :
    Pruned issued { b with graph := b.graph.insert e } { b' with graph := b'.graph.insert e' } where
  unit := h.unit
  controls := h.controls
  edges := by
    show List.Forall₂ _ (b.graph.insert e).dataPart.edges (b'.graph.insert e').edges
    rw [Graph.dataPart_insert_data data, Graph.edges_insert, Graph.edges_insert]
    exact rel_addNew (twin_matching distinct distinct).edge_unique h.edges matched
  declared := h.declared

/-- A statement that both facts have is carried out in both bodies. -/
lemma step (h : Pruned issued b b') (distinct : Issued.Distinct issued) {st c c'}
    (other : st.isControl = false) (first : Performs issued b st c)
    (second : Performs issued b' st c') : Pruned issued c c' := by
  have grown := h.grows first.grows second.grows
  cases first with
  | @edge _ kind x y m n hedge _ _ hm hn =>
    cases second with
    | @edge _ kind' x' y' m' n' hedge' _ _ hm' hn' =>
      obtain ⟨rfl, rfl, rfl⟩ := hedge.unique hedge'
      have source := hm.grows (Registry.grows_note _ y)
      have source' := hm'.grows (Registry.grows_note _ y)
      have matched : Edge.Matched (Twin ((b.registry.note x).note y) ((b'.registry.note x).note y)
          issued issued) ⟨m, n, kind⟩ ⟨m', n', kind⟩ :=
        ⟨⟨x, source, source'⟩, ⟨y, hn, hn'⟩, rfl⟩
      exact (grown.connect distinct matched (hedge.data_of_isControl other)).declare st
    | mark hmark => exact absurd hmark hedge.not_marks
    | known => cases hedge
  | mark hmark _ hn =>
    cases second with
    | edge hedge => exact absurd hmark hedge.not_marks
    | mark hmark' _ hn' =>
      cases hmark.unique hmark'
      refine ⟨grown.unit, grown.controls, grown.edges, .some ?_⟩
      exact rel_addNew (twin_matching distinct distinct).unique grown.nodes ⟨_, hn, hn'⟩
    | known => cases hmark
  | known =>
    cases second with
    | edge hedge => cases hedge
    | mark hmark => cases hmark
    | known => exact h.declare .known

/-- A statement about a control edge is carried out in the first body only. -/
lemma skip (h : Pruned issued b b') {st c} (control : st.isControl = true)
    (first : Performs issued b st c) : Pruned issued c b' := by
  have grown := h.grows first.grows (.refl _)
  cases st with
  | control edge =>
    cases first with
    | edge hedge =>
      cases hedge with
      | control =>
        refine ⟨grown.unit, grown.controls, ?_, grown.declared⟩
        show List.Forall₂ _ (b.graph.insert _).dataPart.edges _
        rw [Graph.dataPart_insert_control rfl]
        exact grown.edges
    | mark hmark => cases hmark
  | _ => cases control

/-- All statements are carried out in the first body, those about control edges are left out in the
second one. -/
lemma run (h : Pruned issued b b') (distinct : Issued.Distinct issued) {sts c c'}
    (chain : Chain (Performs issued) b sts c)
    (chain' : Chain (Performs issued) b' (sts.filter fun st => !st.isControl) c') :
    Pruned issued c c' := by
  induction chain generalizing b' with
  | nil =>
    cases chain'
    exact h
  | @cons b st b1 rest c first _ ih =>
    cases control : st.isControl with
    | true =>
      rw [List.filter_cons_of_neg (by simp [control])] at chain'
      exact ih (h.skip control first) chain'
    | false =>
      rw [List.filter_cons_of_pos (by simp [control])] at chain'
      cases chain' with
      | cons second rest' => exact ih (h.step distinct control first second) rest'

/-- The direct leaks of the first body are all leaks of the second one, and they are told alike. -/
lemma findings (h : Pruned issued b b') (distinct : Issued.Distinct issued) {nodes nodes'}
    (seeds : List.Forall₂ (Twin b.registry b'.registry issued issued) nodes nodes') :
    (b.report (Taint.ofSeeds b.graph nodes)).findings.filter (fun f => f.kind = .direct) =
      (b'.report (Taint.ofSeeds b'.graph nodes')).findings := by
  have matching : Matching (Twin b.registry b'.registry issued issued) :=
    twin_matching distinct distinct
  have leaks := matching.leaks (matching.ofSeeds h.edges seeds)
  rw [Taint.leaks_dataPart] at leaks
  unfold Body.report
  rw [List.filter_map, ← Finding.map_ofLeak (fun _ _ => Twin.display h.unit h.controls) leaks]
  rfl

end Pruned

end Facts

open Facts

namespace BodyFacts

/-- The facts without their control edges. The control nodes stay. -/
def withoutControl (f : BodyFacts) : BodyFacts :=
  { f with control := [] }

variable {f : BodyFacts}

/-- Without control edges the other statements are left, in the same order. -/
lemma statements_withoutControl :
    f.withoutControl.statements = f.statements.filter fun st => !st.isControl := by
  have declares : f.withoutControl.declaresSensitivity = f.declaresSensitivity := rfl
  unfold statements
  rw [declares]
  cases f.declaresSensitivity with
  | true => simp [withoutControl, List.filter_map, Function.comp_def, Statement.isControl]
  | false => simp [withoutControl, List.filter_map, Function.comp_def, Statement.isControl]

/-- Facts stay consistent without their control edges. -/
lemma Consistent.withoutControl (h : f.Consistent) : f.withoutControl.Consistent where
  nested := h.nested
  fits := h.fits
  feasible := by
    rw [statements_withoutControl]
    exact h.feasible.subset (List.filter_subset_self _)

/-- The bodies that the facts make with their control edges and without. -/
lemma toBody_pruned {unit b b'} (made : f.toBody unit = .ok b)
    (made' : f.withoutControl.toBody unit = .ok b') :
    ∃ issued, Issued.Distinct issued ∧ Pruned issued b b' := by
  obtain ⟨issued, b1, first, chain⟩ := (replay_ok rfl).1 (toBody_ok.1 made)
  obtain ⟨issued', b1', first', chain'⟩ := (replay_ok rfl).1 (toBody_ok.1 made')
  -- the control nodes are issued first, and they are the same
  cases first.symm.trans first'
  obtain ⟨-, issues, -⟩ := issueControls_ok rfl first
  rw [statements_withoutControl] at chain'
  have distinct := issues.issuing.distinct
  exact ⟨issued, distinct, (Pruned.start issues.same).run distinct chain chain'⟩

/-- Without implicit leaks the findings are those of the facts without control edges. -/
lemma findings_withoutControl {config config' : Config} {unit report report'}
    (drop : config.reportImplicit = false) (keep : config'.reportImplicit = true)
    (h : f.outcome config unit = .analyzed report)
    (h' : f.withoutControl.outcome config' unit = .analyzed report') :
    report.findings = report'.findings := by
  obtain ⟨b, nodes, made, known, rfl⟩ := outcome_analyzed.1 h
  obtain ⟨b', nodes', made', known', rfl⟩ := outcome_analyzed.1 h'
  obtain ⟨issued, distinct, pruned⟩ := toBody_pruned made made'
  have declared := pruned.nodes
  rw [known, known'] at declared
  have source : Twin b.registry b'.registry issued issued (.boundary .source) (.boundary .source) :=
    ⟨.boundary .source, .boundary nofun, .boundary nofun⟩
  unfold BodyReport.select
  rw [drop, keep]
  exact pruned.findings distinct (.cons source declared)

end BodyFacts

lemma BodyFacts.toBody_made {f : BodyFacts} {unit} :
    (f.toBody unit).isOk = true ↔ ∃ b, f.toBody unit = .ok b := by
  cases f.toBody unit with
  | ok b => exact ⟨fun _ => ⟨b, rfl⟩, fun _ => rfl⟩
  | error e => exact ⟨nofun, nofun⟩

/-- Only outcomes of an analysis have findings. -/
lemma Outcome.findings_eq_nil {o : Outcome} (h : o.isAnalyzed = false) : o.findings = [] := by
  cases o with
  | analyzed report => cases h
  | skipped unit reason => rfl
  | failed unit reason => rfl

namespace BodyFacts

/-- Leaving out the implicit leaks of facts that make a body comes to the same as analysing the
facts without their control edges, whatever numbers the bodies get: these facts make a body too,
both or none of them are analysed, and the findings are the same, in the same order, with the same
kinds and witnesses. -/
theorem outcome_withoutControl (f : BodyFacts) (config config' : Config) (unit unit' : Nat)
    (built : (f.toBody unit).isOk = true) (drop : config.reportImplicit = false)
    (keep : config'.reportImplicit = true) :
    (f.withoutControl.toBody unit').isOk = true ∧
      (f.outcome config unit).isAnalyzed = (f.withoutControl.outcome config' unit').isAnalyzed ∧
      (f.outcome config unit).findings = (f.withoutControl.outcome config' unit').findings := by
  have made := toBody_made.1 built
  have made' : ∀ number, ∃ b, f.withoutControl.toBody number = .ok b := by
    intro number
    exact toBody_isOk.2 (toBody_isOk.1 made).withoutControl
  -- the number of the body does not matter
  have swapped := f.withoutControl.outcome_renumber (Equiv.swap unit' unit).injective config' unit'
  rw [Equiv.swap_apply_left] at swapped
  have analyzed : (f.outcome config unit).isAnalyzed =
      (f.withoutControl.outcome config' unit).isAnalyzed := by
    rw [Bool.eq_iff_iff, Outcome.isAnalyzed_iff, Outcome.isAnalyzed_iff, exists_analyzed,
      exists_analyzed, and_iff_right made, and_iff_right (made' unit)]
    rfl
  rw [← swapped]
  refine ⟨toBody_made.2 (made' unit'), analyzed, ?_⟩
  cases h : (f.outcome config unit).isAnalyzed with
  | false => rw [Outcome.findings_eq_nil h, Outcome.findings_eq_nil (analyzed.symm.trans h)]
  | true =>
    obtain ⟨report, hreport⟩ := Outcome.isAnalyzed_iff.1 h
    obtain ⟨report', hreport'⟩ := Outcome.isAnalyzed_iff.1 (analyzed.symm.trans h)
    rw [hreport, hreport']
    exact findings_withoutControl drop keep hreport hreport'

/-- A body whose control edges are the first to name `flag`, before `entry` is declared sensitive.
-/
def audit : BodyFacts where
  name := "audit"
  controls := [⟨"denied", none, 0⟩]
  data := [("token", "#denied"), ("token", "<throw>"), ("flag", "<return>")]
  control := [("denied", "count"), ("denied", "flag"), ("denied", "<static>")]
  sources := none
  sinks := some ["entry"]
  sensitiveParams := none
  sensitiveLocals := some ["token", "entry"]

/-- Only the direct leaks of `audit` are left without its control edges. -/
theorem audit_outcome_withoutControl :
    (audit.outcome {} 1).findings.length = 4 ∧
      (audit.withoutControl.outcome {} 2).findings =
        [⟨"<throw>", .direct, ["token", "<throw>"]⟩,
          ⟨"<@Sink>", .direct, ["entry", "<@Sink>"]⟩] := by
  obtain ⟨-, -, same⟩ := outcome_withoutControl audit { reportImplicit := false } {} 1 2
    (by decide +kernel) rfl rfl
  refine ⟨by decide +kernel, ?_⟩
  rw [← same]
  decide +kernel

end BodyFacts

end InfoFlow
