import InfoFlow.Proofs.Verdict.Findings

/-!
# The order of facts

Facts are `BodyFacts.Rearranged` if they list the same things in another order or with other
repetitions. The bodies that they make differ in the slots of their nodes and in the order of their
edges, but a node of one and a node of the other are `Facts.Twin`s if they have a reference in
common, and this matches the nodes, the edges and the tags of the two.

`BodyFacts.outcome_rearranged` concludes that the verdict is the same. Counts are compared in one
direction only (`Rendered.edgeCount_le`, `Rendered.tainted_le`), because rearrangement is symmetric.
-/

namespace InfoFlow

/-- The lists have the same elements. -/
def SameItems {α : Type} (l l' : List α) : Prop :=
  l ⊆ l' ∧ l' ⊆ l

lemma SameItems.symm {α : Type} {l l' : List α} (h : SameItems l l') : SameItems l' l :=
  ⟨h.2, h.1⟩

/-- Optional lists that are there at the same time and have the same elements. -/
lemma exists_of_rel {α : Type} {l l' : Option (List α)} (h : Option.Rel SameItems l l') {a}
    (mem : ∃ items, l = some items ∧ a ∈ items) : ∃ items, l' = some items ∧ a ∈ items := by
  obtain ⟨items, rfl, mem⟩ := mem
  cases h with
  | some same => exact ⟨_, rfl, same.1 mem⟩

/-- Lists with the same items are there on both sides or on none. -/
lemma isSome_of_rel {α : Type} {l l' : Option (List α)} (h : Option.Rel SameItems l l') :
    l.isSome = l'.isSome := by
  cases h with
  | some => rfl
  | none => rfl

/-- It does not matter which of the two lists is the first. -/
lemma rel_symm {α : Type} {l l' : Option (List α)} (h : Option.Rel SameItems l l') :
    Option.Rel SameItems l' l := by
  cases h with
  | some same => exact .some same.symm
  | none => exact .none

namespace BodyFacts

/-- The facts say the same, in any order and with any repetition. -/
structure Rearranged (f g : BodyFacts) : Prop where
  name : f.name = g.name
  controls : f.controls.Perm g.controls
  data : SameItems f.data g.data
  control : SameItems f.control g.control
  sources : Option.Rel SameItems f.sources g.sources
  sinks : Option.Rel SameItems f.sinks g.sinks
  sensitiveParams : Option.Rel SameItems f.sensitiveParams g.sensitiveParams
  sensitiveLocals : Option.Rel SameItems f.sensitiveLocals g.sensitiveLocals

namespace Rearranged

variable {f g : BodyFacts}

/-- It does not matter which of the two facts are the first. -/
lemma symm (h : Rearranged f g) : Rearranged g f where
  name := h.name.symm
  controls := h.controls.symm
  data := h.data.symm
  control := h.control.symm
  sources := rel_symm h.sources
  sinks := rel_symm h.sinks
  sensitiveParams := rel_symm h.sensitiveParams
  sensitiveLocals := rel_symm h.sensitiveLocals

/-- Both say what is sensitive, or neither does. -/
lemma declares (h : Rearranged f g) : f.declaresSensitivity = g.declaresSensitivity := by
  unfold declaresSensitivity
  rw [isSome_of_rel h.sources, isSome_of_rel h.sinks, isSome_of_rel h.sensitiveParams,
    isSome_of_rel h.sensitiveLocals]

/-- Rearranged facts have the same statements. -/
lemma statements (h : Rearranged f g) : f.statements ⊆ g.statements := by
  intro st mem
  have mem' := mem_statements.1 mem
  apply mem_statements.2
  cases st with
  | data edge => exact h.data.1 mem'
  | control edge => exact h.control.1 mem'
  | source name => exact exists_of_rel h.sources mem'
  | sink name => exact exists_of_rel h.sinks mem'
  | param index => exact exists_of_rel h.sensitiveParams mem'
  | place raw => exact exists_of_rel h.sensitiveLocals mem'
  | known => exact h.declares ▸ mem'

/-- What holds of some statement of facts holds of some statement of the rearranged facts. -/
lemma exists_statement (h : Rearranged f g) {P : Facts.Statement → Prop}
    (stated : ∃ st ∈ f.statements, P st) : ∃ st ∈ g.statements, P st := by
  obtain ⟨st, mem, hst⟩ := stated
  exact ⟨st, h.statements mem, hst⟩

/-- Rearranged facts are consistent at the same time. -/
lemma consistent (h : Rearranged f g) (consistent : f.Consistent) : g.Consistent where
  nested := consistent.nested.perm h.controls
  fits := by
    rw [← h.controls.length_eq]
    exact consistent.fits
  feasible := by
    have ids : (· ∈ f.controls.map ControlDecl.id) = (· ∈ g.controls.map ControlDecl.id) :=
      funext fun id => propext (h.controls.map ControlDecl.id).mem_iff
    rw [← ids]
    exact consistent.feasible.subset h.symm.statements

/-- Rearranged facts speak of the same edges. -/
lemma flows (h : Rearranged f g) {kind x y} (flows : f.Flows kind x y) : g.Flows kind x y := by
  cases flows with
  | data mem hx hy => exact .data (h.data.1 mem) hx hy
  | control mem hy => exact .control (h.control.1 mem) hy
  | source hs mem =>
    obtain ⟨names, hs', mem'⟩ := exists_of_rel h.sources ⟨_, hs, mem⟩
    exact .source hs' mem'
  | sink hs mem =>
    obtain ⟨names, hs', mem'⟩ := exists_of_rel h.sinks ⟨_, hs, mem⟩
    exact .sink hs' mem'

/-- Rearranged facts speak of the same sensitive places. -/
lemma sensitive (h : Rearranged f g) {x} (sensitive : f.Sensitive x) : g.Sensitive x := by
  cases sensitive with
  | source => exact .source
  | param hs mem =>
    obtain ⟨indices, hs', mem'⟩ := exists_of_rel h.sensitiveParams ⟨_, hs, mem⟩
    exact .param hs' mem'
  | place hs mem hx =>
    obtain ⟨raws, hs', mem'⟩ := exists_of_rel h.sensitiveLocals ⟨_, hs, mem⟩
    exact .place hs' mem' hx

/-- Rearranged facts have the same seeds. -/
lemma seed (h : Rearranged f g) : f.Seed = g.Seed := by
  funext x
  exact propext (and_congr_left fun _ => ⟨h.sensitive, h.symm.sensitive⟩)

/-- In rearranged facts the same is reached by data edges. -/
lemma directlyReached (h : Rearranged f g) : f.DirectlyReached = g.DirectlyReached := by
  have edges : f.Flows .data = g.Flows .data :=
    funext fun x => funext fun y => propext ⟨h.flows, h.symm.flows⟩
  funext x
  unfold DirectlyReached
  rw [edges, h.seed]

/-- In rearranged facts the same is reached. -/
lemma reached (h : Rearranged f g) : f.Reached = g.Reached := by
  have edges : f.Flows = g.Flows :=
    funext fun kind => funext fun x => funext fun y => propext ⟨h.flows, h.symm.flows⟩
  funext x
  unfold Reached
  rw [edges, h.seed]

/-- Rearranged facts have the same leaks. -/
lemma leaks (h : Rearranged f g) : f.Leaks = g.Leaks := by
  funext c kind
  unfold Leaks
  rw [h.seed, h.directlyReached, h.reached]

end Rearranged

end BodyFacts

namespace Facts

/-- The nodes have a reference in common, which denotes one of them in each body. -/
def Twin (r r' : Registry) (issued issued' : Issued) (n n' : Node) : Prop :=
  ∃ x, Denotes r issued x n ∧ Denotes r' issued' x n'

/-- A node is the twin of at most one node. -/
lemma Twin.injective {r r' issued issued' m m' n} (distinct : Issued.Distinct issued')
    (h : Twin r r' issued issued' m n) (h' : Twin r r' issued issued' m' n) : m = m' := by
  obtain ⟨x, hm, hn⟩ := h
  obtain ⟨y, hm', hn'⟩ := h'
  have e := hn.injective distinct hn'
  subst e
  exact hm.unique hm'

end Facts

open Facts

section Counts

variable {f g : BodyFacts} {issued issued' : Issued} {b b' : Body} {nodes nodes' : List Node}

/-- Every node that is reached has a twin that is reached. -/
lemma Rendered.reached_twin (h : f.Rearranged g) (hf : Rendered f issued b nodes)
    (hg : Rendered g issued' b' nodes') {n}
    (hn : b.graph.Reached (.boundary .source :: nodes) n) :
    ∃ n', b'.graph.Reached (.boundary .source :: nodes') n' ∧
      Twin b.registry b'.registry issued issued' n n' := by
  obtain ⟨x, hx, reached⟩ := hf.anyEdge.reference hf hn
  have reached' : g.Reached x := h.reached ▸ reached
  obtain ⟨n', hn', reached'⟩ := hg.anyEdge.node hg reached'
  exact ⟨n', reached', x, hx, hn'⟩

/-- Rearranging facts does not lower the number of nodes with taint. -/
lemma Rendered.tainted_le (h : f.Rearranged g) (hf : Rendered f issued b nodes)
    (hg : Rendered g issued' b' nodes') :
    (Taint.ofSeeds b.graph (.boundary .source :: nodes)).tainted.length ≤
      (Taint.ofSeeds b'.graph (.boundary .source :: nodes')).tainted.length := by
  have total : ∀ n ∈ (Taint.ofSeeds b.graph (.boundary .source :: nodes)).tags.map Tag.node,
      ∃ n' ∈ (Taint.ofSeeds b'.graph (.boundary .source :: nodes')).tags.map Tag.node,
        Twin b.registry b'.registry issued issued' n n' := by
    intro n mem
    rw [List.mem_map, Taint.exists_tag_iff] at mem
    obtain ⟨n', reached, twin⟩ := hf.reached_twin h hg mem
    refine ⟨n', ?_, twin⟩
    rw [List.mem_map, Taint.exists_tag_iff]
    exact reached
  have le := length_le_of_rel (Taint.ofSeeds_grown _ _).nodup total (Twin.injective hg.distinct)
  rw [List.length_map, List.length_map] at le
  rw [Taint.length_tainted, Taint.length_tainted]
  exact le

/-- Rearranging facts does not lower the number of edges of a kind. -/
lemma Rendered.edgeCount_le (h : f.Rearranged g) (hf : Rendered f issued b nodes)
    (hg : Rendered g issued' b' nodes') (kind : EdgeKind) :
    b.graph.edgeCount kind ≤ b'.graph.edgeCount kind := by
  rw [Graph.edgeCount_eq, Graph.edgeCount_eq, List.countP_eq_length_filter,
    List.countP_eq_length_filter]
  refine length_le_of_rel (R := fun e e' =>
    Twin b.registry b'.registry issued issued' e.source e'.source ∧
      Twin b.registry b'.registry issued issued' e.target e'.target ∧ e.kind = e'.kind)
    (b.graph.coherent.distinct.filter _) ?_ ?_
  · intro e mem
    obtain ⟨m, n, kind'⟩ := e
    rw [List.mem_filter, decide_eq_true_eq] at mem
    obtain ⟨mem, rfl⟩ := mem
    -- from the edge to what the facts say, and from there to the edge of the other body
    obtain ⟨x, y, flows, hx, hy⟩ := hf.edges.1 mem
    obtain ⟨m', n', hx', hy'⟩ := hg.denotes (h.flows flows)
    refine ⟨⟨m', n', kind'⟩, ?_, ⟨x, hx, hx'⟩, ⟨y, hy, hy'⟩, rfl⟩
    rw [List.mem_filter, decide_eq_true_eq]
    exact ⟨hg.edges.2 ⟨x, y, h.flows flows, hx', hy'⟩, rfl⟩
  · intro e e' e'' he he'
    obtain ⟨m, n, kind⟩ := e
    obtain ⟨m', n', kind'⟩ := e'
    obtain ⟨hm, hn, hkind⟩ := he
    obtain ⟨hm', hn', hkind'⟩ := he'
    have em := Twin.injective hg.distinct hm hm'
    have en := Twin.injective hg.distinct hn hn'
    have ek := hkind.trans hkind'.symm
    simp only at em en ek
    rw [em, en, ek]

/-- Rearranged facts have no more variables. -/
lemma Rendered.vars_le (h : f.Rearranged g) (hf : Rendered f issued b nodes)
    (hg : Rendered g issued' b' nodes') : b.registry.vars.length ≤ b'.registry.vars.length := by
  refine (List.subperm_of_subset b.registry.nodup_vars ?_).length_le
  intro name mem
  exact hg.depicts.vars.2 (h.exists_statement (hf.depicts.vars.1 mem))

/-- Rearranged facts have no more parameters. -/
lemma Rendered.params_le (h : f.Rearranged g) (hf : Rendered f issued b nodes)
    (hg : Rendered g issued' b' nodes') :
    b.registry.params.length ≤ b'.registry.params.length := by
  refine (List.subperm_of_subset hf.depicts.tidy.params ?_).length_le
  intro p mem
  exact hg.depicts.params.2 (h.exists_statement (hf.depicts.params.1 mem))

/-- Rearranging facts does not change the numbers in the report. -/
lemma Rendered.stats_eq (h : f.Rearranged g) (hf : Rendered f issued b nodes)
    (hg : Rendered g issued' b' nodes') :
    (b.report (Taint.ofSeeds b.graph (.boundary .source :: nodes))).stats =
      (b'.report (Taint.ofSeeds b'.graph (.boundary .source :: nodes'))).stats := by
  unfold Body.report
  -- no number gets lower either way, since rearranging is symmetric
  have vars := Nat.le_antisymm (hf.vars_le h hg) (hg.vars_le h.symm hf)
  have params := Nat.le_antisymm (hf.params_le h hg) (hg.params_le h.symm hf)
  have controls : b.registry.controls.length = b'.registry.controls.length := by
    rw [hf.controls, hg.controls, h.controls.length_eq]
  have edges := fun kind =>
    Nat.le_antisymm (hf.edgeCount_le h hg kind) (hg.edgeCount_le h.symm hf kind)
  have tainted := Nat.le_antisymm (hf.tainted_le h hg) (hg.tainted_le h.symm hf)
  rw [vars, params, controls, edges, edges, tainted]

end Counts

lemma Outcome.isAnalyzed_iff {o : Outcome} :
    o.isAnalyzed = true ↔ ∃ report, o = .analyzed report := by
  cases o with
  | analyzed report => exact ⟨fun _ => ⟨report, rfl⟩, fun _ => rfl⟩
  | skipped unit reason => exact ⟨nofun, nofun⟩
  | failed unit reason => exact ⟨nofun, nofun⟩

/-- The figures do not depend on the leaks that are kept. -/
lemma BodyReport.select_stats (r : BodyReport) (config : Config) :
    (r.select config).stats = r.stats := by
  unfold select
  split
  case isTrue => rfl
  case isFalse => rfl

namespace BodyFacts

variable {f g : BodyFacts} {config : Config} {unit unit' : Nat} {report report' : BodyReport}

/-- Rearranging facts drops no finding. -/
lemma Rearranged.findings (h : f.Rearranged g) (hf : f.outcome config unit = .analyzed report)
    (hg : g.outcome config unit' = .analyzed report') {channel kind}
    (found : ∃ witness, ⟨channel, kind, witness⟩ ∈ report.findings) :
    ∃ witness, ⟨channel, kind, witness⟩ ∈ report'.findings := by
  obtain ⟨witness, mem⟩ := found
  obtain ⟨c, hc⟩ := findings_channel hf mem
  simp only at hc
  subst hc
  have leaks := (findings_iff hf).1 ⟨witness, mem⟩
  rw [h.leaks] at leaks
  exact (findings_iff hg).2 leaks

/-- Rearranging facts does not lower the number of findings. -/
lemma Rearranged.findings_le (h : f.Rearranged g) (hf : f.outcome config unit = .analyzed report)
    (hg : g.outcome config unit' = .analyzed report') :
    report.findings.length ≤ report'.findings.length := by
  have sub : report.findings.map Finding.channel ⊆ report'.findings.map Finding.channel := by
    intro channel mem
    obtain ⟨⟨_, kind, witness⟩, found, rfl⟩ := List.mem_map.1 mem
    obtain ⟨witness', found'⟩ := h.findings hf hg ⟨witness, found⟩
    exact List.mem_map.2 ⟨_, found', rfl⟩
  have le := (List.subperm_of_subset (findings_nodup hf) sub).length_le
  rw [List.length_map, List.length_map] at le
  exact le

/-- Rearranged facts are analysed at the same time. -/
lemma Rearranged.isAnalyzed (h : f.Rearranged g) (hf : (f.outcome config unit).isAnalyzed = true) :
    (g.outcome config unit').isAnalyzed = true := by
  rw [Outcome.isAnalyzed_iff, exists_analyzed, toBody_isOk] at hf ⊢
  exact ⟨h.consistent hf.1, h.declares ▸ hf.2⟩

/-- The verdict on facts does not depend on how they are listed, nor on the number of the body: they
are analysed at the same time, and then the findings name the same channels with the same kinds, and
all numbers agree. -/
theorem outcome_rearranged (f g : BodyFacts) (h : f.Rearranged g) (config : Config)
    (unit unit' : Nat) :
    (f.outcome config unit).isAnalyzed = (g.outcome config unit').isAnalyzed ∧
      ∀ report report', f.outcome config unit = .analyzed report →
        g.outcome config unit' = .analyzed report' →
        (∀ channel kind, (∃ witness, ⟨channel, kind, witness⟩ ∈ report.findings) ↔
          ∃ witness, ⟨channel, kind, witness⟩ ∈ report'.findings) ∧
        report.findings.length = report'.findings.length ∧ report.stats = report'.stats := by
  refine ⟨Bool.eq_iff_iff.2 ⟨h.isAnalyzed, h.symm.isAnalyzed⟩, ?_⟩
  intro report report' hf hg
  refine ⟨fun channel kind => ⟨h.findings hf hg, h.symm.findings hg hf⟩, ?_, ?_⟩
  · exact Nat.le_antisymm (h.findings_le hf hg) (h.symm.findings_le hg hf)
  · obtain ⟨b, nodes, built, known, rfl⟩ := outcome_analyzed.1 hf
    obtain ⟨b', nodes', built', known', rfl⟩ := outcome_analyzed.1 hg
    obtain ⟨issued, hf⟩ := rendered built known
    obtain ⟨issued', hg⟩ := rendered built' known'
    rw [BodyReport.select_stats, BodyReport.select_stats]
    exact hf.stats_eq h hg

/-- The facts of `login` in another order, some of them twice. -/
def shuffledLogin : BodyFacts where
  name := "login"
  controls := login.controls.reverse
  data := login.data.reverse ++ login.data
  control := login.control ++ login.control
  sources := none
  sinks := some ["log", "log"]
  sensitiveParams := some [0, 0]
  sensitiveLocals := some ["<static>"]

/-- The two listings of `login` lead to findings in another order, but to the same verdict. -/
theorem login_outcome_rearranged :
    (shuffledLogin.outcome {} 2).isAnalyzed = true ∧
      (login.outcome {} 1).findings ≠ (shuffledLogin.outcome {} 2).findings ∧
      (login.outcome {} 1).findings.length = (shuffledLogin.outcome {} 2).findings.length := by
  have rearranged : login.Rearranged shuffledLogin := {
    name := rfl
    controls := (List.reverse_perm _).symm
    data := ⟨List.subset_append_right _ _, by decide⟩
    control := ⟨List.subset_append_left _ _, by decide⟩
    sources := .none
    sinks := .some ⟨by decide, by decide⟩
    sensitiveParams := .some ⟨by decide, by decide⟩
    sensitiveLocals := .some ⟨by decide, by decide⟩ }
  obtain ⟨same, verdict⟩ := outcome_rearranged login shuffledLogin rearranged {} 1 2
  have analyzed : (login.outcome {} 1).isAnalyzed = true := by decide +kernel
  have analyzed' := same ▸ analyzed
  obtain ⟨report, hf⟩ := Outcome.isAnalyzed_iff.1 analyzed
  obtain ⟨report', hg⟩ := Outcome.isAnalyzed_iff.1 analyzed'
  refine ⟨analyzed', by decide +kernel, ?_⟩
  rw [hf, hg]
  exact (verdict report report' hf hg).2.1

end BodyFacts

end InfoFlow
