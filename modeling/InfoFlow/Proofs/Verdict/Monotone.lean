import InfoFlow.Proofs.Body.History
import InfoFlow.Proofs.Verdict.Findings

/-!
# More operations

Operations only add edges and declarations to a body. `Enlarges` says so, with the log of the
operations: `Enlarges.step` is one more operation and `Enlarges.run` a history. With more edges and
more seeds taint only gets stronger (`Taint.kindOf?_mono`), and a channel that leaks goes on leaking
unless it is a seed now (`Taint.leaks_mono`). So further operations hide a leak in one way only, by
declaring its channel sensitive.
-/

namespace InfoFlow

namespace Taint

variable {g g' : Graph} {seeds seeds' : List Node}

/-- More edges and more seeds do not weaken the taint of a node. -/
lemma kindOf?_mono (edges : g.edges ⊆ g'.edges) (sub : seeds ⊆ seeds') {n kind}
    (h : (ofSeeds g seeds).kindOf? n = some kind) :
    ∃ kind', (ofSeeds g' seeds').kindOf? n = some kind' ∧ kind ≤ kind' := by
  obtain ⟨tag, mem, rfl, rfl⟩ := kindOf?_eq_some.1 h
  by_cases direct : tag.kind = .direct
  · have reached : g.DirectlyReached seeds tag.node :=
      (exists_direct_iff ..).1 ⟨tag, mem, rfl, direct⟩
    have reached' : g'.DirectlyReached seeds' tag.node :=
      reached.mono (fun _ _ step => edges step) (fun _ seed => sub seed)
    have found := kindOf?_eq_some.2 ((exists_direct_iff ..).2 reached')
    exact ⟨.direct, found, FlowKind.le_direct _⟩
  · have reached : g.Reached seeds tag.node := (exists_tag_iff ..).1 ⟨tag, mem, rfl⟩
    have reached' : g'.Reached seeds' tag.node :=
      reached.mono (fun _ _ step => ⟨step.choose, edges step.choose_spec⟩) (fun _ seed => sub seed)
    obtain ⟨tag', mem', hnode⟩ := (exists_tag_iff ..).2 reached'
    refine ⟨tag'.kind, kindOf?_eq_some.2 ⟨tag', mem', hnode, rfl⟩, ?_⟩
    rw [FlowKind.eq_implicit direct]
    exact FlowKind.implicit_le _

/-- A channel that leaks goes on leaking with more edges and more seeds, unless it is a seed now. -/
lemma leaks_mono (edges : g.edges ⊆ g'.edges) (sub : seeds ⊆ seeds') {leak}
    (mem : leak ∈ (ofSeeds g seeds).leaks)
    (still : ¬ (.boundary leak.channel ∈ seeds' ∧ leak.channel ≠ .statics)) :
    ∃ leak' ∈ (ofSeeds g' seeds').leaks,
      leak'.channel = leak.channel ∧ leak.kind ≤ leak'.kind := by
  obtain ⟨channel, -, tagged⟩ := mem_leaks.1 ⟨leak, mem, rfl, rfl⟩
  have tainted := kindOf?_eq_some.2 tagged
  obtain ⟨kind', tainted', le⟩ := kindOf?_mono edges sub tainted
  have tagged' := kindOf?_eq_some.1 tainted'
  obtain ⟨leak', mem', hchannel, rfl⟩ := mem_leaks.2 ⟨channel, still, tagged'⟩
  exact ⟨leak', mem', hchannel, le⟩

end Taint

namespace Operation.Effect

variable {b b' : Body} {op : Operation} {a : Answer}

/-- Operations do not remove edges. -/
lemma edges (h : Effect b op a b') : b.graph.edges ⊆ b'.graph.edges := by
  rw [h.graph]
  cases op.edge? a with
  | none => exact List.Subset.refl _
  | some e => exact fun _ mem => Graph.mem_insert.2 (.inl mem)

/-- What was declared stays declared. -/
lemma known (h : Effect b op a b') (known : b.declared.isSome = true) :
    b'.declared.isSome = true := by
  rw [h.declared]
  split
  case isTrue => rfl
  case isFalse => exact known

/-- The declared nodes are those from before and the node that the operation marks. -/
lemma mem_declared (h : Effect b op a b') {n} :
    n ∈ b'.declared.getD [] ↔ n ∈ b.declared.getD [] ∨ op.marked? = some n := by
  cases h with
  | @markSensitive m known =>
    have same : Operation.marked? (.markSensitive m) = some n ↔ n = m := by
      show some m = some n ↔ _
      rw [Option.some.injEq, eq_comm]
    rw [same, Option.getD_some]
    split
    case isTrue mem =>
      refine ⟨.inl, fun h => h.elim id fun e => ?_⟩
      rw [e]
      exact mem
    case isFalse => rw [List.mem_append, List.mem_singleton]
  | _ => exact ⟨.inl, fun h => h.resolve_right nofun⟩

end Operation.Effect

/-- `b'` has what `b` has, and of declared nodes only those that the log marks besides. -/
structure Enlarges (b : Body) (log : List (Operation × Answer)) (b' : Body) : Prop where
  edges : b.graph.edges ⊆ b'.graph.edges
  known : b.declared.isSome = true → b'.declared.isSome = true
  declared : ∀ {n}, n ∈ b'.declared.getD [] ↔ n ∈ b.declared.getD [] ∨ n ∈ marked log

namespace Enlarges

variable {b b' b'' : Body} {log : List (Operation × Answer)}

lemma refl (b : Body) : Enlarges b [] b where
  edges := List.Subset.refl _
  known := id
  declared := (or_iff_left List.not_mem_nil).symm

/-- One more operation. -/
lemma step (h : Enlarges b log b') {op a} (effect : Operation.Effect b' op a b'') :
    Enlarges b (log ++ [(op, a)]) b'' where
  edges := List.Subset.trans h.edges effect.edges
  known := fun known => effect.known (h.known known)
  declared := by
    intro n
    rw [effect.mem_declared, h.declared, marked_snoc, List.mem_append, Option.mem_toList, or_assoc]

/-- A whole history. -/
lemma run (b : Body) (more : List Operation) : Enlarges b (b.log more) (b.after more) :=
  Body.log_keeps (I := Enlarges b) (fun h effect => h.step effect) (refl b) more

/-- The seeds of the larger body are the seeds of the other one and the nodes that the log marks. -/
lemma seeds (h : Enlarges b log b') {seeds} (known : b.seeds = .ok seeds) :
    ∃ seeds', b'.seeds = .ok seeds' ∧ ∀ n, n ∈ seeds' ↔ n ∈ seeds ∨ n ∈ marked log := by
  unfold Body.seeds at known
  cases declared : b.declared with
  | none =>
    rw [declared] at known
    cases known
  | some nodes =>
    rw [declared] at known
    cases known
    obtain ⟨nodes', declared'⟩ :=
      Option.isSome_iff_exists.1 (h.known (by rw [declared]; rfl))
    refine ⟨.boundary .source :: nodes', ?_, fun n => ?_⟩
    · unfold Body.seeds
      rw [declared']
    · have mem := h.declared (n := n)
      rw [declared, declared', Option.getD_some, Option.getD_some] at mem
      rw [List.mem_cons, List.mem_cons, mem, or_assoc]

end Enlarges

/-- A body with seeds is analysed by their taint. -/
lemma Body.analyze_of_seeds {b : Body} {seeds} (known : b.seeds = .ok seeds) :
    b.analyze = .ok (b.report (Taint.ofSeeds b.graph seeds)) := by
  unfold analyze
  rw [known]
  rfl

/-- More operations never hide a leak. If it is known what is sensitive in a body, then after any
further operations every node with taint has taint that is at least as strong, and every finding has
a counterpart for the same channel that is at least as strong, unless the channel was no seed and
one of these operations has declared it sensitive. -/
theorem Body.after_monotone (b : Body) (more : List Operation) (seeds : List Node)
    (known : b.seeds = .ok seeds) :
    ∃ seeds' report report', (b.after more).seeds = .ok seeds' ∧ b.analyze = .ok report ∧
      (b.after more).analyze = .ok report' ∧
      (∀ n kind, (Taint.ofSeeds b.graph seeds).kindOf? n = some kind →
        ∃ kind', (Taint.ofSeeds (b.after more).graph seeds').kindOf? n = some kind' ∧
          kind ≤ kind') ∧
      ∀ finding ∈ report.findings,
        (∃ finding' ∈ report'.findings,
          finding'.channel = finding.channel ∧ finding.kind ≤ finding'.kind) ∨
        ∃ c : Boundary, finding.channel = c.name ∧ c ≠ .statics ∧ .boundary c ∉ seeds ∧
          .boundary c ∈ seeds' ∧ .boundary c ∈ marked (b.log more) := by
  have enlarges := Enlarges.run b more
  obtain ⟨seeds', known', mem_seeds⟩ := enlarges.seeds known
  have sub : seeds ⊆ seeds' := fun n hn => (mem_seeds n).2 (.inl hn)
  refine ⟨seeds', _, _, known', analyze_of_seeds known, analyze_of_seeds known',
    fun n kind => Taint.kindOf?_mono enlarges.edges sub, fun finding mem => ?_⟩
  obtain ⟨leak, hleak, rfl⟩ := List.mem_map.1 mem
  by_cases seed : .boundary leak.channel ∈ seeds' ∧ leak.channel ≠ .statics
  · -- a channel that leaks is no seed, so it was declared sensitive later
    obtain ⟨-, fresh, -⟩ := Taint.mem_leaks.1 ⟨leak, hleak, rfl, rfl⟩
    have notSeed : .boundary leak.channel ∉ seeds := fun old => fresh ⟨old, seed.2⟩
    exact .inr ⟨leak.channel, rfl, seed.2, notSeed, seed.1,
      ((mem_seeds _).1 seed.1).resolve_left notSeed⟩
  · obtain ⟨leak', hleak', hchannel, le⟩ := Taint.leaks_mono enlarges.edges sub hleak seed
    refine .inl ⟨_, List.mem_map_of_mem hleak', ?_, le⟩
    show leak'.channel.name = leak.channel.name
    rw [hchannel]

/-- A body that branches on a secret number: it throws the outcome and returns in the branch. -/
def Body.pinCheck : Body :=
  (Body.new 1 "pinCheck").after [.var "pin", .control none 0,
    .dataEdge (.var ⟨1, 0⟩) (.control ⟨1, 0⟩),
    .dataEdge (.control ⟨1, 0⟩) (.boundary .thrown),
    .controlEdge ⟨1, 0⟩ (.boundary .returned),
    .markSensitive (.var ⟨1, 0⟩)]

/-- A copy of the number is returned as well, and what is thrown is sensitive itself. -/
def Operation.pinReturned : List Operation :=
  [.markSink "copy", .dataEdge (.var ⟨1, 0⟩) (.var ⟨1, 1⟩),
    .dataEdge (.var ⟨1, 1⟩) (.boundary .returned), .markSensitive (.boundary .thrown)]

/-- Because what `pinCheck` returns was found before, it is found with the number returned as well;
and because what is thrown is not found any more, it has been declared sensitive. -/
theorem Body.pinCheck_after_monotone :
    (∃ report, (pinCheck.after Operation.pinReturned).analyze = .ok report ∧
      ∃ finding ∈ report.findings, finding.channel = "<return>") ∧
    .boundary .thrown ∈ marked (pinCheck.log Operation.pinReturned) := by
  have analyzed : pinCheck.analyze = .ok {
      unit := "pinCheck"
      findings := [
        ⟨"<throw>", .direct, ["pin", "<control 0>", "<throw>"]⟩,
        ⟨"<return>", .implicit, ["pin", "<control 0>", "<return>"]⟩]
      stats := ⟨1, 0, 1, 2, 1, 5⟩ } := by decide +kernel
  have analyzed' : (pinCheck.after Operation.pinReturned).analyze = .ok {
      unit := "pinCheck"
      findings := [
        ⟨"<@Sink>", .direct, ["pin", "copy", "<@Sink>"]⟩,
        ⟨"<return>", .direct, ["pin", "copy", "<return>"]⟩]
      stats := ⟨2, 0, 1, 5, 1, 7⟩ } := by decide +kernel
  obtain ⟨seeds', report, report', -, found, found', -, findings⟩ :=
    after_monotone pinCheck Operation.pinReturned [.boundary .source, .var ⟨1, 0⟩]
      (by decide +kernel)
  rw [analyzed] at found
  rw [analyzed'] at found'
  cases found
  cases found'
  constructor
  · cases findings _ (.tail _ (.head _)) with
    | inl kept =>
      obtain ⟨finding, mem, channel, -⟩ := kept
      exact ⟨_, analyzed', finding, mem, channel⟩
    | inr declared =>
      obtain ⟨c, name, -, -, -, mem⟩ := declared
      cases Boundary.name_injective (c := .returned) name
      exact absurd mem (by decide +kernel)
  · cases findings _ (.head _) with
    | inl kept =>
      obtain ⟨finding, mem, channel, -⟩ := kept
      simp only [List.mem_cons, List.not_mem_nil, or_false] at mem
      rcases mem with rfl | rfl
      · exact absurd channel (by decide)
      · exact absurd channel (by decide)
    | inr declared =>
      obtain ⟨c, name, -, -, -, mem⟩ := declared
      cases Boundary.name_injective (c := .thrown) name
      exact mem

end InfoFlow
