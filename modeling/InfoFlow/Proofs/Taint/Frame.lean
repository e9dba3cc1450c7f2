import InfoFlow.Proofs.Taint.Course

/-!
# Edges that do not matter

A propagation looks at the edges of a graph only when it visits their source, and it passes over
those that leave the shared state. So two graphs that agree on the edges out of every visited node
go through the same visits: `Spread.step_agree` is one visit and `Spread.run_agree` a run. The
visited nodes are those with taint in the end, hence the taint from given seeds depends on the edges
out of nodes with taint alone (`Taint.ofSeeds_agree`).

A new edge out of the shared state or out of a node without taint is therefore never followed. It
cannot give taint to its own source either, since it would have to be followed for that.
-/

namespace InfoFlow

namespace Graph

variable {g : Graph}

/-- A new edge concerns no node but its source. -/
lemma successors_insert {e : Edge} {n} (ne : e.source ≠ n) :
    (g.insert e).successors n = g.successors n := by
  rw [successors_eq, successors_eq, edges_insert]
  split
  case isTrue => rfl
  case isFalse => rw [FlowGraph.leaving_snoc, if_neg ne, List.append_nil]

/-- An edge that a registry lets in is added to the graph. -/
lemma connect_graph {r : Registry} {e : Edge} {isNew g'}
    (added : Graph.connect r e g = .ok isNew g') : g' = g.insert e := by
  unfold connect at added
  split at added
  case h_1 => cases added
  case h_2 =>
    split at added
    case h_1 => cases added
    case h_2 =>
      cases added
      rfl

/-- An edge that is inserted leaves no fewer edges. -/
lemma length_le_insert (e : Edge) : g.edges.length ≤ (g.insert e).edges.length := by
  rw [edges_insert]
  split
  case isTrue => exact Nat.le_refl _
  case isFalse =>
    rw [List.length_append]
    exact Nat.le_add_right _ _

/-- A visit to `n` follows the same edges in both graphs. -/
def Agree (g g' : Graph) (n : Node) : Prop :=
  n = .boundary .statics ∨ g'.successors n = g.successors n

/-- An edge from elsewhere, or from the statics, is not seen at a node. -/
lemma agree_insert {e : Edge} {n} (other : e.source = .boundary .statics ∨ e.source ≠ n) :
    Agree g (g.insert e) n := by
  by_cases source : e.source = n
  · cases other with
    | inl statics => exact .inl (source.symm.trans statics)
    | inr ne => exact absurd source ne
  · exact .inr (successors_insert source)

end Graph

namespace Spread

variable {g g' : Graph} {rule : Rule} {s : Spread}

/-- A step sees the edges of the node that it visits, and no others. -/
lemma step_agree {n queue} (head : s.queue = n :: queue) (agree : g.Agree g' n) :
    s.step g' rule = s.step g rule := by
  unfold step expand
  simp only [head]
  cases agree with
  | inl statics => rw [if_pos statics, if_pos statics]
  | inr same => rw [same]

/-- A run sees the edges of the nodes that it visits, and no others. -/
lemma run_agree {bound} (agree : ∀ n ∈ visited g rule bound s, g.Agree g' n) :
    s.run g' rule bound = s.run g rule bound := by
  induction bound generalizing s with
  | zero => rfl
  | succ bound ih =>
    cases head : s.queue with
    | nil => rw [run_idle head, run_idle head]
    | cons n queue =>
      unfold visited at agree
      simp only [head, List.forall_mem_cons] at agree
      rw [run_succ head, run_succ head, step_agree head agree.1, ih agree.2]

/-- If two graphs agree on the edges out of all nodes with taint, a run in the one is a run in the
other, also if it may make more visits there. -/
lemma Inv.run_agree {P : List Tag → Prop} (phase : Phase g rule P) (inv : Inv g rule P [] s)
    {bound bound'} (ended : (s.run g rule bound).queue = []) (le : bound ≤ bound')
    (agree : ∀ tag ∈ (s.run g rule bound).tags, g.Agree g' tag.node) :
    s.run g' rule bound' = s.run g rule bound := by
  have same := run_over ended le
  rw [← same] at ended agree ⊢
  apply Spread.run_agree
  intro n visit
  rw [inv.visited_run phase ended] at visit
  obtain ⟨tag, mem, rfl⟩ := List.mem_map.1 visit
  exact agree tag mem

end Spread

namespace Taint

variable {g g' : Graph} {seeds : List Node}

/-- The taint depends on the edges out of nodes with taint alone. -/
lemma ofSeeds_agree (le : g.edges.length ≤ g'.edges.length)
    (agree : ∀ tag ∈ (ofSeeds g seeds).tags, g.Agree g' tag.node) :
    ofSeeds g' seeds = ofSeeds g seeds := by
  have bounds : bound g seeds ≤ bound g' seeds := by
    unfold bound
    omega
  have first : directPhase g' seeds = directPhase g seeds := by
    apply (Spread.start_inv g seeds).run_agree (Spread.phase_dataOnly g seeds)
      (directPhase_over g seeds) bounds
    intro tag mem
    exact agree tag ((implicitPhase_spec g seeds).2.2.2.subset mem)
  have second : implicitPhase g' seeds = implicitPhase g seeds := by
    unfold implicitPhase
    rw [first]
    exact (again_inv g seeds).run_agree (Spread.phase_allEdges g seeds)
      (implicitPhase_over g seeds) bounds agree
  unfold ofSeeds
  rw [second]

/-- An edge out of a node without taint, or out of the shared state, does not matter. -/
lemma ofSeeds_insert {e : Edge}
    (inert : e.source = .boundary .statics ∨ (ofSeeds g seeds).kindOf? e.source = none) :
    ofSeeds (g.insert e) seeds = ofSeeds g seeds := by
  refine ofSeeds_agree (Graph.length_le_insert e) fun tag mem => Graph.agree_insert ?_
  refine inert.imp_right fun untainted same => ?_
  exact kindOf?_eq_none.1 untainted ⟨tag, mem, same.symm⟩

/-- An edge out of the shared state or out of a node without taint is irrelevant: with it and
without it the same seeds give the same order of discovery, the same tags, the same witness for
every node, the same number of visits and the same leaks. This holds whatever registry lets the edge
in. -/
theorem ofSeeds_inert (g : Graph) (seeds : List Node) (e : Edge)
    (inert : e.source = .boundary .statics ∨ (ofSeeds g seeds).kindOf? e.source = none) :
    (ofSeeds (g.insert e) seeds).order = (ofSeeds g seeds).order ∧
      (ofSeeds (g.insert e) seeds).tags = (ofSeeds g seeds).tags ∧
      (∀ n, (ofSeeds (g.insert e) seeds).kindOf? n = (ofSeeds g seeds).kindOf? n) ∧
      (∀ n, (ofSeeds (g.insert e) seeds).witness n = (ofSeeds g seeds).witness n) ∧
      (ofSeeds (g.insert e) seeds).rounds = (ofSeeds g seeds).rounds ∧
      (ofSeeds (g.insert e) seeds).leaks = (ofSeeds g seeds).leaks ∧
      ∀ r isNew g', Graph.connect r e g = .ok isNew g' → ofSeeds g' seeds = ofSeeds g seeds := by
  have same := ofSeeds_insert inert
  rw [same]
  refine ⟨rfl, rfl, fun _ => rfl, fun _ => rfl, rfl, rfl, fun r isNew g' added => ?_⟩
  rw [Graph.connect_graph added, same]

/-- A secret is kept in the shared state, and a limit that is no secret decides what is returned. -/
def cachedSecret : Graph :=
  .ofList [⟨.var ⟨1, 0⟩, .boundary .statics, .data⟩, ⟨.var ⟨1, 1⟩, .control ⟨1, 0⟩, .data⟩,
    ⟨.control ⟨1, 0⟩, .boundary .returned, .control⟩]

/-- What is read from the shared state may be returned, and the limit may get into the secret. -/
theorem cachedSecret_inert :
    (ofSeeds cachedSecret [.var ⟨1, 0⟩]).kindOf? (.boundary .statics) = some .direct ∧
      (ofSeeds (cachedSecret.insert ⟨.boundary .statics, .boundary .returned, .data⟩)
        [.var ⟨1, 0⟩]).leaks = (ofSeeds cachedSecret [.var ⟨1, 0⟩]).leaks ∧
      (ofSeeds cachedSecret [.var ⟨1, 0⟩]).kindOf? (.var ⟨1, 1⟩) = none ∧
      (ofSeeds (cachedSecret.insert ⟨.var ⟨1, 1⟩, .var ⟨1, 0⟩, .data⟩) [.var ⟨1, 0⟩]).tags =
        [⟨.var ⟨1, 0⟩, .direct, none⟩,
          ⟨.boundary .statics, .direct, some (.var ⟨1, 0⟩)⟩] := by
  have read := ofSeeds_inert cachedSecret [.var ⟨1, 0⟩]
    ⟨.boundary .statics, .boundary .returned, .data⟩ (.inl rfl)
  have mixed := ofSeeds_inert cachedSecret [.var ⟨1, 0⟩]
    ⟨.var ⟨1, 1⟩, .var ⟨1, 0⟩, .data⟩ (.inr (by decide))
  refine ⟨by decide, read.2.2.2.2.2.1, by decide, ?_⟩
  rw [mixed.2.1]
  decide

end Taint

end InfoFlow
