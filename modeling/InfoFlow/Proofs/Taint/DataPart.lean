import InfoFlow.Proofs.Taint.Course

/-!
# Direct leaks and data edges

The first phase of a propagation passes over control edges, so it is the same in a graph and in the
graph without its control edges (`Taint.directPhase_dataPart`). Since the second phase adds implicit
taint only, and none at all where there are no control edges, the direct leaks of a graph are the
leaks of the graph without its control edges: in the same order and with the same witnesses
(`Taint.leaks_dataPart`).
-/

namespace InfoFlow

/-- The graph without its control edges. -/
def Graph.dataPart (g : Graph) : Graph :=
  .ofList (g.edges.filter fun e => e.kind = .data)

namespace Graph

variable {g : Graph}

/-- The data edges keep their order. -/
lemma edges_dataPart : g.dataPart.edges = g.edges.filter fun e => e.kind = .data :=
  edges_ofList_of_nodup (g.coherent.distinct.filter _)

/-- The edges of the rest of the graph are its data edges. -/
lemma mem_dataPart {e} : e ∈ g.dataPart.edges ↔ e ∈ g.edges ∧ e.kind = .data := by
  rw [edges_dataPart, List.mem_filter, decide_eq_true_eq]

/-- The successors without control edges are those by data edges. -/
lemma successors_dataPart (n : Node) :
    g.dataPart.successors n = (g.successors n).filter fun edge => edge.2 = .data := by
  rw [successors_eq, successors_eq, edges_dataPart, Edge.leaving, Edge.leaving,
    List.filterMap_filter, List.filter_filterMap]
  apply List.filterMap_congr
  intro e _
  by_cases leaves : e.source = n
  · simp only [if_pos leaves, Option.filter_some]
  · simp only [if_neg leaves, Option.filter_none, ite_self]

/-- Adding a data edge and taking out control edges can be done in any order. -/
lemma dataPart_insert_data {e : Edge} (data : e.kind = .data) :
    (g.insert e).dataPart = g.dataPart.insert e := by
  apply ext_edges
  simp only [edges_insert, edges_dataPart, List.mem_filter, data, decide_true, and_true]
  split
  case isTrue => rfl
  case isFalse => simp [data]

/-- A control edge adds nothing to the rest of the graph. -/
lemma dataPart_insert_control {e : Edge} (control : e.kind = .control) :
    (g.insert e).dataPart = g.dataPart := by
  apply ext_edges
  rw [edges_dataPart, edges_dataPart, edges_insert]
  split
  case isTrue => rfl
  case isFalse => simp [control]

/-- Without control edges everything that is reached is reached by data edges. -/
lemma directlyReached_dataPart {seeds n} (h : g.dataPart.Reached seeds n) :
    g.dataPart.DirectlyReached seeds n := by
  refine Reachable.mono ?_ (fun _ => id) h
  intro a b step
  obtain ⟨kind, mem⟩ := step
  have data := (mem_dataPart.1 mem).2
  simp only at data
  subst data
  exact mem

end Graph

namespace Spread

variable {g : Graph}

/-- Following edges in the first phase passes over the control edges among them. -/
lemma foldl_follow_data (n : Node) (kind : FlowKind) (edges : List (Node × EdgeKind))
    (s : Spread) :
    (edges.filter fun edge => edge.2 = .data).foldl (follow dataOnly n kind) s =
      edges.foldl (follow dataOnly n kind) s := by
  rw [List.foldl_filter]
  congr 1
  funext s edge
  obtain ⟨target, edgeKind⟩ := edge
  cases edgeKind with
  | data => rfl
  | control => rfl

/-- A step that follows data edges only does not see the others. -/
lemma step_dataPart (s : Spread) : s.step g.dataPart dataOnly = s.step g dataOnly := by
  unfold step expand
  simp only [Graph.successors_dataPart, foldl_follow_data]

/-- A run that follows data edges only does not see the others. -/
lemma run_dataPart (bound : Nat) (s : Spread) :
    s.run g.dataPart dataOnly bound = s.run g dataOnly bound := by
  induction bound generalizing s with
  | zero => rfl
  | succ bound ih =>
    unfold run
    rw [step_dataPart, ih]

end Spread

namespace Taint

variable (g : Graph) (seeds : List Node)

/-- The first phase does not depend on control edges. Without them it may make fewer visits, but it
makes as many as it needs. -/
lemma directPhase_dataPart : directPhase g.dataPart seeds = directPhase g seeds := by
  have le : bound g.dataPart seeds ≤ bound g seeds := by
    have fewer : g.dataPart.edges.length ≤ g.edges.length := by
      rw [Graph.edges_dataPart]
      exact List.length_filter_le _ _
    unfold bound
    omega
  have ended := directPhase_over g.dataPart seeds
  unfold directPhase at ended ⊢
  rw [← Spread.run_over ended le, Spread.run_dataPart]

/-- Without control edges the second phase adds nothing. -/
lemma tags_dataPart : (ofSeeds g.dataPart seeds).tags = (directPhase g seeds).tags := by
  obtain ⟨new, htags, implicit⟩ := ofSeeds_tags g.dataPart seeds
  have none : new = [] := by
    apply List.eq_nil_iff_forall_not_mem.2
    intro tag mem
    have mem' : tag ∈ (ofSeeds g.dataPart seeds).tags := by
      rw [htags]
      exact List.mem_append_right _ mem
    obtain ⟨indirect, reached⟩ := (exists_implicit_iff g.dataPart seeds tag.node).1
      ⟨tag, mem', rfl, implicit tag mem⟩
    exact indirect (Graph.directlyReached_dataPart reached)
  rw [htags, none, List.append_nil, directPhase_dataPart]

variable {g seeds}

/-- A node with direct taint has the same witness with control edges and without. -/
lemma witness_dataPart {tag} (mem : tag ∈ (directPhase g seeds).tags) :
    (ofSeeds g.dataPart seeds).witness tag.node = (ofSeeds g seeds).witness tag.node := by
  rw [← tags_dataPart] at mem
  obtain ⟨path, traced, -, -⟩ := trail_ofSeeds mem
  have sub : (ofSeeds g.dataPart seeds).tags ⊆ (ofSeeds g seeds).tags := by
    obtain ⟨new, htags, -⟩ := ofSeeds_tags g seeds
    rw [tags_dataPart, htags]
    exact List.subset_append_left _ _
  rw [witness_of_traced traced, witness_of_traced (traced.mono sub)]

/-- The tags of the first phase show the same leaks with control edges and without. -/
lemma shown?_dataPart {tag} (mem : tag ∈ (directPhase g seeds).tags) :
    (ofSeeds g.dataPart seeds).shown? tag = (ofSeeds g seeds).shown? tag := by
  unfold shown? leak?
  rw [witness_dataPart mem]

variable (g seeds)

/-- The direct leaks of a graph are the leaks of the graph without its control edges. -/
lemma leaks_dataPart :
    (ofSeeds g.dataPart seeds).leaks =
      (ofSeeds g seeds).leaks.filter fun leak => leak.kind = .direct := by
  obtain ⟨new, htags, implicit⟩ := ofSeeds_tags g seeds
  have kept : (directPhase g seeds).tags.filterMap (ofSeeds g.dataPart seeds).shown? =
      ((directPhase g seeds).tags.filterMap (ofSeeds g seeds).shown?).filter
        fun leak => leak.kind = .direct := by
    rw [List.filterMap_congr fun tag mem => shown?_dataPart mem, eq_comm, List.filter_eq_self]
    intro leak mem
    obtain ⟨tag, mem, shows⟩ := List.mem_filterMap.1 mem
    obtain ⟨-, -, -, -, -, rfl⟩ := shown?_eq_some.1 shows
    exact decide_eq_true (directPhase_direct g seeds tag mem)
  have dropped : (new.filterMap (ofSeeds g seeds).shown?).filter
      (fun leak => leak.kind = .direct) = [] := by
    rw [List.filter_eq_nil_iff]
    intro leak mem
    obtain ⟨tag, mem, shows⟩ := List.mem_filterMap.1 mem
    obtain ⟨-, -, -, -, -, rfl⟩ := shown?_eq_some.1 shows
    simp [implicit tag mem]
  rw [leaks_eq, leaks_eq, tags_dataPart, htags, List.filterMap_append, List.filter_append,
    dropped, List.append_nil, kept]

end Taint

end InfoFlow
