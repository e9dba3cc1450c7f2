import InfoFlow.Proofs.Taint.Growth

/-!
# Exactness of the propagation

Taint is reachability: a node has direct taint if and only if data edges lead to it from a seed,
and implicit taint if and only if edges lead to it but data edges alone do not. The shared state is
the barrier of these paths, and is no seed.

`Grown.reached` and `Grown.directlyReached` are the sound halves, by induction over the way in
which the tags were found; `Taint.exists_tag_iff` and `Taint.exists_direct_iff` add the complete
halves, by induction over the path.
-/

namespace InfoFlow

namespace Graph

/-- A path of data edges leads to `n` from a seed, through nodes other than the shared state. -/
def DirectlyReached (g : Graph) (seeds : List Node) (n : Node) : Prop :=
  Reachable g.DataEdge (.boundary .statics) (· ∈ seeds) n

/-- A path of edges leads to `n` from a seed, through nodes other than the shared state. -/
def Reached (g : Graph) (seeds : List Node) (n : Node) : Prop :=
  Reachable g.AnyEdge (.boundary .statics) (· ∈ seeds) n

/-- What is reached by data edges is reached. -/
lemma DirectlyReached.reached {g : Graph} {seeds n} (h : g.DirectlyReached seeds n) :
    g.Reached seeds n :=
  h.mono (fun _ _ => DataEdge.any) (fun _ => id)

end Graph

/-- Everything tagged is reached. -/
lemma Grown.reached {g seeds tags} (grown : Grown g seeds tags) :
    ∀ tag ∈ tags, g.Reached seeds tag.node := by
  apply grown.forall_mem (Q := fun _ tag => g.Reached seeds tag.node)
  · intro _ _ _ h
    exact h
  · intro _ n hn ne
    exact .seed hn ne
  · intro _ tag n _ ih ne step _
    exact ih.step ne ⟨.data, step⟩
  · intro _ tag n _ ih ne step _
    exact ih.step ne ⟨.control, step⟩

/-- Everything tagged as direct is reached by data edges. -/
lemma Grown.directlyReached {g seeds tags} (grown : Grown g seeds tags) :
    ∀ tag ∈ tags, tag.kind = .direct → g.DirectlyReached seeds tag.node := by
  apply grown.forall_mem (Q := fun _ tag => tag.kind = .direct → g.DirectlyReached seeds tag.node)
  · intro _ _ _ h
    exact h
  · intro _ n hn ne _
    exact .seed hn ne
  · intro _ tag n _ ih ne step _ direct
    exact (ih direct).step ne step
  · intro _ tag n _ _ _ _ _ direct
    cases direct

namespace Taint

/-- The nodes with taint are the nodes that are reached. -/
lemma exists_tag_iff (g : Graph) (seeds : List Node) (n : Node) :
    (∃ tag ∈ (ofSeeds g seeds).tags, tag.node = n) ↔ g.Reached seeds n := by
  constructor
  · rintro ⟨tag, mem, rfl⟩
    exact (ofSeeds_grown g seeds).reached tag mem
  · intro h
    refine Reachable.induct (P := fun n => ∃ tag ∈ (ofSeeds g seeds).tags, tag.node = n) ?_ ?_ h
    · intro n hn ne
      exact ⟨_, ofSeeds_seed hn ne, rfl⟩
    · intro m n hm ne step
      obtain ⟨tag, mem, rfl⟩ := hm
      obtain ⟨kind, carries⟩ := Spread.carries_allEdges ne step
      obtain ⟨t, ht, hnode, -⟩ := ofSeeds_settled g seeds tag mem n kind carries
      exact ⟨t, ht, hnode⟩

/-- The nodes with direct taint are the nodes that data edges reach. -/
lemma exists_direct_iff (g : Graph) (seeds : List Node) (n : Node) :
    (∃ tag ∈ (ofSeeds g seeds).tags, tag.node = n ∧ tag.kind = .direct) ↔
      g.DirectlyReached seeds n := by
  constructor
  · rintro ⟨tag, mem, rfl, direct⟩
    exact (ofSeeds_grown g seeds).directlyReached tag mem direct
  · intro h
    refine Reachable.induct
      (P := fun n => ∃ tag ∈ (ofSeeds g seeds).tags, tag.node = n ∧ tag.kind = .direct) ?_ ?_ h
    · intro n hn ne
      exact ⟨_, ofSeeds_seed hn ne, rfl, rfl⟩
    · rintro m n ⟨tag, mem, rfl, direct⟩ ne step
      exact ofSeeds_dataClosed g seeds tag mem direct ne n step

/-- A node is tagged `implicit` if it is reached, but not by data edges alone. -/
lemma exists_implicit_iff (g : Graph) (seeds : List Node) (n : Node) :
    (∃ tag ∈ (ofSeeds g seeds).tags, tag.node = n ∧ tag.kind = .implicit) ↔
      ¬ g.DirectlyReached seeds n ∧ g.Reached seeds n := by
  rw [← exists_direct_iff, ← exists_tag_iff]
  refine ⟨fun h => ?_, fun h => ?_⟩
  · obtain ⟨tag, mem, hnode, implicit⟩ := h
    refine ⟨fun h => ?_, tag, mem, hnode⟩
    obtain ⟨t, ht, htn, direct⟩ := h
    have e := Tag.unique (ofSeeds_grown g seeds).nodup mem ht (hnode.trans htn.symm)
    subst e
    rw [implicit] at direct
    cases direct
  · obtain ⟨notDirect, tag, mem, hnode⟩ := h
    refine ⟨tag, mem, hnode, FlowKind.eq_implicit ?_⟩
    intro direct
    exact notDirect ⟨tag, mem, hnode, direct⟩

/-- The tag of a node is the one for it in the table. -/
lemma tag?_eq_some {t : Taint} {n tag} : t.tag? n = some tag ↔ tag ∈ t.tags ∧ tag.node = n :=
  find?_key t.coherent.distinct

/-- The kind of taint of a node is that of its tag. -/
lemma kindOf?_eq_some {t : Taint} {n kind} :
    t.kindOf? n = some kind ↔ ∃ tag ∈ t.tags, tag.node = n ∧ tag.kind = kind := by
  unfold kindOf?
  simp only [Option.map_eq_some_iff, tag?_eq_some, and_assoc]

/-- A node without taint has no tag. -/
lemma kindOf?_eq_none {t : Taint} {n} :
    t.kindOf? n = none ↔ ¬ ∃ tag ∈ t.tags, tag.node = n := by
  unfold kindOf? Tracker.tag?
  rw [Option.map_eq_none_iff, find?_key_none, List.mem_map]

/-- The taint of every node: direct if data edges reach it, implicit if it is reached otherwise, and
none if it is not reached. -/
theorem kindOf?_ofSeeds (g : Graph) (seeds : List Node) (n : Node) :
    ((ofSeeds g seeds).kindOf? n = some .direct ↔ g.DirectlyReached seeds n) ∧
    ((ofSeeds g seeds).kindOf? n = some .implicit ↔
      ¬ g.DirectlyReached seeds n ∧ g.Reached seeds n) ∧
    ((ofSeeds g seeds).kindOf? n = none ↔
      ¬ g.DirectlyReached seeds n ∧ ¬ g.Reached seeds n) := by
  refine ⟨?_, ?_, ?_⟩
  · rw [kindOf?_eq_some, exists_direct_iff]
  · rw [kindOf?_eq_some, exists_implicit_iff]
  · rw [kindOf?_eq_none, exists_tag_iff]
    constructor
    · intro h
      exact ⟨fun direct => h direct.reached, h⟩
    · rintro ⟨-, h⟩
      exact h

end Taint

end InfoFlow
