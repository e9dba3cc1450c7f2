import Mathlib.Order.Bounds.Basic
import InfoFlow.Proofs.Taint.Course

/-!
# Witnesses are shortest

Both phases of a propagation work through a queue, so they find nodes in the order of their
distance: the first phase from the seeds along data edges, the second one from the nodes with direct
taint along all edges.

`Spread.Found` says what the visits to the first tagged nodes lead to. Every level that is zero on
the tags of the start, and goes up by one from a node to those that were tagged in the visit to it,
is `Spread.Leveled` then: it never decreases along the tags, and an edge out of a visited node adds
at most one to it. So it is the distance (`Spread.Leveled.route`). For the first phase this is
applied to the number of edges of the witness, and for the second one to the number of its implicit
nodes.
-/

namespace InfoFlow

namespace Spread

/-- The tags after visits to the nodes of the first `k` tags, from the tags `start`: each visit adds
tags at the end, which came from the visited node, and then all that the node carries has arrived.
-/
inductive Found (g : Graph) (rule : Rule) (start : List Tag) : Nat → List Tag → Prop where
  | start :
    Found g rule start 0 start
  | visit {k tags tag new} :
    Found g rule start k tags →
    tags[k]? = some tag →
    (∀ t ∈ new, t ∉ tags) →
    (∀ t ∈ new, t.via = some tag.node) →
    (∀ n kind, Carries g rule tag n kind → n ∈ (tags ++ new).map Tag.node) →
    Found g rule start (k + 1) (tags ++ new)

section Found

variable {g : Graph} {rule : Rule} {P : List Tag → Prop} {first : List Tag}

/-- The tags of the start stay. -/
lemma Found.sub {k tags} (found : Found g rule first k tags) : first ⊆ tags := by
  induction found with
  | start => exact List.Subset.refl _
  | visit _ _ _ _ _ ih => exact List.subset_append_of_subset_left _ ih

/-- A run that visits the nodes of its tags in order. -/
lemma Inv.found (phase : Phase g rule P) {s : Spread} (inv : Inv g rule P [] s) (bound : Nat) :
    Found g rule s.tags (visited g rule bound s).length (s.run g rule bound).tags := by
  apply (run_keeps (I := fun done r => Inv g rule P done r ∧ Found g rule s.tags done.length r.tags)
    _ ⟨inv, .start⟩ bound).2
  intro done r n queue h head
  obtain ⟨inv, found⟩ := h
  refine ⟨(inv.step phase head).1, ?_⟩
  -- the node whose turn it is has the tag behind those of the visited nodes
  have turn : (r.tags.map Tag.node)[done.length]? = some n := by
    rw [inv.order, head, List.getElem?_append_right (Nat.le_refl _), Nat.sub_self]
    rfl
  rw [List.getElem?_map, Option.map_eq_some_iff] at turn
  obtain ⟨tag, place, rfl⟩ := turn
  obtain ⟨-, new, visit⟩ := phase.visit inv.holds (List.mem_of_getElem? place) head
  rw [List.length_append, List.length_singleton, visit.tags]
  apply Found.visit found place visit.fresh visit.via
  intro m kind carries
  obtain ⟨t, ht, rfl, -⟩ := visit.arrived m kind carries
  rw [← visit.tags]
  exact List.mem_map_of_mem ht

/-- The level never decreases along the tags, none is more than one above that of the node whose
turn it is, and the nodes of the first `k` tags lead at most one level up. -/
structure Leveled (g : Graph) (rule : Rule) (level : Node → Nat) (k : Nat) (tags : List Tag) :
    Prop where
  sorted : tags.Pairwise fun t u => level t.node ≤ level u.node
  near : ∀ {head}, tags[k]? = some head → ∀ t ∈ tags, level t.node ≤ level head.node + 1
  arrived : ∀ {i tag}, i < k → tags[i]? = some tag → ∀ n kind, Carries g rule tag n kind →
    n ∈ tags.map Tag.node ∧ level n ≤ level tag.node + 1

variable {level : Node → Nat}

/-- What a phase starts with is on the lowest level. -/
lemma Leveled.start (base : ∀ t ∈ first, level t.node = 0) : Leveled g rule level 0 first where
  sorted := by
    apply List.pairwise_of_forall_mem_list
    intro t ht u _
    rw [base t ht]
    exact Nat.zero_le _
  near := by
    intro head _ t ht
    rw [base t ht]
    exact Nat.zero_le _
  arrived := by
    intro i tag lt
    exact absurd lt (Nat.not_lt_zero i)

/-- A visit keeps the levels, if the new tags are one level above the visited node. -/
lemma Leveled.visit {k tags tag new} (leveled : Leveled g rule level k tags)
    (place : tags[k]? = some tag) (up : ∀ t ∈ new, level t.node = level tag.node + 1)
    (carried : ∀ n kind, Carries g rule tag n kind → n ∈ (tags ++ new).map Tag.node) :
    Leveled g rule level (k + 1) (tags ++ new) := by
  obtain ⟨lt, -⟩ := List.getElem?_eq_some_iff.1 place
  have place' : (tags ++ new)[k]? = some tag := by
    rw [List.getElem?_append_left lt]
    exact place
  have near : ∀ t ∈ tags ++ new, level t.node ≤ level tag.node + 1 := by
    intro t ht
    cases List.mem_append.1 ht with
    | inl old => exact leveled.near place t old
    | inr fresh => exact Nat.le_of_eq (up t fresh)
  have sorted : (tags ++ new).Pairwise fun t u => level t.node ≤ level u.node := by
    rw [List.pairwise_append]
    refine ⟨leveled.sorted, ?_, ?_⟩
    · apply List.pairwise_of_forall_mem_list
      intro t ht u hu
      rw [up t ht, up u hu]
    · intro t ht u hu
      rw [up u hu]
      exact leveled.near place t ht
  refine ⟨sorted, ?_, ?_⟩
  · intro head next t ht
    obtain ⟨hk, e⟩ := List.getElem?_eq_some_iff.1 place'
    obtain ⟨hnext, e'⟩ := List.getElem?_eq_some_iff.1 next
    have le := List.pairwise_iff_getElem.1 sorted k (k + 1) hk hnext (Nat.lt_succ_self k)
    rw [e, e'] at le
    exact (near t ht).trans (Nat.add_le_add_right le 1)
  · intro i tag' hi found n kind carries
    cases Nat.lt_succ_iff_lt_or_eq.1 hi with
    | inl before =>
      rw [List.getElem?_append_left (before.trans lt)] at found
      obtain ⟨mem, le⟩ := leveled.arrived before found n kind carries
      rw [List.map_append]
      exact ⟨List.mem_append_left _ mem, le⟩
    | inr now =>
      subst now
      rw [place', Option.some.injEq] at found
      subst found
      have mem := carried n kind carries
      obtain ⟨t, ht, rfl⟩ := List.mem_map.1 mem
      exact ⟨mem, near t ht⟩

/-- A level that starts at zero and goes up by one from a node to those tagged in the visit to it.
-/
lemma Found.leveled {k tags} (found : Found g rule first k tags)
    (base : ∀ t ∈ first, level t.node = 0)
    (next : ∀ t ∈ tags, t ∉ first → ∀ m, t.via = some m → level t.node = level m + 1) :
    Leveled g rule level k tags := by
  induction found with
  | start => exact Leveled.start base
  | @visit k tags tag new found place fresh via carried ih =>
    apply (ih fun t ht => next t (List.mem_append_left _ ht)).visit place _ carried
    intro t ht
    exact next t (List.mem_append_right _ ht) (fun old => fresh t ht (found.sub old)) _ (via t ht)

/-- When all nodes have been visited, a route from a node of level zero has at least as many edges
as the level of the node that it leads to. -/
lemma Leveled.route {tags} (leveled : Leveled g rule level tags.length tags)
    {edge : Node → Node → Prop}
    (carried : ∀ tag ∈ tags, tag.node ≠ .boundary .statics → ∀ n, edge tag.node n →
      ∃ kind, Carries g rule tag n kind)
    {m n path} (mem : m ∈ tags.map Tag.node) (zero : level m = 0)
    (route : Route edge (.boundary .statics) m n path) :
    n ∈ tags.map Tag.node ∧ level n + 1 ≤ path.length := by
  apply route.induct (P := fun n path => n ∈ tags.map Tag.node ∧ level n + 1 ≤ path.length)
  · rw [zero]
    exact ⟨mem, Nat.le_refl _⟩
  · intro a b path _ ih ne step
    obtain ⟨ha, le⟩ := ih
    obtain ⟨tag, htag, rfl⟩ := List.mem_map.1 ha
    obtain ⟨i, lt, e⟩ := List.getElem_of_mem htag
    obtain ⟨kind, carries⟩ := carried tag htag ne b step
    obtain ⟨hb, up⟩ := leveled.arrived lt (List.getElem?_eq_some_iff.2 ⟨lt, e⟩) b kind carries
    rw [List.length_append, List.length_singleton]
    exact ⟨hb, by omega⟩

end Found

end Spread

namespace Taint

/-- The number of edges of the witness of a node. -/
def witnessEdges (t : Taint) (n : Node) : Nat :=
  (t.witness n).length - 1

/-- The number of nodes with implicit taint on the witness of a node. -/
def witnessDetour (t : Taint) (n : Node) : Nat :=
  (t.witness n).countP fun m => t.kindOf? m = some .implicit

section Witness

variable {g : Graph} {seeds : List Node}

/-- The witness of a seed is the seed alone. -/
lemma witness_seed {tag} (mem : tag ∈ (ofSeeds g seeds).tags) (via : tag.via = none) :
    (ofSeeds g seeds).witness tag.node = [tag.node] :=
  witness_of_traced (.seed mem via)

/-- The witness of a node is that of the node where its taint came from, and the node itself. -/
lemma witness_via {tag m} (mem : tag ∈ (ofSeeds g seeds).tags) (via : tag.via = some m) :
    ∃ before ∈ (ofSeeds g seeds).tags, before.node = m ∧
      (ofSeeds g seeds).witness tag.node = (ofSeeds g seeds).witness m ++ [tag.node] := by
  have tagged : ∃ before ∈ (ofSeeds g seeds).tags, before.node = m := by
    cases (ofSeeds_grown g seeds).reason tag mem with
    | seed => cases via
    | data hm => cases via; exact ⟨_, hm, rfl⟩
    | control hm => cases via; exact ⟨_, hm, rfl⟩
  obtain ⟨before, hb, rfl⟩ := tagged
  obtain ⟨path, traced, -, -⟩ := trail_ofSeeds hb
  refine ⟨before, hb, rfl, ?_⟩
  rw [witness_of_traced traced]
  exact witness_of_traced (.step mem via traced)

/-- A witness has one node more than edges. -/
lemma witness_length {tag} (mem : tag ∈ (ofSeeds g seeds).tags) :
    ((ofSeeds g seeds).witness tag.node).length =
      (ofSeeds g seeds).witnessEdges tag.node + 1 := by
  have pos : 0 < ((ofSeeds g seeds).witness tag.node).length := by
    cases via : tag.via with
    | none =>
      rw [witness_seed mem via]
      exact Nat.zero_lt_one
    | some m =>
      obtain ⟨-, -, -, e⟩ := witness_via mem via
      rw [e, List.length_append]
      exact Nat.lt_add_left _ Nat.zero_lt_one
  exact (Nat.sub_add_cancel pos).symm

/-- The witness of a node with direct taint is direct throughout. -/
lemma witnessDetour_direct {n} (h : (ofSeeds g seeds).kindOf? n = some .direct) :
    (ofSeeds g seeds).witnessDetour n = 0 := by
  have nodup := (ofSeeds_grown g seeds).nodup
  obtain ⟨tag, mem, hnode, direct⟩ := kindOf?_eq_some.1 h
  obtain ⟨-, all⟩ :=
    (witness_traced h).1.direct nodup (ofSeeds_grown g seeds).reason tag mem hnode direct
  apply List.countP_eq_zero.2
  intro m hm
  rw [kindOf?_eq_some.2 (all m hm)]
  exact Bool.false_ne_true

variable (g seeds)

/-- The first phase finds nodes in the order of the numbers of edges of their witnesses. -/
lemma directPhase_leveled :
    Spread.Leveled g Spread.dataOnly (ofSeeds g seeds).witnessEdges
      (directPhase g seeds).tags.length (directPhase g seeds).tags := by
  have inv := Spread.start_inv g seeds
  have phase := Spread.phase_dataOnly g seeds
  have later : (directPhase g seeds).tags <+: (ofSeeds g seeds).tags :=
    (implicitPhase_spec g seeds).2.2.2
  have found : Spread.Found g Spread.dataOnly (Spread.start seeds).tags
      (Spread.visited g Spread.dataOnly (bound g seeds) (Spread.start seeds)).length
      (directPhase g seeds).tags := inv.found phase _
  rw [inv.visited_run phase (directPhase_over g seeds), List.length_map] at found
  apply found.leveled
  · intro t ht
    have bare := (Spread.start_seeded g seeds).1.bare t ht
    have mem := later.subset (found.sub ht)
    have length := witness_length mem
    rw [witness_seed mem (by rw [bare])] at length
    exact (Nat.succ.inj length).symm
  · intro t ht _ m via
    obtain ⟨before, hb, rfl, e⟩ := witness_via (later.subset ht) via
    have length := witness_length (later.subset ht)
    rw [e, List.length_append, witness_length hb] at length
    exact (Nat.succ.inj length).symm

/-- The second phase finds nodes in the order of the numbers of implicit nodes on their witnesses.
-/
lemma implicitPhase_leveled :
    Spread.Leveled g Spread.allEdges (ofSeeds g seeds).witnessDetour
      (ofSeeds g seeds).tags.length (ofSeeds g seeds).tags := by
  have inv := again_inv g seeds
  have phase := Spread.phase_allEdges g seeds
  obtain ⟨new, htags, implicit⟩ := ofSeeds_tags g seeds
  have found : Spread.Found g Spread.allEdges (directPhase g seeds).tags
      (Spread.visited g Spread.allEdges (bound g seeds) (directPhase g seeds).again).length
      (ofSeeds g seeds).tags := inv.found phase _
  rw [inv.visited_run phase (implicitPhase_over g seeds), List.length_map] at found
  apply found.leveled
  · intro t ht
    apply witnessDetour_direct
    exact kindOf?_eq_some.2 ⟨t, found.sub ht, rfl, directPhase_direct g seeds t ht⟩
  · intro t ht later m via
    have kind : t.kind = .implicit := by
      rw [htags] at ht
      exact implicit t ((List.mem_append.1 ht).resolve_left later)
    have tagged : (ofSeeds g seeds).kindOf? t.node = some .implicit :=
      kindOf?_eq_some.2 ⟨t, ht, rfl, kind⟩
    obtain ⟨-, -, -, e⟩ := witness_via ht via
    unfold witnessDetour
    rw [e, List.countP_append, List.countP_singleton, tagged]
    rfl

end Witness

/-- The numbers of edges of the routes that lead to `n` from a node in `origin`. -/
def routeLengths (edge : Node → Node → Prop) (origin : Node → Prop) (n : Node) : Set Nat :=
  { k | ∃ start path, origin start ∧ Route edge (.boundary .statics) start n path ∧
    path.length = k + 1 }

section Routes

variable {g : Graph} {seeds : List Node} {n : Node}

/-- The witness of a node with direct taint is a route of data edges from a seed. -/
lemma witnessEdges_mem (h : (ofSeeds g seeds).kindOf? n = some .direct) :
    (ofSeeds g seeds).witnessEdges n ∈
      routeLengths g.DataEdge (fun s => s ∈ seeds ∧ s ≠ .boundary .statics) n := by
  have grown := ofSeeds_grown g seeds
  obtain ⟨tag, mem, rfl, direct⟩ := kindOf?_eq_some.1 h
  have traced := (witness_traced h).1
  obtain ⟨s, hs, ne, -, route⟩ := traced.route grown.reason
  obtain ⟨chain, -⟩ := traced.direct grown.nodup grown.reason tag mem rfl direct
  exact ⟨s, _, ⟨hs, ne⟩, ⟨route.head, route.last, chain, route.inner⟩, witness_length mem⟩

/-- The implicit nodes on a witness are the end of a route from the last node with direct taint. -/
lemma witnessDetour_mem (h : (ofSeeds g seeds).kindOf? n = some .implicit) :
    (ofSeeds g seeds).witnessDetour n ∈
      routeLengths g.AnyEdge (fun m => (ofSeeds g seeds).kindOf? m = some .direct) n := by
  have grown := ofSeeds_grown g seeds
  obtain ⟨tag, mem, rfl, implicit⟩ := kindOf?_eq_some.1 h
  have traced := (witness_traced h).1
  obtain ⟨s, -, -, -, route⟩ := traced.route grown.reason
  obtain ⟨front, back, a, b, split, last, -, directs, implicits, -, -⟩ :=
    traced.implicit grown.nodup grown.reason tag mem rfl implicit
  have direct : (ofSeeds g seeds).kindOf? a = some .direct :=
    kindOf?_eq_some.2 (directs a (List.mem_of_getLast? last))
  have counted : (ofSeeds g seeds).witnessDetour tag.node = back.length := by
    unfold witnessDetour
    rw [split, List.countP_append, List.countP_eq_zero.2, List.countP_eq_length.2, Nat.zero_add]
    · intro m hm
      rw [kindOf?_eq_some.2 (implicits m hm)]
      rfl
    · intro m hm
      rw [kindOf?_eq_some.2 (directs m hm)]
      exact Bool.false_ne_true
  -- the direct part of the witness is cut off before its last node
  obtain ⟨before, rfl⟩ := List.getLast?_eq_some_iff.1 last
  rw [split, List.append_assoc, List.singleton_append] at route
  refine ⟨a, a :: back, direct, route.suffix, ?_⟩
  rw [counted, List.length_cons]

end Routes

/-- Witnesses are shortest. That of a node with direct taint has as few edges as a route of data
edges from a seed can have, and that of a node with implicit taint has as few implicit nodes as a
route of any edges from a node with direct taint can have edges; the routes meet the shared state at
most at their end. In the order of discovery these numbers never decrease, neither among the nodes
with direct taint nor among those with implicit taint. -/
theorem witness_shortest (g : Graph) (seeds : List Node) :
    (∀ n, (ofSeeds g seeds).kindOf? n = some .direct →
      IsLeast (routeLengths g.DataEdge (fun s => s ∈ seeds ∧ s ≠ .boundary .statics) n)
        ((ofSeeds g seeds).witnessEdges n)) ∧
    (∀ n, (ofSeeds g seeds).kindOf? n = some .implicit →
      IsLeast
        (routeLengths g.AnyEdge (fun m => (ofSeeds g seeds).kindOf? m = some .direct) n)
        ((ofSeeds g seeds).witnessDetour n)) ∧
    ((ofSeeds g seeds).tags.Pairwise fun t u => t.kind = .direct → u.kind = .direct →
      (ofSeeds g seeds).witnessEdges t.node ≤ (ofSeeds g seeds).witnessEdges u.node) ∧
    ((ofSeeds g seeds).tags.Pairwise fun t u => t.kind = .implicit → u.kind = .implicit →
      (ofSeeds g seeds).witnessDetour t.node ≤ (ofSeeds g seeds).witnessDetour u.node) := by
  have direct := directPhase_leveled g seeds
  have all := implicitPhase_leveled g seeds
  refine ⟨fun n h => ⟨witnessEdges_mem h, ?_⟩, fun n h => ⟨witnessDetour_mem h, ?_⟩, ?_, ?_⟩
  · intro k hk
    obtain ⟨s, path, ⟨hs, ne⟩, route, length⟩ := hk
    have mem := List.mem_map_of_mem (f := Tag.node) ((directPhase_spec g seeds).2.2 s hs ne)
    have zero : (ofSeeds g seeds).witnessEdges s = 0 := by
      have length := witness_length (ofSeeds_seed (g := g) hs ne)
      rw [witness_seed (ofSeeds_seed hs ne) rfl] at length
      exact (Nat.succ.inj length).symm
    have le := direct.route (fun tag _ ne n step => ⟨.direct, ne, .data, step, rfl⟩) mem zero route
    omega
  · intro k hk
    obtain ⟨m, path, hm, route, length⟩ := hk
    obtain ⟨tag, htag, rfl, -⟩ := kindOf?_eq_some.1 hm
    have le := all.route (fun tag _ ne n step => Spread.carries_allEdges ne step)
      (List.mem_map_of_mem htag) (witnessDetour_direct hm) route
    omega
  · obtain ⟨new, htags, implicit⟩ := ofSeeds_tags g seeds
    have later : ∀ t ∈ new, t.kind ≠ .direct := by
      intro t ht
      rw [implicit t ht]
      exact nofun
    rw [htags, List.pairwise_append]
    refine ⟨direct.sorted.imp fun le _ _ => le, ?_, ?_⟩
    · apply List.pairwise_of_forall_mem_list
      intro t ht u _ kind
      exact absurd kind (later t ht)
    · intro t _ u hu _ kind
      exact absurd kind (later u hu)
  · exact all.sorted.imp fun le _ _ => le

end Taint

end InfoFlow
