import Mathlib.Data.Finset.Card
import Mathlib.Data.Finset.Dedup
import InfoFlow.Proofs.Taint.Leak

/-!
# The course of a propagation

A stronger tag would replace a weaker one and have its node visited again, so it is not evident how
often a node is visited, nor that the visits come to an end. But no stronger tag is ever offered:
`Spread.Offers` and `Taint.Offered` say which tags are offered in the course of a propagation and at
which moment, and `Spread.Inv.offers` that the tags of every such moment stay.

It follows that the nodes are visited in the order of their tags, each of them once, and that direct
taint comes before implicit taint. `Taint.ofSeeds_orderly` puts together what is known about the
course of a propagation.
-/

namespace InfoFlow

namespace Spread

section Runs

variable {g : Graph} {rule : Rule} {s : Spread}

/-- Without nodes to visit nothing happens. -/
lemma run_idle (idle : s.queue = []) (bound : Nat) : s.run g rule bound = s := by
  cases bound with
  | zero => rfl
  | succ bound =>
    unfold run
    simp only [idle, List.isEmpty_nil, if_true]

/-- While a node waits, a run is one step and a shorter run. -/
lemma run_succ {n queue} (head : s.queue = n :: queue) (bound : Nat) :
    s.run g rule (bound + 1) = (s.step g rule).run g rule bound := by
  show (if s.queue.isEmpty then s else (s.step g rule).run g rule bound) = _
  rw [head]
  rfl

/-- A run goes on where a shorter one has stopped. -/
lemma run_add (first more : Nat) :
    s.run g rule (first + more) = (s.run g rule first).run g rule more := by
  induction first generalizing s with
  | zero =>
    rw [Nat.zero_add]
    rfl
  | succ first ih =>
    cases head : s.queue with
    | nil => rw [run_idle head, run_idle head, run_idle head]
    | cons n queue => rw [Nat.add_right_comm, run_succ head, run_succ head, ih]

/-- A run that is over makes no more visits, however many it may make. -/
lemma run_over {bound more} (ended : (s.run g rule bound).queue = []) (le : bound ≤ more) :
    s.run g rule more = s.run g rule bound := by
  obtain ⟨rest, rfl⟩ := Nat.exists_eq_add_of_le le
  rw [run_add, run_idle ended]

/-- A visit to a node with taint follows the edges that leave it. -/
lemma step_eq {n queue tag} (head : s.queue = n :: queue) (ne : n ≠ .boundary .statics)
    (found : s.tag? n = some tag) :
    s.step g rule = (g.successors n).foldl (follow rule n tag.kind)
      { s with queue := queue, visits := s.visits + 1 } := by
  unfold step expand
  simp only [head, if_neg ne, found]

/-- In a run from `s` the tag `t` is offered to `r`. After some visits it is the turn of a node with
taint, and the edges that leave it in front of the edge for `t` have been followed. -/
inductive Offers (g : Graph) (rule : Rule) (s : Spread) : Spread → Tag → Prop where
  | visit {bound n queue tag front edge back kind} :
    (s.run g rule bound).queue = n :: queue →
    n ≠ .boundary .statics →
    (s.run g rule bound).tag? n = some tag →
    g.successors n = front ++ edge :: back →
    rule edge.2 tag.kind = some kind →
    Offers g rule s
      (front.foldl (follow rule n tag.kind)
        { s.run g rule bound with queue := queue, visits := (s.run g rule bound).visits + 1 })
      ⟨edge.1, kind, some n⟩

end Runs

section Phase

variable {g : Graph} {rule : Rule} {P : List Tag → Prop} {done : List Node} {s : Spread}

/-- Tags stay until the run is over. -/
lemma Inv.tags_run (phase : Phase g rule P) (inv : Inv g rule P done s) (first : Nat) {bound}
    (ended : (s.run g rule bound).queue = []) :
    (s.run g rule first).tags <+: (s.run g rule bound).tags := by
  cases Nat.le_total first bound with
  | inl le =>
    obtain ⟨more, rfl⟩ := Nat.exists_eq_add_of_le le
    rw [run_add]
    exact ((inv.visits_run phase first).1.visits_run phase more).2
  | inr le =>
    rw [run_over ended le]

/-- When the run is over, the nodes have been visited in the order of their tags. -/
lemma Inv.visited_run (phase : Phase g rule P) (inv : Inv g rule P [] s) {bound}
    (ended : (s.run g rule bound).queue = []) :
    visited g rule bound s = (s.run g rule bound).tags.map Tag.node := by
  have order := (inv.visits_run phase bound).1.order
  rw [ended, List.append_nil] at order
  exact order.symm

/-- No tag is offered that is stronger than the one that its node has, and the tags that are there
when a tag is offered stay until the run is over. -/
lemma Inv.offers (phase : Phase g rule P) (inv : Inv g rule P done s) {r t}
    (h : Offers g rule s r t) {bound} (ended : (s.run g rule bound).queue = []) :
    (∀ old, r.tag? t.node = some old → t.kind ≤ old.kind) ∧
      r.tags <+: (s.run g rule bound).tags := by
  cases h with
  | @visit first n queue tag front edge back kind head ne found split hrule =>
    have inv' := (inv.visits_run phase first).1
    obtain ⟨mem, rfl⟩ := (find?_key (phase.nodup inv'.holds)).1 found
    have steps : ∀ e ∈ front ++ edge :: back, ⟨tag.node, e.1, e.2⟩ ∈ g.edges := by
      intro e he
      rw [← split] at he
      exact Graph.mem_successors.1 he
    rw [List.forall_mem_append] at steps
    -- the edges in front have been followed, the others will be
    obtain ⟨holds, ext, -⟩ := phase.followAll ne steps.1
      (s := { s.run g rule first with queue := queue, visits := (s.run g rule first).visits + 1 })
      inv'.holds mem
    obtain ⟨-, ext', -⟩ := phase.followAll ne steps.2 holds (ext.mem mem)
    constructor
    · intro old hold
      obtain ⟨hold, hnode⟩ := (find?_key (phase.nodup holds)).1 hold
      have carries : Carries g rule tag edge.1 kind :=
        ⟨ne, edge.2, steps.2 edge (List.mem_cons_self ..), hrule⟩
      exact phase.keeps holds (ext.mem mem) carries hold hnode
    · obtain ⟨new, htags, -, -⟩ := ext'
      rw [← List.foldl_append, ← split, ← step_eq head ne found] at htags
      apply List.IsPrefix.trans _ (inv.tags_run phase (first + 1) ended)
      rw [run_add, run_succ head]
      show _ <+: ((s.run g rule first).step g rule).tags
      rw [htags]
      exact List.prefix_append _ _

end Phase

end Spread

namespace Taint

/-- In the course of a propagation from the seeds the tag `t` is offered to `s`: for a seed, once
the seeds in front of it have their tags, or in one of the two phases. -/
inductive Offered (g : Graph) (seeds : List Node) : Spread → Tag → Prop where
  | seed {front n back} :
    seeds = front ++ n :: back →
    n ≠ .boundary .statics →
    Offered g seeds (Spread.start front) ⟨n, .direct, none⟩
  | direct {s t} :
    Spread.Offers g Spread.dataOnly (Spread.start seeds) s t →
    Offered g seeds s t
  | implicit {s t} :
    Spread.Offers g Spread.allEdges (directPhase g seeds).again s t →
    Offered g seeds s t

/-- The tags of the first seeds, none of them replaced, are those that all seeds start with. -/
lemma start_append (g : Graph) (front back : List Node) :
    Spread.Seeded g (front ++ back) (Spread.start front) ∧
      Spread.Extends (Spread.start front) (Spread.start (front ++ back)) := by
  have sub : ∀ part ⊆ front ++ back, ∀ n ∈ part.filter (· ≠ .boundary .statics),
      n ∈ front ++ back ∧ n ≠ .boundary .statics := by
    intro part sub n hn
    rw [List.mem_filter, decide_eq_true_eq] at hn
    exact ⟨sub hn.1, hn.2⟩
  obtain ⟨seeded, -, -⟩ :=
    (Spread.Seeded.idle g (front ++ back)).seedAll (sub front (List.subset_append_left _ _))
  obtain ⟨-, ext, -⟩ := seeded.seedAll (sub back (List.subset_append_right _ _))
  rw [← List.foldl_append, ← List.filter_append] at ext
  exact ⟨seeded, ext⟩

section Phases

variable (g : Graph) (seeds : List Node)

/-- The first phase comes to an end. -/
lemma directPhase_over : (directPhase g seeds).queue = [] := by
  obtain ⟨-, -, ended, -⟩ := (Spread.start_inv g seeds).run (Spread.phase_dataOnly g seeds)
    (fun tags holds => holds.1.length_le) (bound g seeds) (by simp)
  exact ended

/-- The second phase comes to an end. -/
lemma implicitPhase_over : (implicitPhase g seeds).queue = [] := by
  obtain ⟨-, -, ended, -⟩ := (again_inv g seeds).run (Spread.phase_allEdges g seeds)
    (fun tags holds => holds.1.length_le) (bound g seeds) (by simp)
  exact ended

/-- The first phase makes direct tags only. -/
lemma directPhase_direct : ∀ tag ∈ (directPhase g seeds).tags, tag.kind = .direct :=
  ((Spread.start_inv g seeds).visits_run (Spread.phase_dataOnly g seeds) _).1.holds.2

/-- A node that data edges reach is tagged in the first phase. -/
lemma directPhase_complete {n} (h : g.DirectlyReached seeds n) :
    n ∈ (directPhase g seeds).tags.map Tag.node := by
  obtain ⟨-, closed, all⟩ := directPhase_spec g seeds
  apply Reachable.induct (P := (· ∈ (directPhase g seeds).tags.map Tag.node)) _ _ h
  · intro n hn ne
    exact List.mem_map_of_mem (all n hn ne)
  · intro m n hm ne step
    obtain ⟨tag, mem, rfl⟩ := List.mem_map.1 hm
    obtain ⟨t, ht, rfl, -⟩ := closed tag mem (directPhase_direct g seeds tag mem) ne n step
    exact List.mem_map_of_mem ht

/-- The tags of the second phase stand behind those of the first one, and all of them are implicit.
-/
lemma ofSeeds_tags : ∃ new, (ofSeeds g seeds).tags = (directPhase g seeds).tags ++ new ∧
    ∀ tag ∈ new, tag.kind = .implicit := by
  have grown := ofSeeds_grown g seeds
  obtain ⟨new, htags⟩ : (directPhase g seeds).tags <+: (ofSeeds g seeds).tags :=
    (implicitPhase_spec g seeds).2.2.2
  refine ⟨new, htags.symm, fun tag mem => FlowKind.eq_implicit fun direct => ?_⟩
  -- a node with direct taint has a tag of the first phase, and it has only one
  have mem' : tag ∈ (ofSeeds g seeds).tags := by
    rw [← htags]
    exact List.mem_append_right _ mem
  have known := directPhase_complete g seeds (grown.directlyReached tag mem' direct)
  have nodup := grown.nodup
  rw [← htags, List.map_append] at nodup
  exact List.disjoint_of_nodup_append nodup known (List.mem_map_of_mem mem)

/-- Direct taint is discovered before implicit taint. -/
lemma ofSeeds_sorted : (ofSeeds g seeds).tags.Pairwise fun t u => u.kind ≤ t.kind := by
  obtain ⟨new, htags, implicit⟩ := ofSeeds_tags g seeds
  rw [htags, List.pairwise_append]
  refine ⟨?_, ?_, ?_⟩
  · apply List.pairwise_of_forall_mem_list
    intro t ht u _
    rw [directPhase_direct g seeds t ht]
    exact u.kind.le_direct
  · apply List.pairwise_of_forall_mem_list
    intro t _ u hu
    rw [implicit u hu]
    exact t.kind.implicit_le
  · intro t ht u _
    rw [directPhase_direct g seeds t ht]
    exact u.kind.le_direct

/-- So the leaks by data edges are told before those by control edges. -/
lemma leaks_sorted : (ofSeeds g seeds).leaks.Pairwise fun leak later => later.kind ≤ leak.kind := by
  rw [leaks_eq]
  apply List.Pairwise.filterMap (ofSeeds g seeds).shown? _ (ofSeeds_sorted g seeds)
  intro t u le leak found later found'
  obtain ⟨-, -, -, -, -, rfl⟩ := shown?_eq_some.1 found
  obtain ⟨-, -, -, -, -, rfl⟩ := shown?_eq_some.1 found'
  exact le

/-- Every tagged node is visited once. -/
lemma ofSeeds_rounds : (ofSeeds g seeds).rounds = (ofSeeds g seeds).tags.length := by
  have inv := ((again_inv g seeds).visits_run (Spread.phase_allEdges g seeds) (bound g seeds)).1
  exact (inv.settled (implicitPhase_over g seeds)).2

/-- A node with taint is a node of the graph or a seed. -/
lemma length_tags_le : (ofSeeds g seeds).tags.length ≤ (g.nodes ++ seeds).toFinset.card := by
  have grown := ofSeeds_grown g seeds
  rw [← List.length_map (f := Tag.node), ← List.toFinset_card_of_nodup grown.nodup]
  apply Finset.card_le_card
  intro n hn
  rw [List.mem_toFinset] at hn ⊢
  obtain ⟨tag, mem, rfl⟩ := List.mem_map.1 hn
  cases List.mem_append.1 (grown.origin tag mem) with
  | inl seed => exact List.mem_append_right _ seed
  | inr target =>
    obtain ⟨e, he, same⟩ := List.mem_map.1 target
    exact List.mem_append_left _ (Graph.mem_nodes.2 ⟨e, he, .inr same.symm⟩)

variable {g seeds}

/-- No tag is ever replaced: none is offered that is stronger than the one there is, and those that
are there at any moment are there in the end. -/
lemma Offered.kept {s t} (h : Offered g seeds s t) :
    (∀ old, s.tag? t.node = some old → t.kind ≤ old.kind) ∧ s.tags <+: (ofSeeds g seeds).tags := by
  have later : (directPhase g seeds).tags <+: (ofSeeds g seeds).tags :=
    (implicitPhase_spec g seeds).2.2.2
  cases h with
  | @seed front n back split ne =>
    obtain ⟨seeded, ext⟩ := start_append g front (n :: back)
    constructor
    · intro old found
      have mem := List.mem_of_find?_eq_some found
      rw [seeded.bare old mem]
      exact FlowKind.le_direct _
    · obtain ⟨new, htags, -, -⟩ := ext
      rw [← split] at htags
      have started := (Spread.start_inv g seeds).tags_run (Spread.phase_dataOnly g seeds) 0
        (directPhase_over g seeds)
      apply List.IsPrefix.trans _ (started.trans later)
      show _ <+: (Spread.start seeds).tags
      rw [htags]
      exact List.prefix_append _ _
  | direct h =>
    obtain ⟨weaker, stays⟩ := (Spread.start_inv g seeds).offers (Spread.phase_dataOnly g seeds) h
      (directPhase_over g seeds)
    exact ⟨weaker, stays.trans later⟩
  | implicit h =>
    exact (again_inv g seeds).offers (Spread.phase_allEdges g seeds) h (implicitPhase_over g seeds)

end Phases

/-- What is known about the course of a propagation. -/
structure Orderly (g : Graph) (seeds : List Node) : Prop where
  /-- Both phases end with nothing left to visit, and make no more visits than they may make. -/
  ends : (directPhase g seeds).queue = [] ∧ (implicitPhase g seeds).queue = [] ∧
    ∀ limit, bound g seeds ≤ limit →
      (Spread.start seeds).run g Spread.dataOnly limit = directPhase g seeds ∧
        (directPhase g seeds).again.run g Spread.allEdges limit = implicitPhase g seeds
  /-- Each phase visits every node that has a tag in the end, in the order of discovery. -/
  visits :
    Spread.visited g Spread.dataOnly (bound g seeds) (Spread.start seeds) =
        (directPhase g seeds).tags.map Tag.node ∧
      Spread.visited g Spread.allEdges (bound g seeds) (directPhase g seeds).again =
        (ofSeeds g seeds).tags.map Tag.node
  /-- The order of discovery has every node with taint, each once, and no other node; so none is
  left out when the nodes are looked up in this order. -/
  order : (ofSeeds g seeds).order = (ofSeeds g seeds).tags.map Tag.node ∧
    (ofSeeds g seeds).order.Nodup ∧
    (∀ n, n ∈ (ofSeeds g seeds).order ↔ ∃ kind, (ofSeeds g seeds).kindOf? n = some kind) ∧
    (ofSeeds g seeds).tainted = (ofSeeds g seeds).tags.map fun tag => (tag.node, tag.kind)
  /-- The seeds are those that were given, the shared state apart. -/
  origins : ∀ n, n ∈ (ofSeeds g seeds).seeds ↔ n ∈ seeds ∧ n ≠ .boundary .statics
  /-- Direct taint is discovered before implicit taint. -/
  sorted : (ofSeeds g seeds).tags.Pairwise fun t u => u.kind ≤ t.kind
  /-- No tag is replaced: whenever one is offered, the node has none or one that is as strong, and
  all tags that there are at that moment stay. -/
  kept : ∀ s t, Offered g seeds s t →
    (∀ old, s.tag? t.node = some old → t.kind ≤ old.kind) ∧ s.tags <+: (ofSeeds g seeds).tags
  /-- There are as many visits as nodes with taint. -/
  rounds : (ofSeeds g seeds).rounds = (ofSeeds g seeds).tags.length ∧
    (ofSeeds g seeds).rounds ≤ (g.nodes ++ seeds).toFinset.card
  /-- Direct leaks are told before implicit ones. -/
  leaks : (ofSeeds g seeds).leaks.Pairwise fun leak later => later.kind ≤ leak.kind

/-- Every propagation ends after one visit to each node with taint in its second phase, and tags are
only ever added: each node keeps the first tag that it gets. -/
theorem ofSeeds_orderly (g : Graph) (seeds : List Node) : Orderly g seeds where
  ends := by
    refine ⟨directPhase_over g seeds, implicitPhase_over g seeds, fun limit enough => ?_⟩
    exact ⟨Spread.run_over (directPhase_over g seeds) enough,
      Spread.run_over (implicitPhase_over g seeds) enough⟩
  visits := by
    refine ⟨?_, ?_⟩
    · exact (Spread.start_inv g seeds).visited_run (Spread.phase_dataOnly g seeds)
        (directPhase_over g seeds)
    · exact (again_inv g seeds).visited_run (Spread.phase_allEdges g seeds)
        (implicitPhase_over g seeds)
  order := by
    have order := (ofSeeds g seeds).coherent.order
    refine ⟨order, ?_, fun n => ?_, tainted_eq _⟩
    · rw [order]
      exact (ofSeeds g seeds).coherent.distinct
    rw [order, List.mem_map]
    constructor
    · intro h
      obtain ⟨tag, mem, rfl⟩ := h
      exact ⟨tag.kind, kindOf?_eq_some.2 ⟨tag, mem, rfl, rfl⟩⟩
    · intro h
      obtain ⟨kind, h⟩ := h
      obtain ⟨tag, mem, hnode, -⟩ := kindOf?_eq_some.1 h
      exact ⟨tag, mem, hnode⟩
  origins := fun n => by
    rw [(ofSeeds g seeds).coherent.seeds]
    constructor
    · rintro ⟨tag, mem, rfl, seed⟩
      exact (via_eq_none mem).1 seed
    · intro h
      exact ⟨_, ofSeeds_seed h.1 h.2, rfl, rfl⟩
  sorted := ofSeeds_sorted g seeds
  kept := fun _ _ => Offered.kept
  rounds := by
    rw [ofSeeds_rounds]
    exact ⟨rfl, length_tags_le g seeds⟩
  leaks := leaks_sorted g seeds

end Taint

end InfoFlow
