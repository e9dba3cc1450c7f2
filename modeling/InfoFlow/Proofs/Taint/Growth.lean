import InfoFlow.Proofs.Listing
import InfoFlow.Proofs.Reachability
import InfoFlow.Taint

/-!
# How taint grows

The invariants of the two phases of a propagation. `Grown` says how a list of tags comes about:
each tag belongs to a seed, or an edge leads to its node from a node that was tagged before. A
`Phase` is a rule together with a property of the tags under which no tag is ever replaced by a
stronger one, so that tags are only added at the end. `Spread.Visit` says all that a visit of a
phase does, and `Spread.Inv` is what holds between two visits; `Spread.Inv.step` shows that a visit
keeps it and `Spread.Inv.run` that a run does, up to an empty queue.

The results about a whole propagation are `Taint.ofSeeds_grown`, `Taint.ofSeeds_dataClosed`,
`Taint.ofSeeds_settled` and `Taint.ofSeeds_seed`.
-/

namespace InfoFlow

/-- Nothing is stronger than a direct flow. -/
lemma FlowKind.le_direct (kind : FlowKind) : kind ≤ .direct := by
  cases kind <;> decide

/-- Nothing is weaker than an implicit flow. -/
lemma FlowKind.implicit_le (kind : FlowKind) : .implicit ≤ kind := by
  cases kind <;> decide

lemma FlowKind.eq_implicit {kind : FlowKind} (h : kind ≠ .direct) : kind = .implicit := by
  cases kind with
  | direct => exact absurd rfl h
  | implicit => rfl

/-- A node has one tag at most. -/
lemma Tag.unique {tags : List Tag} (nodup : (tags.map Tag.node).Nodup) {t u}
    (ht : t ∈ tags) (hu : u ∈ tags) (e : t.node = u.node) : t = u :=
  List.inj_on_of_nodup_map nodup ht hu e

/-- A node that was tagged before has no newer tag. -/
lemma Tag.old {tags new : List Tag} (nodup : ((tags ++ new).map Tag.node).Nodup) {t}
    (mem : t ∈ tags ++ new) (known : t.node ∈ tags.map Tag.node) : t ∈ tags := by
  obtain ⟨u, hu, hnode⟩ := List.mem_map.1 known
  have same := Tag.unique nodup (List.mem_append_left _ hu) mem hnode
  subst same
  exact hu

/-- The lists of tags that a propagation from the seeds can have found: each tag is that of a seed,
or an edge leads to its node from one tagged before, which is not the shared state. -/
inductive Grown (g : Graph) (seeds : List Node) : List Tag → Prop where
  | nil :
    Grown g seeds []
  | seed {tags n} :
    Grown g seeds tags →
    n ∈ seeds →
    n ≠ .boundary .statics →
    n ∉ tags.map Tag.node →
    Grown g seeds (tags ++ [⟨n, .direct, none⟩])
  | data {tags tag n} :
    Grown g seeds tags →
    tag ∈ tags →
    tag.node ≠ .boundary .statics →
    ⟨tag.node, n, .data⟩ ∈ g.edges →
    n ∉ tags.map Tag.node →
    Grown g seeds (tags ++ [⟨n, tag.kind, some tag.node⟩])
  | control {tags tag n} :
    Grown g seeds tags →
    tag ∈ tags →
    tag.node ≠ .boundary .statics →
    ⟨tag.node, n, .control⟩ ∈ g.edges →
    n ∉ tags.map Tag.node →
    Grown g seeds (tags ++ [⟨n, .implicit, some tag.node⟩])

/-- No node is tagged twice. -/
lemma Grown.nodup {g seeds tags} (grown : Grown g seeds tags) : (tags.map Tag.node).Nodup := by
  induction grown with
  | nil => exact .nil
  | seed _ _ _ fresh ih => rw [List.map_append]; exact nodup_snoc ih fresh
  | data _ _ _ _ fresh ih => rw [List.map_append]; exact nodup_snoc ih fresh
  | control _ _ _ _ fresh ih => rw [List.map_append]; exact nodup_snoc ih fresh

/-- What holds of a new tag of a seed, is handed on to a new tag along data edges and along control
edges, and is not undone by later tags, holds of every tag. -/
lemma Grown.forall_mem {g seeds tags} {Q : List Tag → Tag → Prop} (grown : Grown g seeds tags)
    (append : ∀ tags tag t, Q tags tag → Q (tags ++ [t]) tag)
    (seed : ∀ tags n, n ∈ seeds → n ≠ .boundary .statics →
      Q (tags ++ [⟨n, .direct, none⟩]) ⟨n, .direct, none⟩)
    (data : ∀ tags tag n, tag ∈ tags → Q tags tag → tag.node ≠ .boundary .statics →
      ⟨tag.node, n, .data⟩ ∈ g.edges → n ∉ tags.map Tag.node →
      Q (tags ++ [⟨n, tag.kind, some tag.node⟩]) ⟨n, tag.kind, some tag.node⟩)
    (control : ∀ tags tag n, tag ∈ tags → Q tags tag → tag.node ≠ .boundary .statics →
      ⟨tag.node, n, .control⟩ ∈ g.edges → n ∉ tags.map Tag.node →
      Q (tags ++ [⟨n, .implicit, some tag.node⟩]) ⟨n, .implicit, some tag.node⟩) :
    ∀ tag ∈ tags, Q tags tag := by
  induction grown with
  | nil => exact nofun
  | seed _ hs ne _ ih =>
    intro tag mem
    rw [List.mem_append, List.mem_singleton] at mem
    cases mem with
    | inl mem => exact append _ _ _ (ih tag mem)
    | inr e => subst e; exact seed _ _ hs ne
  | data _ hm ne step fresh ih =>
    intro tag mem
    rw [List.mem_append, List.mem_singleton] at mem
    cases mem with
    | inl mem => exact append _ _ _ (ih tag mem)
    | inr e => subst e; exact data _ _ _ hm (ih _ hm) ne step fresh
  | control _ hm ne step fresh ih =>
    intro tag mem
    rw [List.mem_append, List.mem_singleton] at mem
    cases mem with
    | inl mem => exact append _ _ _ (ih tag mem)
    | inr e => subst e; exact control _ _ _ hm (ih _ hm) ne step fresh

/-- A tagged node is a seed or the target of an edge. -/
lemma Grown.origin {g seeds tags} (grown : Grown g seeds tags) :
    ∀ tag ∈ tags, tag.node ∈ seeds ++ g.edges.map Edge.target := by
  apply grown.forall_mem (Q := fun _ tag => tag.node ∈ seeds ++ g.edges.map Edge.target)
  · intro _ _ _ h
    exact h
  · intro _ n hn _
    exact List.mem_append_left _ hn
  · intro _ tag n _ _ _ step _
    exact List.mem_append_right _ (List.mem_map_of_mem (f := Edge.target) step)
  · intro _ tag n _ _ _ step _
    exact List.mem_append_right _ (List.mem_map_of_mem (f := Edge.target) step)

/-- There are no more tags than a propagation may make visits. -/
lemma Grown.length_le {g seeds tags} (grown : Grown g seeds tags) :
    tags.length ≤ Taint.bound g seeds := by
  have sub : tags.map Tag.node ⊆ seeds ++ g.edges.map Edge.target := by
    intro n hn
    obtain ⟨tag, mem, rfl⟩ := List.mem_map.1 hn
    exact grown.origin tag mem
  have le := (List.subperm_of_subset grown.nodup sub).length_le
  rw [List.length_append, List.length_map, List.length_map] at le
  unfold Taint.bound
  omega

namespace Spread

/-- An edge carries taint of the given kind from a tagged node to `n`. Nothing is carried out of the
shared state. -/
def Carries (g : Graph) (rule : Rule) (tag : Tag) (n : Node) (kind : FlowKind) : Prop :=
  tag.node ≠ .boundary .statics ∧ ∃ e, ⟨tag.node, n, e⟩ ∈ g.edges ∧ rule e tag.kind = some kind

/-- In the second phase taint passes every edge that does not leave the shared state. -/
lemma carries_allEdges {g : Graph} {tag n} (ne : tag.node ≠ .boundary .statics)
    (step : g.AnyEdge tag.node n) : ∃ kind, Carries g allEdges tag n kind := by
  obtain ⟨e, step⟩ := step
  cases e with
  | data => exact ⟨tag.kind, ne, .data, step, rfl⟩
  | control => exact ⟨.implicit, ne, .control, step, rfl⟩

/-- Whatever a tag carries has arrived. -/
def Settled (g : Graph) (rule : Rule) (tags : List Tag) : Prop :=
  ∀ tag ∈ tags, ∀ n kind, Carries g rule tag n kind → ∃ t ∈ tags, t.node = n ∧ kind ≤ t.kind

/-- A property of lists of tags under which the rule never asks for a stronger tag than there is,
and that a new tag keeps. -/
structure Phase (g : Graph) (rule : Rule) (P : List Tag → Prop) : Prop where
  nodup {tags} : P tags → (tags.map Tag.node).Nodup
  keeps {tags tag n kind old} : P tags → tag ∈ tags → Carries g rule tag n kind →
    old ∈ tags → old.node = n → kind ≤ old.kind
  extend {tags tag n kind} : P tags → tag ∈ tags → Carries g rule tag n kind →
    n ∉ tags.map Tag.node → P (tags ++ [⟨n, kind, some tag.node⟩])

/-- `r` is `s` with more tags, whose nodes wait for their visits. -/
def Extends (s r : Spread) : Prop :=
  ∃ new, r.tags = s.tags ++ new ∧ r.queue = s.queue ++ new.map Tag.node ∧ r.visits = s.visits

lemma Extends.refl (s : Spread) : Extends s s :=
  ⟨[], by simp, by simp, rfl⟩

/-- A spread that goes on twice goes on. -/
lemma Extends.trans {s r q : Spread} (h1 : Extends s r) (h2 : Extends r q) : Extends s q := by
  obtain ⟨new1, ht1, hq1, hv1⟩ := h1
  obtain ⟨new2, ht2, hq2, hv2⟩ := h2
  refine ⟨new1 ++ new2, ?_, ?_, hv2.trans hv1⟩
  · rw [ht2, ht1, List.append_assoc]
  · rw [hq2, hq1, List.map_append, List.append_assoc]

/-- Tags are not lost. -/
lemma Extends.mem {s r : Spread} (h : Extends s r) {tag} (mem : tag ∈ s.tags) : tag ∈ r.tags := by
  obtain ⟨new, ht, -, -⟩ := h
  rw [ht]
  exact List.mem_append_left _ mem

section Offers

variable {s : Spread} {t : Tag} {sound : t.via = none → t.kind = .direct}

/-- A tag that is as strong is kept, and its node is not visited for this. -/
lemma offer_old {old} (found : s.tag? t.node = some old) (le : t.kind ≤ old.kind) :
    s.offer t sound = s := by
  have same := Tracker.take_old found le
  obtain ⟨tracker, queue, visits, coherent⟩ := s
  simp [offer, same]

/-- An offer that is taken adds its tag at the end. -/
lemma tags_offer (missing : s.tag? t.node = none) : (s.offer t sound).tags = s.tags ++ [t] := by
  show (s.take t).2.tags = _
  rw [Tracker.take_new missing]

/-- An offer that is taken has its node visited. -/
lemma queue_offer (missing : s.tag? t.node = none) :
    (s.offer t sound).queue = s.queue ++ [t.node] := by
  simp [offer, Tracker.take_new missing]

/-- An offer that is taken goes on from the spread. -/
lemma Extends.offer (missing : s.tag? t.node = none) : Extends s (s.offer t sound) :=
  ⟨[t], tags_offer missing, queue_offer missing, rfl⟩

/-- An offer brings in no other tag than the one that is offered. -/
lemma mem_offer {u} (mem : u ∈ (s.offer t sound).tags) : u ∈ s.tags ∨ u = t := by
  cases found : s.tag? t.node with
  | none =>
    rw [tags_offer found] at mem
    simpa using mem
  | some old =>
    by_cases weaker : t.kind ≤ old.kind
    · rw [offer_old found weaker] at mem
      exact .inl mem
    · have mem : u ∈ (s.take t).2.tags := mem
      rw [Tracker.take_stronger found weaker] at mem
      obtain ⟨v, hv, e⟩ := List.mem_map.1 mem
      by_cases same : v.node = t.node
      · rw [if_pos same] at e
        exact .inr e.symm
      · rw [if_neg same] at e
        exact .inl (e ▸ hv)

end Offers

/-- What is tagged by following edges came from the node that they leave. -/
lemma mem_followAll {rule : Rule} {n kind u} {edges : List (Node × EdgeKind)} {s : Spread}
    (mem : u ∈ (edges.foldl (follow rule n kind) s).tags) : u ∈ s.tags ∨ u.via = some n := by
  induction edges generalizing s with
  | nil => exact .inl mem
  | cons edge edges ih =>
    cases ih mem with
    | inr via => exact .inr via
    | inl mem =>
      unfold follow at mem
      cases hrule : rule edge.2 kind with
      | none =>
        rw [hrule] at mem
        exact .inl mem
      | some kind =>
        rw [hrule] at mem
        cases mem_offer mem with
        | inl mem => exact .inl mem
        | inr e => exact .inr (e ▸ rfl)

section Phase

variable {g : Graph} {rule : Rule} {P : List Tag → Prop}

/-- Following one edge keeps the property of the phase, adds tags only at the end, and what the edge
carries has arrived afterwards. -/
lemma Phase.follow (phase : Phase g rule P) {s : Spread} {tag} {edge : Node × EdgeKind}
    (holds : P s.tags) (mem : tag ∈ s.tags) (ne : tag.node ≠ .boundary .statics)
    (step : ⟨tag.node, edge.1, edge.2⟩ ∈ g.edges) :
    P (follow rule tag.node tag.kind s edge).tags ∧
    Extends s (follow rule tag.node tag.kind s edge) ∧
    ∀ kind, rule edge.2 tag.kind = some kind →
      ∃ t ∈ (follow rule tag.node tag.kind s edge).tags, t.node = edge.1 ∧ kind ≤ t.kind := by
  unfold Spread.follow
  cases hrule : rule edge.2 tag.kind with
  | none => exact ⟨holds, .refl s, nofun⟩
  | some kind =>
    have carries : Carries g rule tag edge.1 kind := ⟨ne, edge.2, step, hrule⟩
    cases found : s.tag? edge.1 with
    | none =>
      have fresh := find?_key_none.1 found
      have tags : (s.offer ⟨edge.1, kind, some tag.node⟩ nofun).tags = _ := tags_offer found
      refine ⟨?_, .offer found, ?_⟩
      · simp only [tags]
        exact phase.extend holds mem carries fresh
      · rintro _ ⟨⟩
        simp only [tags]
        exact ⟨_, List.mem_append_right _ (List.mem_singleton_self _), rfl, Nat.le_refl _⟩
    | some old =>
      obtain ⟨hold, hnode⟩ := (find?_key (phase.nodup holds)).1 found
      have le := phase.keeps holds mem carries hold hnode
      have same : s.offer ⟨edge.1, kind, some tag.node⟩ nofun = s := offer_old found le
      simp only [same]
      refine ⟨holds, .refl s, ?_⟩
      rintro _ ⟨⟩
      exact ⟨old, hold, hnode, le⟩

/-- The same for a list of edges that leave one node. -/
lemma Phase.followAll (phase : Phase g rule P) {tag} {edges : List (Node × EdgeKind)}
    (ne : tag.node ≠ .boundary .statics)
    (steps : ∀ edge ∈ edges, ⟨tag.node, edge.1, edge.2⟩ ∈ g.edges) {s : Spread}
    (holds : P s.tags) (mem : tag ∈ s.tags) :
    P (edges.foldl (Spread.follow rule tag.node tag.kind) s).tags ∧
    Extends s (edges.foldl (Spread.follow rule tag.node tag.kind) s) ∧
    ∀ edge ∈ edges, ∀ kind, rule edge.2 tag.kind = some kind →
      ∃ t ∈ (edges.foldl (Spread.follow rule tag.node tag.kind) s).tags,
        t.node = edge.1 ∧ kind ≤ t.kind := by
  induction edges generalizing s with
  | nil => exact ⟨holds, .refl s, nofun⟩
  | cons edge edges ih =>
    obtain ⟨holds1, ext1, arrived1⟩ :=
      phase.follow holds mem ne (steps edge (List.mem_cons_self ..))
    obtain ⟨holds2, ext2, arrived2⟩ :=
      ih (fun e he => steps e (List.mem_cons_of_mem _ he)) holds1 (ext1.mem mem)
    rw [List.foldl_cons]
    refine ⟨holds2, ext1.trans ext2, ?_⟩
    intro e he kind hkind
    cases he with
    | head =>
      obtain ⟨t, ht, hnode, le⟩ := arrived1 kind hkind
      exact ⟨t, ext2.mem ht, hnode, le⟩
    | tail _ he => exact arrived2 e he kind hkind

/-- Visiting a node keeps the property of the phase, adds tags only at the end, and what the node
carries has arrived afterwards. -/
lemma Phase.expand (phase : Phase g rule P) {s : Spread} {tag} (holds : P s.tags)
    (mem : tag ∈ s.tags) :
    P (s.expand g rule tag.node).tags ∧ Extends s (s.expand g rule tag.node) ∧
    (∀ t ∈ (s.expand g rule tag.node).tags, t ∈ s.tags ∨ t.via = some tag.node) ∧
    ∀ n kind, Carries g rule tag n kind →
      ∃ t ∈ (s.expand g rule tag.node).tags, t.node = n ∧ kind ≤ t.kind := by
  unfold Spread.expand
  by_cases barrier : tag.node = .boundary .statics
  · rw [if_pos barrier]
    exact ⟨holds, .refl s, fun _ => .inl, fun n kind carries => absurd barrier carries.1⟩
  · rw [if_neg barrier]
    have found : s.tag? tag.node = some tag :=
      (find?_key (phase.nodup holds)).2 ⟨mem, rfl⟩
    simp only [found]
    have steps : ∀ edge ∈ g.successors tag.node, ⟨tag.node, edge.1, edge.2⟩ ∈ g.edges :=
      fun edge he => Graph.mem_successors.1 he
    obtain ⟨holds', ext, arrived⟩ := phase.followAll barrier steps holds mem
    refine ⟨holds', ext, fun t => mem_followAll, ?_⟩
    rintro n kind ⟨-, e, step, hrule⟩
    exact arrived (n, e) (Graph.mem_successors.2 step) kind hrule

/-- `r` is `s` after a visit to the node of `tag`, in which the tags `new` were found. -/
structure Visit (g : Graph) (rule : Rule) (tag : Tag) (new : List Tag) (s r : Spread) : Prop where
  tags : r.tags = s.tags ++ new
  queue : s.queue ++ new.map Tag.node = tag.node :: r.queue
  visits : r.visits = s.visits + 1
  fresh : ∀ t ∈ new, t ∉ s.tags
  via : ∀ t ∈ new, t.via = some tag.node
  arrived : ∀ n kind, Carries g rule tag n kind → ∃ t ∈ r.tags, t.node = n ∧ kind ≤ t.kind

/-- A step is a visit to the first node of the queue, and it keeps the property of the phase. -/
lemma Phase.visit (phase : Phase g rule P) {s : Spread} {tag queue} (holds : P s.tags)
    (mem : tag ∈ s.tags) (head : s.queue = tag.node :: queue) :
    P (s.step g rule).tags ∧ ∃ new, Visit g rule tag new s (s.step g rule) := by
  have e : s.step g rule =
      Spread.expand g rule { s with queue := queue, visits := s.visits + 1 } tag.node := by
    unfold Spread.step
    rw [head]
  obtain ⟨holds', ⟨new, ht, hq, hv⟩, origin, arrived⟩ :=
    phase.expand (s := { s with queue := queue, visits := s.visits + 1 }) holds mem
  rw [← e] at holds' ht hq hv origin arrived
  have fresh : ∀ t ∈ new, t ∉ s.tags := by
    intro t ht' old
    have nodup := phase.nodup holds'
    rw [ht, List.map_append] at nodup
    exact List.disjoint_of_nodup_append nodup (List.mem_map_of_mem old) (List.mem_map_of_mem ht')
  refine ⟨holds', new, ht, ?_, hv, fresh, ?_, arrived⟩
  · rw [head, hq]
    rfl
  · intro t ht'
    apply (origin t _).resolve_left (fresh t ht')
    rw [ht]
    exact List.mem_append_right _ ht'

/-- What holds in a phase after the nodes in `done` were visited: these are the first tagged nodes,
the others wait in the order of their tags, and all that the visited nodes carry has arrived. -/
structure Inv (g : Graph) (rule : Rule) (P : List Tag → Prop) (done : List Node) (s : Spread) :
    Prop where
  holds : P s.tags
  order : s.tags.map Tag.node = done ++ s.queue
  visits : s.visits = done.length
  arrived : ∀ tag ∈ s.tags, tag.node ∈ done → ∀ n kind, Carries g rule tag n kind →
    ∃ t ∈ s.tags, t.node = n ∧ kind ≤ t.kind

/-- A step visits the first node that waits, and keeps the invariant. -/
lemma Inv.step (phase : Phase g rule P) {done s n queue} (inv : Inv g rule P done s)
    (head : s.queue = n :: queue) :
    Inv g rule P (done ++ [n]) (s.step g rule) ∧ s.tags <+: (s.step g rule).tags := by
  have tagged : n ∈ s.tags.map Tag.node := by
    rw [inv.order, head]
    exact List.mem_append_right _ (List.mem_cons_self ..)
  obtain ⟨tag, mem, rfl⟩ := List.mem_map.1 tagged
  obtain ⟨holds, new, visit⟩ := phase.visit inv.holds mem head
  have sub : s.tags <+: (s.step g rule).tags := by
    rw [visit.tags]
    exact List.prefix_append _ _
  refine ⟨⟨holds, ?_, ?_, ?_⟩, sub⟩
  · rw [visit.tags, List.map_append, inv.order, List.append_assoc, visit.queue]
    simp
  · rw [visit.visits, inv.visits]
    simp
  · intro t mem' visited n kind carries
    have nodup := phase.nodup holds
    rw [List.mem_append, List.mem_singleton] at visited
    cases visited with
    | inl visited =>
      -- a node that was visited before has its old tag, and so have those that it reaches
      have known : t.node ∈ s.tags.map Tag.node := by
        rw [inv.order]
        exact List.mem_append_left _ visited
      rw [visit.tags] at nodup mem'
      have old := Tag.old nodup mem' known
      obtain ⟨u, hu, hnode, le⟩ := inv.arrived t old visited n kind carries
      exact ⟨u, sub.subset hu, hnode, le⟩
    | inr e =>
      have same := Tag.unique nodup mem' (sub.subset mem) e
      subst same
      exact visit.arrived n kind carries

end Phase

section Runs

variable {g : Graph} {rule : Rule}

/-- The nodes that a run visits, one after the other. -/
def visited (g : Graph) (rule : Rule) : Nat → Spread → List Node
  | 0, _ => []
  | bound + 1, s =>
    match s.queue with
    | [] => []
    | n :: _ => n :: visited g rule bound (s.step g rule)

/-- What every visit keeps, a run keeps. -/
lemma run_keeps {I : List Node → Spread → Prop}
    (step : ∀ {done s n queue}, I done s → s.queue = n :: queue → I (done ++ [n]) (s.step g rule))
    {done s} (h : I done s) (bound : Nat) :
    I (done ++ visited g rule bound s) (s.run g rule bound) := by
  induction bound generalizing done s with
  | zero =>
    show I (done ++ []) s
    rw [List.append_nil]
    exact h
  | succ bound ih =>
    unfold visited run
    cases head : s.queue with
    | nil =>
      simp only [List.append_nil]
      exact h
    | cons n queue =>
      have rest := ih (step h head)
      rw [List.append_assoc] at rest
      exact rest

/-- A run that is not over has made all visits that it may make. -/
lemma length_visited {bound s} (pending : (Spread.run g rule bound s).queue ≠ []) :
    (visited g rule bound s).length = bound := by
  induction bound generalizing s with
  | zero => rfl
  | succ bound ih =>
    unfold visited
    unfold run at pending
    cases head : s.queue with
    | nil =>
      rw [head] at pending
      exact absurd head pending
    | cons n queue =>
      rw [head] at pending
      rw [List.length_cons, ih pending]

end Runs

section Phase

variable {g : Graph} {rule : Rule} {P : List Tag → Prop}

/-- A run keeps the invariant, and the tags that it starts with. -/
lemma Inv.visits_run (phase : Phase g rule P) {done s} (inv : Inv g rule P done s) (bound : Nat) :
    Inv g rule P (done ++ visited g rule bound s) (s.run g rule bound) ∧
      s.tags <+: (s.run g rule bound).tags := by
  apply run_keeps (I := fun done r => Inv g rule P done r ∧ s.tags <+: r.tags)
  · intro done r n queue h head
    obtain ⟨inv', sub⟩ := h.1.step phase head
    exact ⟨inv', h.2.trans sub⟩
  · exact ⟨inv, List.prefix_refl _⟩

/-- A run that may make enough visits ends with an empty queue. -/
lemma Inv.run (phase : Phase g rule P) {limit} (limited : ∀ tags, P tags → tags.length ≤ limit)
    (bound : Nat) {done s} (inv : Inv g rule P done s) (enough : limit ≤ done.length + bound) :
    ∃ done', Inv g rule P done' (s.run g rule bound) ∧ (s.run g rule bound).queue = [] ∧
      s.tags <+: (s.run g rule bound).tags := by
  obtain ⟨inv', sub⟩ := inv.visits_run phase bound
  refine ⟨_, inv', ?_, sub⟩
  by_contra pending
  -- the visited nodes and a waiting one are more nodes than can be tagged
  have le := limited _ inv'.holds
  have len := congrArg List.length inv'.order
  rw [List.length_map, List.length_append, List.length_append, length_visited pending] at len
  have pos := List.length_pos_iff.2 pending
  omega

/-- After a run with an empty queue every tagged node was visited, so everything has settled. -/
lemma Inv.settled {done s} (inv : Inv g rule P done s) (empty : s.queue = []) :
    Settled g rule s.tags ∧ s.visits = s.tags.length := by
  have order := inv.order
  rw [empty, List.append_nil] at order
  constructor
  · intro tag mem
    exact inv.arrived tag mem (order ▸ List.mem_map_of_mem mem)
  · rw [inv.visits, ← order, List.length_map]

end Phase

/-- What holds while the seeds are tagged: every tag is that of a seed. -/
structure Seeded (g : Graph) (seeds : List Node) (s : Spread) : Prop where
  grown : Grown g seeds s.tags
  bare : ∀ tag ∈ s.tags, tag = ⟨tag.node, .direct, none⟩
  order : s.tags.map Tag.node = s.queue
  visits : s.visits = 0

lemma Seeded.idle (g : Graph) (seeds : List Node) : Seeded g seeds .idle :=
  ⟨.nil, fun _ mem => absurd mem List.not_mem_nil, rfl, rfl⟩

/-- One more seed. -/
lemma Seeded.seed {g seeds s n} (seeded : Seeded g seeds s) (hn : n ∈ seeds)
    (ne : n ≠ .boundary .statics) :
    Seeded g seeds (s.seed n) ∧ Extends s (s.seed n) ∧
      ⟨n, .direct, none⟩ ∈ (s.seed n).tags := by
  unfold Spread.seed
  cases found : s.tag? n with
  | none =>
    have fresh := find?_key_none.1 found
    have tags : (s.offer ⟨n, .direct, none⟩ fun _ => rfl).tags = _ := tags_offer found
    refine ⟨?_, .offer found, ?_⟩
    · refine ⟨?_, ?_, ?_, seeded.visits⟩
      · rw [tags]
        exact .seed seeded.grown hn ne fresh
      · intro tag mem
        rw [tags, List.mem_append, List.mem_singleton] at mem
        cases mem with
        | inl mem => exact seeded.bare tag mem
        | inr e => rw [e]
      · rw [tags, queue_offer found, List.map_append, seeded.order]
        rfl
    · rw [tags]
      exact List.mem_append_right _ (List.mem_singleton_self _)
  | some old =>
    obtain ⟨hold, hnode⟩ := (find?_key seeded.grown.nodup).1 found
    have e := seeded.bare old hold
    rw [hnode] at e
    subst e
    rw [offer_old (t := ⟨n, .direct, none⟩) found (Nat.le_refl _)]
    exact ⟨seeded, .refl s, hold⟩

/-- All seeds. -/
lemma Seeded.seedAll {g seeds s} {ns : List Node} (seeded : Seeded g seeds s)
    (sub : ∀ n ∈ ns, n ∈ seeds ∧ n ≠ .boundary .statics) :
    Seeded g seeds (ns.foldl Spread.seed s) ∧ Extends s (ns.foldl Spread.seed s) ∧
    ∀ n ∈ ns, ⟨n, .direct, none⟩ ∈ (ns.foldl Spread.seed s).tags := by
  induction ns generalizing s with
  | nil => exact ⟨seeded, .refl s, nofun⟩
  | cons n ns ih =>
    obtain ⟨hn, ne⟩ := sub n (List.mem_cons_self ..)
    obtain ⟨seeded1, ext1, mem1⟩ := seeded.seed hn ne
    obtain ⟨seeded2, ext2, mem2⟩ := ih seeded1 (fun m hm => sub m (List.mem_cons_of_mem _ hm))
    rw [List.foldl_cons]
    refine ⟨seeded2, ext1.trans ext2, ?_⟩
    intro m hm
    cases hm with
    | head => exact ext2.mem mem1
    | tail _ hm => exact mem2 m hm

/-- Before any visit the seeds are tagged as such, and nothing else is tagged. -/
lemma start_seeded (g : Graph) (seeds : List Node) :
    Seeded g seeds (start seeds) ∧
    ∀ n ∈ seeds, n ≠ .boundary .statics → ⟨n, .direct, none⟩ ∈ (start seeds).tags := by
  have sub : ∀ n ∈ seeds.filter (· ≠ .boundary .statics), n ∈ seeds ∧ n ≠ .boundary .statics := by
    intro n hn
    simpa using hn
  obtain ⟨seeded, -, all⟩ := (Seeded.idle g seeds).seedAll sub
  refine ⟨seeded, ?_⟩
  intro n hn ne
  exact all n (by simpa using ⟨hn, ne⟩)

end Spread

/-- Data edges lead from nodes with direct taint to nodes with direct taint only, the shared state
apart. -/
def DataClosed (g : Graph) (tags : List Tag) : Prop :=
  ∀ tag ∈ tags, tag.kind = .direct → tag.node ≠ .boundary .statics →
    ∀ n, g.DataEdge tag.node n → ∃ t ∈ tags, t.node = n ∧ t.kind = .direct

namespace Spread

/-- The first phase: there is no taint but direct taint. -/
lemma phase_dataOnly (g : Graph) (seeds : List Node) :
    Phase g dataOnly fun tags => Grown g seeds tags ∧ ∀ tag ∈ tags, tag.kind = .direct where
  nodup := fun holds => holds.1.nodup
  keeps := by
    intro tags tag n kind old holds _ _ hold _
    rw [holds.2 old hold]
    exact kind.le_direct
  extend := by
    rintro tags tag n kind ⟨grown, direct⟩ mem ⟨ne, e, step, hrule⟩ fresh
    cases e with
    | control => cases hrule
    | data =>
      cases hrule
      have next := Grown.data grown mem ne step fresh
      rw [direct tag mem] at next
      refine ⟨next, ?_⟩
      intro t ht
      rw [List.mem_append, List.mem_singleton] at ht
      cases ht with
      | inl ht => exact direct t ht
      | inr ht => rw [ht]

/-- The second phase: what direct taint carries along data edges is there already, so every new tag
is implicit. -/
lemma phase_allEdges (g : Graph) (seeds : List Node) :
    Phase g allEdges fun tags => Grown g seeds tags ∧ DataClosed g tags where
  nodup := fun holds => holds.1.nodup
  keeps := by
    rintro tags tag n kind old ⟨grown, closed⟩ mem ⟨ne, e, step, hrule⟩ hold hnode
    -- only a data edge hands on direct taint, and its target has that by `closed`
    by_cases hkind : kind = .direct
    · subst hkind
      cases e with
      | control => cases hrule
      | data =>
        obtain ⟨t, ht, htn, htk⟩ := closed tag mem (Option.some.inj hrule) ne n step
        have e := Tag.unique grown.nodup ht hold (htn.trans hnode.symm)
        subst e
        rw [htk]
        exact FlowKind.le_direct _
    · rw [FlowKind.eq_implicit hkind]
      exact FlowKind.implicit_le _
  extend := by
    rintro tags tag n kind ⟨grown, closed⟩ mem ⟨ne, e, step, hrule⟩ fresh
    have implicit : kind = .implicit := by
      apply FlowKind.eq_implicit
      rintro rfl
      cases e with
      | control => cases hrule
      | data =>
        obtain ⟨t, ht, htn, -⟩ := closed tag mem (Option.some.inj hrule) ne n step
        exact fresh (htn ▸ List.mem_map_of_mem ht)
    subst implicit
    constructor
    · cases e with
      | control => exact .control grown mem ne step fresh
      | data =>
        have next := Grown.data grown mem ne step fresh
        rw [Option.some.inj hrule] at next
        exact next
    · intro t ht hkind htne m hm
      rw [List.mem_append, List.mem_singleton] at ht
      cases ht with
      | inl ht =>
        obtain ⟨u, hu, hun, huk⟩ := closed t ht hkind htne m hm
        exact ⟨u, List.mem_append_left _ hu, hun, huk⟩
      | inr e =>
        subst e
        cases hkind

/-- The first phase starts with the seeds, none of which was visited. -/
lemma start_inv (g : Graph) (seeds : List Node) :
    Inv g dataOnly (fun tags => Grown g seeds tags ∧ ∀ tag ∈ tags, tag.kind = .direct) []
      (start seeds) := by
  obtain ⟨seeded, -⟩ := start_seeded g seeds
  exact {
    holds := ⟨seeded.grown, fun tag mem => by rw [seeded.bare tag mem]⟩
    order := seeded.order
    visits := seeded.visits
    arrived := fun _ _ mem => absurd mem List.not_mem_nil }

end Spread

namespace Taint

/-- After the first phase all taint is direct, it has settled, and the seeds are tagged as such. -/
lemma directPhase_spec (g : Graph) (seeds : List Node) :
    Grown g seeds (directPhase g seeds).tags ∧ DataClosed g (directPhase g seeds).tags ∧
    (∀ n ∈ seeds, n ≠ .boundary .statics → ⟨n, .direct, none⟩ ∈ (directPhase g seeds).tags) := by
  obtain ⟨done, inv', empty, sub⟩ := (Spread.start_inv g seeds).run (Spread.phase_dataOnly g seeds)
    (fun tags holds => holds.1.length_le) (bound g seeds) (by simp)
  obtain ⟨settled, -⟩ := inv'.settled empty
  refine ⟨inv'.holds.1, ?_, ?_⟩
  · intro tag mem _ ne n step
    obtain ⟨t, ht, hnode, -⟩ := settled tag mem n .direct ⟨ne, .data, step, rfl⟩
    exact ⟨t, ht, hnode, inv'.holds.2 t ht⟩
  · intro n hn ne
    exact sub.subset ((Spread.start_seeded g seeds).2 n hn ne)

/-- The second phase starts with what the first one found, and visits all of it. -/
lemma again_inv (g : Graph) (seeds : List Node) :
    Spread.Inv g Spread.allEdges (fun tags => Grown g seeds tags ∧ DataClosed g tags) []
      (directPhase g seeds).again := by
  obtain ⟨grown, closed, -⟩ := directPhase_spec g seeds
  exact {
    holds := ⟨grown, closed⟩
    order := (directPhase g seeds).coherent.order.symm
    visits := rfl
    arrived := fun _ _ mem => absurd mem List.not_mem_nil }

/-- The second phase keeps the tags of the first one, adds its own at the end, and settles. -/
lemma implicitPhase_spec (g : Graph) (seeds : List Node) :
    Grown g seeds (implicitPhase g seeds).tags ∧ DataClosed g (implicitPhase g seeds).tags ∧
    Spread.Settled g Spread.allEdges (implicitPhase g seeds).tags ∧
    (directPhase g seeds).tags <+: (implicitPhase g seeds).tags := by
  obtain ⟨done, inv', empty, sub⟩ := (again_inv g seeds).run (Spread.phase_allEdges g seeds)
    (fun tags holds => holds.1.length_le) (bound g seeds) (by simp)
  exact ⟨inv'.holds.1, inv'.holds.2, (inv'.settled empty).1, sub⟩

/-- Every tag of a propagation has a reason. -/
lemma ofSeeds_grown (g : Graph) (seeds : List Node) : Grown g seeds (ofSeeds g seeds).tags :=
  (implicitPhase_spec g seeds).1

/-- Direct taint does not end before a data edge. -/
lemma ofSeeds_dataClosed (g : Graph) (seeds : List Node) :
    DataClosed g (ofSeeds g seeds).tags :=
  (implicitPhase_spec g seeds).2.1

/-- Taint does not end before an edge of any kind. -/
lemma ofSeeds_settled (g : Graph) (seeds : List Node) :
    Spread.Settled g Spread.allEdges (ofSeeds g seeds).tags :=
  (implicitPhase_spec g seeds).2.2.1

/-- A seed has a direct tag without a predecessor, unless it is the statics. -/
lemma ofSeeds_seed {g seeds n} (hn : n ∈ seeds) (ne : n ≠ .boundary .statics) :
    ⟨n, .direct, none⟩ ∈ (ofSeeds g seeds).tags :=
  (implicitPhase_spec g seeds).2.2.2.subset ((directPhase_spec g seeds).2.2 n hn ne)

end Taint

end InfoFlow
