import InfoFlow.Proofs.Taint.Leak

/-!
# Taint of matched graphs

Propagation tells nodes apart and looks at boundary nodes, and that is all it does with them. So if
the nodes of two graphs match one to one, and the boundary nodes match themselves (`Matching`), then
matched edges and seeds lead to matched tags, in the same order, and to matched leaks with matched
witnesses (`Matching.ofSeeds`, `Matching.leaks`).

Everything is stated for a relation between nodes rather than for a map, since nothing need be known
of the nodes that occur in neither graph.
-/

namespace InfoFlow

variable {R : Node → Node → Prop}

/-- The nodes match one to one, and boundary nodes match themselves. -/
structure Matching (R : Node → Node → Prop) : Prop where
  unique : Relator.BiUnique R
  boundary? : ∀ {n n'}, R n n' → n.boundary? = n'.boundary?

/-- The edges have the same kind and matched ends. -/
structure Edge.Matched (R : Node → Node → Prop) (e e' : Edge) : Prop where
  source : R e.source e'.source
  target : R e.target e'.target
  kind : e.kind = e'.kind

/-- The tags have the same kind, for matched nodes, and came from matched nodes. -/
structure Tag.Matched (R : Node → Node → Prop) (t t' : Tag) : Prop where
  node : R t.node t'.node
  kind : t.kind = t'.kind
  via : Option.Rel R t.via t'.via

/-- The propagations found matched tags in as many visits, and have matched nodes to visit. -/
structure Spread.Matched (R : Node → Node → Prop) (s s' : Spread) : Prop where
  tags : List.Forall₂ (Tag.Matched R) s.tags s'.tags
  queue : List.Forall₂ R s.queue s'.queue
  visits : s.visits = s'.visits

/-- The leaks have the same channel and kind, and matched witnesses. -/
structure Leak.Matched (R : Node → Node → Prop) (leak leak' : Leak) : Prop where
  channel : leak.channel = leak'.channel
  kind : leak.kind = leak'.kind
  witness : List.Forall₂ R leak.witness leak'.witness

/-- Looking up matched tables finds matched entries. -/
lemma rel_find? {α β : Type} {S : α → β → Prop} {p : α → Bool} {q : β → Bool}
    (same : ∀ {a b}, S a b → (p a = true ↔ q b = true)) {l l'} (h : List.Forall₂ S l l') :
    Option.Rel S (l.find? p) (l'.find? q) := by
  induction h with
  | nil => exact .none
  | @cons a b l l' hab _ ih =>
    by_cases hp : p a = true
    · rw [List.find?_cons_of_pos hp, List.find?_cons_of_pos ((same hab).1 hp)]
      exact .some hab
    · rw [List.find?_cons_of_neg hp, List.find?_cons_of_neg (fun hq => hp ((same hab).2 hq))]
      exact ih

namespace Matching

/-- Matched nodes are equal on both sides or on none. -/
lemma eq_iff (h : Matching R) {m m' n n'} (hm : R m m') (hn : R n n') : m = n ↔ m' = n' :=
  Relator.rel_eq h.unique hm hn

/-- A boundary node is matched with itself alone. -/
lemma eq_boundary (h : Matching R) {n n'} (hn : R n n') (p : Boundary) :
    n = .boundary p ↔ n' = .boundary p := by
  have eq_iff : ∀ m : Node, m = .boundary p ↔ m.boundary? = some p := by
    intro m
    cases m with
    | boundary q => exact ⟨fun e => by cases e; rfl, fun e => by cases e; rfl⟩
    | var id => exact ⟨nofun, nofun⟩
    | control id => exact ⟨nofun, nofun⟩
  rw [eq_iff, eq_iff, h.boundary? hn]

/-- An edge is matched with one edge only. -/
lemma edge_unique (h : Matching R) : Relator.BiUnique (Edge.Matched R) := by
  refine ⟨fun e e' f he he' => ?_, fun e f f' hf hf' => ?_⟩
  · obtain ⟨m, n, kind⟩ := e
    obtain ⟨m', n', kind'⟩ := e'
    cases h.unique.1 he.source he'.source
    cases h.unique.1 he.target he'.target
    cases he.kind.trans he'.kind.symm
    rfl
  · obtain ⟨m, n, kind⟩ := f
    obtain ⟨m', n', kind'⟩ := f'
    cases h.unique.2 hf.source hf'.source
    cases h.unique.2 hf.target hf'.target
    cases hf.kind.symm.trans hf'.kind
    rfl

section Propagation

variable {g g' : Graph} {s s' : Spread} {seeds seeds' : List Node}

/-- Matched nodes have matched successors, in the same order. -/
lemma successors (h : Matching R) (edges : List.Forall₂ (Edge.Matched R) g.edges g'.edges) {n n'}
    (hn : R n n') :
    List.Forall₂ (fun a b => R a.1 b.1 ∧ a.2 = b.2) (g.successors n) (g'.successors n') := by
  rw [Graph.successors_eq, Graph.successors_eq]
  refine List.rel_filterMap (fun e e' he => ?_) edges
  by_cases leaves : e.source = n
  · rw [if_pos leaves, if_pos ((h.eq_iff he.source hn).1 leaves)]
    exact .some ⟨he.target, he.kind⟩
  · rw [if_neg leaves, if_neg (fun leaves' => leaves ((h.eq_iff he.source hn).2 leaves'))]
    exact .none

/-- Matched nodes have matched tags, or none on both sides. -/
lemma find_tag (h : Matching R) {tags tags'} (matched : List.Forall₂ (Tag.Matched R) tags tags')
    {n n'} (hn : R n n') :
    Option.Rel (Tag.Matched R) (tags.find? fun t => t.node = n)
      (tags'.find? fun t => t.node = n') := by
  refine rel_find? (fun ht => ?_) matched
  rw [decide_eq_true_eq, decide_eq_true_eq]
  exact h.eq_iff ht.node hn

/-- Matched tags are taken alike. -/
lemma take (h : Matching R) (tags : List.Forall₂ (Tag.Matched R) s.tags s'.tags) {t t'}
    (ht : Tag.Matched R t t') :
    (s.take t).1 = (s'.take t').1 ∧
      List.Forall₂ (Tag.Matched R) (s.take t).2.tags (s'.take t').2.tags := by
  have found : Option.Rel (Tag.Matched R) (s.tag? t.node) (s'.tag? t'.node) :=
    h.find_tag tags ht.node
  cases hold : s.tag? t.node with
  | none =>
    rw [hold] at found
    cases hold' : s'.tag? t'.node with
    | some old' =>
      rw [hold'] at found
      cases found
    | none =>
      rw [Tracker.take_new hold, Tracker.take_new hold']
      exact ⟨rfl, List.rel_append tags (.cons ht .nil)⟩
  | some old =>
    rw [hold] at found
    cases hold' : s'.tag? t'.node with
    | none =>
      rw [hold'] at found
      cases found
    | some old' =>
      rw [hold'] at found
      cases found with
      | some matched =>
        by_cases weaker : t.kind ≤ old.kind
        · have weaker' : t'.kind ≤ old'.kind := by rwa [← ht.kind, ← matched.kind]
          rw [Tracker.take_old hold weaker, Tracker.take_old hold' weaker']
          exact ⟨rfl, tags⟩
        · have weaker' : ¬ t'.kind ≤ old'.kind := by rwa [← ht.kind, ← matched.kind]
          rw [Tracker.take_stronger hold weaker, Tracker.take_stronger hold' weaker']
          refine ⟨rfl, List.rel_map (fun u u' hu => ?_) tags⟩
          by_cases same : u.node = t.node
          · rw [if_pos same, if_pos ((h.eq_iff hu.node ht.node).1 same)]
            exact ht
          · rw [if_neg same, if_neg (fun same' => same ((h.eq_iff hu.node ht.node).2 same'))]
            exact hu

/-- Matched offers keep propagations matched. -/
lemma offer (h : Matching R) (hs : Spread.Matched R s s') {t t'} (ht : Tag.Matched R t t')
    (sound sound') : Spread.Matched R (s.offer t sound) (s'.offer t' sound') := by
  obtain ⟨taken, tags⟩ := h.take hs.tags ht
  refine ⟨tags, ?_, hs.visits⟩
  show List.Forall₂ R (if (s.take t).1 then s.queue ++ [t.node] else s.queue)
    (if (s'.take t').1 then s'.queue ++ [t'.node] else s'.queue)
  rw [taken]
  split
  case isTrue => exact List.rel_append hs.queue (.cons ht.node .nil)
  case isFalse => exact hs.queue

/-- Matched seeds start matched propagations. -/
lemma start (h : Matching R) (matched : List.Forall₂ R seeds seeds') :
    Spread.Matched R (Spread.start seeds) (Spread.start seeds') := by
  have kept : List.Forall₂ R (seeds.filter (· ≠ .boundary .statics))
      (seeds'.filter (· ≠ .boundary .statics)) := by
    refine List.rel_filter (fun n n' hn => ?_) matched
    show decide (n ≠ .boundary .statics) = true ↔ decide (n' ≠ .boundary .statics) = true
    rw [decide_eq_true_eq, decide_eq_true_eq, ne_eq, ne_eq, h.eq_boundary hn]
  refine List.rel_foldl (fun s s' hs n n' hn => ?_) ⟨.nil, .nil, rfl⟩ kept
  have tags : Tag.Matched R ⟨n, .direct, none⟩ ⟨n', .direct, none⟩ := ⟨hn, rfl, .none⟩
  exact h.offer hs tags _ _

/-- Following matched edges keeps propagations matched. -/
lemma follow (h : Matching R) (rule : Spread.Rule) {n n'} (hn : R n n') (kind : FlowKind)
    (hs : Spread.Matched R s s') {edge edge' : Node × EdgeKind}
    (target : R edge.1 edge'.1 ∧ edge.2 = edge'.2) :
    Spread.Matched R (Spread.follow rule n kind s edge) (Spread.follow rule n' kind s' edge') := by
  unfold Spread.follow
  rw [← target.2]
  cases rule edge.2 kind with
  | none => exact hs
  | some kind =>
    have tags : Tag.Matched R ⟨edge.1, kind, some n⟩ ⟨edge'.1, kind, some n'⟩ :=
      ⟨target.1, rfl, .some hn⟩
    exact h.offer hs tags _ _

/-- Following all edges of matched nodes keeps propagations matched. -/
lemma expand (h : Matching R) (edges : List.Forall₂ (Edge.Matched R) g.edges g'.edges)
    (rule : Spread.Rule) (hs : Spread.Matched R s s') {n n'} (hn : R n n') :
    Spread.Matched R (s.expand g rule n) (s'.expand g' rule n') := by
  have found : Option.Rel (Tag.Matched R) (s.tag? n) (s'.tag? n') := h.find_tag hs.tags hn
  unfold Spread.expand
  simp only [h.eq_boundary hn]
  by_cases barrier : n' = .boundary .statics
  · rw [if_pos barrier, if_pos barrier]
    exact hs
  · rw [if_neg barrier, if_neg barrier]
    generalize s.tag? n = tag at found ⊢
    generalize s'.tag? n' = tag' at found ⊢
    cases found with
    | none => exact hs
    | @some tag tag' htag =>
      simp only [← htag.kind]
      refine List.rel_foldl (fun s s' hs edge edge' target => ?_) hs (h.successors edges hn)
      exact h.follow rule hn tag.kind hs target

/-- Steps on matched graphs keep propagations matched. -/
lemma step (h : Matching R) (edges : List.Forall₂ (Edge.Matched R) g.edges g'.edges)
    (rule : Spread.Rule) (hs : Spread.Matched R s s') :
    Spread.Matched R (s.step g rule) (s'.step g' rule) := by
  obtain ⟨tracker, queue, visits, coherent⟩ := s
  obtain ⟨tracker', queue', visits', coherent'⟩ := s'
  obtain ⟨htags, hqueue, rfl⟩ := hs
  cases hqueue with
  | nil => exact ⟨htags, .nil, rfl⟩
  | @cons n n' queue queue' hn rest =>
    have next : Spread.Matched R ⟨tracker, queue, visits + 1, coherent⟩
        ⟨tracker', queue', visits + 1, coherent'⟩ := ⟨htags, rest, rfl⟩
    exact h.expand edges rule next hn

/-- Runs on matched graphs keep propagations matched. -/
lemma run (h : Matching R) (edges : List.Forall₂ (Edge.Matched R) g.edges g'.edges)
    (rule : Spread.Rule) (bound : Nat) (hs : Spread.Matched R s s') :
    Spread.Matched R (s.run g rule bound) (s'.run g' rule bound) := by
  induction bound generalizing s s' with
  | zero => exact hs
  | succ bound ih =>
    have stopped : s.queue.isEmpty = s'.queue.isEmpty := by
      rw [Bool.eq_iff_iff, List.isEmpty_iff_length_eq_zero, List.isEmpty_iff_length_eq_zero,
        hs.queue.length_eq]
    unfold Spread.run
    rw [stopped]
    split
    case isTrue => exact hs
    case isFalse => exact ih (h.step edges rule hs)

/-- A second phase starts matched where the first one ended so. -/
lemma again (hs : Spread.Matched R s s') : Spread.Matched R s.again s'.again where
  tags := hs.tags
  queue := by
    show List.Forall₂ R s.order s'.order
    rw [s.coherent.order, s'.coherent.order]
    exact List.rel_map (fun _ _ ht => ht.node) hs.tags
  visits := rfl

/-- Matched graphs and seeds have matched taint. -/
lemma ofSeeds (h : Matching R) (edges : List.Forall₂ (Edge.Matched R) g.edges g'.edges)
    (matched : List.Forall₂ R seeds seeds') :
    List.Forall₂ (Tag.Matched R) (Taint.ofSeeds g seeds).tags (Taint.ofSeeds g' seeds').tags := by
  have bound : Taint.bound g' seeds' = Taint.bound g seeds := by
    unfold Taint.bound
    rw [edges.length_eq, matched.length_eq]
  have direct : Spread.Matched R (Taint.directPhase g seeds) (Taint.directPhase g' seeds') := by
    unfold Taint.directPhase
    rw [bound]
    exact h.run edges _ _ (h.start matched)
  have last : Spread.Matched R (Taint.implicitPhase g seeds) (Taint.implicitPhase g' seeds') := by
    unfold Taint.implicitPhase
    rw [bound]
    exact h.run edges _ _ (again direct)
  exact last.tags

end Propagation

section Leaks

variable {t t' : Taint}

/-- Matched nodes have matched trails. -/
lemma trail (h : Matching R) (tags : List.Forall₂ (Tag.Matched R) t.tags t'.tags) (steps : Nat)
    {n n'} (hn : R n n') : List.Forall₂ R (t.trail steps n) (t'.trail steps n') := by
  induction steps generalizing n n' with
  | zero => exact .nil
  | succ steps ih =>
    have found : Option.Rel (Tag.Matched R) (t.tag? n) (t'.tag? n') := h.find_tag tags hn
    unfold Taint.trail
    generalize t.tag? n = tag at found ⊢
    generalize t'.tag? n' = tag' at found ⊢
    cases found with
    | none => exact .nil
    | @some tag tag' htag =>
      obtain ⟨node, kind, via⟩ := tag
      obtain ⟨node', kind', via'⟩ := tag'
      cases htag.via with
      | none => exact .cons hn .nil
      | some hvia => exact List.rel_append (ih hvia) (.cons hn .nil)

/-- Matched tags show matched leaks, or none on both sides. -/
lemma shown? (h : Matching R) (tags : List.Forall₂ (Tag.Matched R) t.tags t'.tags) {tag tag' : Tag}
    (htag : Tag.Matched R tag tag') :
    Option.Rel (Leak.Matched R) (t.shown? tag) (t'.shown? tag') := by
  have witness : List.Forall₂ R (t.witness tag.node) (t'.witness tag'.node) := by
    unfold Taint.witness
    rw [tags.length_eq]
    exact h.trail tags _ htag.node
  obtain ⟨node, kind, via⟩ := tag
  obtain ⟨node', kind', via'⟩ := tag'
  obtain ⟨hnode, rfl, hvia⟩ := htag
  have same := h.boundary? hnode
  cases hvia with
  | none => exact .none
  | some =>
    cases node with
    | boundary p =>
      cases (h.eq_boundary hnode p).1 rfl
      unfold Taint.shown? Taint.leak?
      by_cases channel : p.isChannel
      · simp only [if_pos channel]
        exact .some ⟨rfl, rfl, witness⟩
      · simp only [if_neg channel]
        exact .none
    | var id =>
      cases node' with
      | boundary p => cases same
      | var id' => exact .none
      | control id' => exact .none
    | control id =>
      cases node' with
      | boundary p => cases same
      | var id' => exact .none
      | control id' => exact .none

/-- Matched taint shows matched leaks, in the same order. -/
lemma leaks (h : Matching R) (tags : List.Forall₂ (Tag.Matched R) t.tags t'.tags) :
    List.Forall₂ (Leak.Matched R) t.leaks t'.leaks := by
  rw [Taint.leaks_eq, Taint.leaks_eq]
  exact List.rel_filterMap (fun _ _ htag => h.shown? tags htag) tags

end Leaks

end Matching

end InfoFlow
