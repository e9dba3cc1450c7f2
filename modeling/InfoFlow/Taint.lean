import InfoFlow.Graph

/-!
# Taint

`Taint.ofSeeds` finds out which nodes of a graph depend on sensitive seeds. In a first phase the
nodes that data edges reach from the seeds are tagged `direct`; in a second one every tagged node is
visited again, and what is reached by a control edge, or from a node tagged `implicit`, is tagged
`implicit`. The shared state `Boundary.statics` is a barrier: it can be reached, but nothing is
reached through it.

A `Tracker` keeps the tag of every node, with the node that the taint came from, so that
`Taint.witness` can give a path from a seed. Beside the tags it keeps the nodes in the order of
discovery, and the seeds. `Tracker.Coherent` says how these belong together.
-/

namespace InfoFlow

/-- How a node depends on sensitive data. -/
inductive FlowKind where
  /-- Only through a control edge. -/
  | implicit
  /-- Through data edges alone. -/
  | direct
  deriving DecidableEq, Repr

namespace FlowKind

/-- The strength of a kind of taint. -/
def rank : FlowKind → Nat
  | .implicit => 0
  | .direct => 1

instance : LE FlowKind := ⟨fun a b => a.rank ≤ b.rank⟩

instance : LT FlowKind := ⟨fun a b => a.rank < b.rank⟩

instance (a b : FlowKind) : Decidable (a ≤ b) := inferInstanceAs (Decidable (a.rank ≤ b.rank))

instance (a b : FlowKind) : Decidable (a < b) := inferInstanceAs (Decidable (a.rank < b.rank))

/-- The word for a kind of taint in documents. -/
def word : FlowKind → String
  | .implicit => "implicit"
  | .direct => "direct"

/-- The kind of taint with the given word. -/
def ofWord? (word : String) : Option FlowKind :=
  if word = "implicit" then some .implicit
  else if word = "direct" then some .direct
  else none

/-- The word for a leak of this kind. -/
def label : FlowKind → String
  | .implicit => "implicit"
  | .direct => "explicit"

end FlowKind

/-- The taint of a node: its kind, and the node it came from unless the node is a seed. -/
structure Tag where
  node : Node
  kind : FlowKind
  via : Option Node
  deriving DecidableEq, Repr

/-- What a propagation has found. -/
structure Tracker where
  /-- The tags, one for each node with taint. -/
  tags : List Tag
  /-- The nodes with taint, in the order of discovery. -/
  order : List Node
  /-- The seeds among them. -/
  seeds : List Node
  deriving DecidableEq, Repr

namespace Tracker

/-- The tracker without any taint. -/
def empty : Tracker := ⟨[], [], []⟩

/-- The tag of a node. -/
def tag? (t : Tracker) (n : Node) : Option Tag :=
  t.tags.find? fun tag => tag.node = n

/-- Gives a node its tag, if it has none or a weaker one, and says whether it did. -/
def mark (t : Tracker) (tag : Tag) : Bool × Tracker :=
  match t.tag? tag.node with
  | none => (true, { t with tags := t.tags ++ [tag], order := t.order ++ [tag.node] })
  | some old =>
    if tag.kind ≤ old.kind then (false, t)
    else (true, { t with tags := t.tags.map fun u => if u.node = tag.node then tag else u })

/-- Marks a node, which is a seed if its taint came from nowhere. -/
def take (t : Tracker) (tag : Tag) : Bool × Tracker :=
  match t.mark tag with
  | (false, t) => (false, t)
  | (true, t) =>
    (true, if tag.via = none then { t with seeds := t.seeds ++ [tag.node] } else t)

/-- How what a tracker keeps belongs together. -/
structure Coherent (t : Tracker) : Prop where
  order : t.order = t.tags.map Tag.node
  distinct : (t.tags.map Tag.node).Nodup
  seeds : ∀ n, n ∈ t.seeds ↔ ∃ tag ∈ t.tags, tag.node = n ∧ tag.via = none
  direct : ∀ tag ∈ t.tags, tag.via = none → tag.kind = .direct

/-- Without taint nothing is kept. -/
theorem Coherent.empty : Coherent Tracker.empty where
  order := rfl
  distinct := List.nodup_nil
  seeds := by simp [Tracker.empty]
  direct := nofun

variable {t : Tracker} {tag : Tag}

/-- A node without a tag gets one, behind all others. -/
theorem take_new (missing : t.tag? tag.node = none) :
    t.take tag = (true,
      { tags := t.tags ++ [tag]
        order := t.order ++ [tag.node]
        seeds := if tag.via = none then t.seeds ++ [tag.node] else t.seeds }) := by
  unfold take mark
  rw [missing]
  by_cases seed : tag.via = none
  · simp only [if_pos seed]
  · simp only [if_neg seed]

/-- A tag that is as strong is kept. -/
theorem take_old {old} (found : t.tag? tag.node = some old) (weaker : tag.kind ≤ old.kind) :
    t.take tag = (false, t) := by
  unfold take mark
  simp only [found, if_pos weaker]

/-- A weaker tag is replaced in its place. -/
theorem take_stronger {old} (found : t.tag? tag.node = some old)
    (stronger : ¬ tag.kind ≤ old.kind) :
    t.take tag = (true,
      { tags := t.tags.map fun u => if u.node = tag.node then tag else u
        order := t.order
        seeds := if tag.via = none then t.seeds ++ [tag.node] else t.seeds }) := by
  unfold take mark
  by_cases seed : tag.via = none
  · simp only [found, if_neg stronger, if_pos seed]
  · simp only [found, if_neg stronger, if_neg seed]

/-- The seeds after a tag: those before, and its node if it is a seed. -/
theorem mem_seeds {seeds : List Node} {n} :
    n ∈ (if tag.via = none then seeds ++ [tag.node] else seeds) ↔
      n ∈ seeds ∨ tag.node = n ∧ tag.via = none := by
  by_cases seed : tag.via = none
  · simp [seed, eq_comm]
  · simp [seed]

/-- Replacing a tag keeps the nodes. -/
theorem map_node_replace (tags : List Tag) :
    (tags.map fun u => if u.node = tag.node then tag else u).map Tag.node = tags.map Tag.node := by
  rw [List.map_map]
  apply List.map_congr_left
  intro u _
  by_cases same : u.node = tag.node
  · simp [same]
  · simp [same]

/-- A new node with its tag belongs to the rest. -/
theorem Coherent.take_new (h : t.Coherent) (sound : tag.via = none → tag.kind = .direct)
    (missing : t.tag? tag.node = none) : (t.take tag).2.Coherent := by
  have fresh : tag.node ∉ t.tags.map Tag.node := by
    intro mem
    obtain ⟨u, hu, same⟩ := List.mem_map.1 mem
    exact absurd (decide_eq_true same) (List.find?_eq_none.1 missing u hu)
  rw [Tracker.take_new missing]
  refine ⟨?_, ?_, fun n => ?_, ?_⟩
  · rw [List.map_append, h.order]
    rfl
  · rw [List.map_append]
    exact nodup_snoc h.distinct fresh
  · rw [mem_seeds, h.seeds n]
    simp only [List.mem_append, List.mem_singleton, or_and_right, exists_or, exists_eq_left]
  · intro u hu
    rcases List.mem_append.1 hu with old | new
    · exact h.direct u old
    · cases List.mem_singleton.1 new
      exact sound

/-- A stronger tag belongs to the rest: the weaker one was not that of a seed. -/
theorem Coherent.take_stronger (h : t.Coherent) (sound : tag.via = none → tag.kind = .direct)
    {old} (found : t.tag? tag.node = some old) (stronger : ¬ tag.kind ≤ old.kind) :
    (t.take tag).2.Coherent := by
  -- the tag of a seed is direct, so no tag is stronger
  have weak : ∀ u ∈ t.tags, u.node = tag.node → u.via ≠ none := by
    intro u hu same seed
    have node : old.node = tag.node := by simpa using List.find?_some found
    have e := eq_of_nodup_map h.distinct hu (List.mem_of_find?_eq_some found)
      (same.trans node.symm)
    subst e
    rw [h.direct u hu seed] at stronger
    exact stronger (by cases tag.kind <;> decide)
  have known : ∃ u ∈ t.tags, u.node = tag.node :=
    ⟨old, List.mem_of_find?_eq_some found, by simpa using List.find?_some found⟩
  rw [Tracker.take_stronger found stronger]
  refine ⟨?_, ?_, fun n => ?_, ?_⟩
  · rw [map_node_replace, h.order]
  · rw [map_node_replace]
    exact h.distinct
  · rw [mem_seeds, h.seeds n]
    constructor
    · rintro (⟨u, hu, node, seed⟩ | ⟨node, seed⟩)
      · have other : u.node ≠ tag.node := fun same => weak u hu same seed
        exact ⟨u, List.mem_map.2 ⟨u, hu, if_neg other⟩, node, seed⟩
      · obtain ⟨u, hu, same⟩ := known
        exact ⟨tag, List.mem_map.2 ⟨u, hu, if_pos same⟩, node, seed⟩
    · rintro ⟨_, hu, node, seed⟩
      obtain ⟨u, mem, rfl⟩ := List.mem_map.1 hu
      by_cases same : u.node = tag.node
      · rw [if_pos same] at node seed
        exact .inr ⟨node, seed⟩
      · rw [if_neg same] at node seed
        exact .inl ⟨u, mem, node, seed⟩
  · intro u hu
    obtain ⟨v, hv, rfl⟩ := List.mem_map.1 hu
    by_cases same : v.node = tag.node
    · rw [if_pos same]
      exact sound
    · rw [if_neg same]
      exact h.direct v hv

/-- A tracker stays coherent, if only direct taint comes from nowhere. -/
theorem Coherent.take (h : t.Coherent) (sound : tag.via = none → tag.kind = .direct) :
    (t.take tag).2.Coherent := by
  cases found : t.tag? tag.node with
  | none => exact h.take_new sound found
  | some old =>
    by_cases weaker : tag.kind ≤ old.kind
    · rw [take_old found weaker]
      exact h
    · exact h.take_stronger sound found weaker

end Tracker

/-- A propagation that is under way: what was found so far, the nodes still to be visited, and the
number of visits. -/
structure Spread extends Tracker where
  queue : List Node
  visits : Nat
  coherent : toTracker.Coherent
  deriving DecidableEq, Repr

namespace Spread

/-- The propagation that has found nothing. -/
def idle : Spread where
  toTracker := .empty
  queue := []
  visits := 0
  coherent := .empty

/-- Takes a tag if its node has none or a weaker one, and has the node visited then. -/
def offer (s : Spread) (t : Tag) (sound : t.via = none → t.kind = .direct) : Spread where
  toTracker := (s.take t).2
  queue := if (s.take t).1 then s.queue ++ [t.node] else s.queue
  visits := s.visits
  coherent := s.coherent.take sound

/-- Takes a node for a seed. -/
def seed (s : Spread) (n : Node) : Spread :=
  s.offer { node := n, kind := .direct, via := none } fun _ => rfl

/-- The propagation before any visit. The shared state is no seed. -/
def start (seeds : List Node) : Spread :=
  (seeds.filter (· ≠ .boundary .statics)).foldl seed idle

/-- What an edge makes of the taint of its source: the rule of a phase. -/
abbrev Rule := EdgeKind → FlowKind → Option FlowKind

/-- The rule of the first phase: data edges carry direct taint, control edges none. -/
def dataOnly : Rule
  | .data, _ => some .direct
  | .control, _ => none

/-- The rule of the second phase: data edges carry the taint of their source, control edges
implicit taint. -/
def allEdges : Rule
  | .data, kind => some kind
  | .control, _ => some .implicit

/-- Offers the taint of `n` to the target of one edge. -/
def follow (rule : Rule) (n : Node) (kind : FlowKind) (s : Spread) (edge : Node × EdgeKind) :
    Spread :=
  match rule edge.2 kind with
  | none => s
  | some kind => s.offer { node := edge.1, kind := kind, via := some n } nofun

/-- Offers the taint of `n` along all edges that leave it. -/
def expand (g : Graph) (rule : Rule) (s : Spread) (n : Node) : Spread :=
  if n = .boundary .statics then s
  else
    match s.tag? n with
    | none => s
    | some tag => (g.successors n).foldl (follow rule n tag.kind) s

/-- Visits the first node of the queue. -/
def step (g : Graph) (rule : Rule) (s : Spread) : Spread :=
  match s.queue with
  | [] => s
  | n :: queue => { s with queue := queue, visits := s.visits + 1 }.expand g rule n

/-- Visits nodes until none is left, at most the given number of times. -/
def run (g : Graph) (rule : Rule) : Nat → Spread → Spread
  | 0, s => s
  | bound + 1, s => if s.queue.isEmpty then s else run g rule bound (s.step g rule)

/-- The propagation that visits all of its nodes once more. -/
def again (s : Spread) : Spread :=
  { s with queue := s.order, visits := 0 }

end Spread

/-- The taint of the nodes of a graph. -/
structure Taint extends Tracker where
  rounds : Nat
  coherent : toTracker.Coherent
  deriving DecidableEq, Repr

/-- A way out of a body that sensitive data reaches. -/
structure Leak where
  channel : Boundary
  kind : FlowKind
  witness : List Node
  deriving DecidableEq, Repr

namespace Taint

/-- As many visits as there can be tagged nodes: each one is a seed or the end of an edge. -/
def bound (g : Graph) (seeds : List Node) : Nat :=
  seeds.length + 2 * g.edges.length

/-- The first phase. -/
def directPhase (g : Graph) (seeds : List Node) : Spread :=
  (Spread.start seeds).run g Spread.dataOnly (bound g seeds)

/-- The second phase. -/
def implicitPhase (g : Graph) (seeds : List Node) : Spread :=
  (directPhase g seeds).again.run g Spread.allEdges (bound g seeds)

/-- The taint that spreads from the seeds. -/
def ofSeeds (g : Graph) (seeds : List Node) : Taint :=
  let last := implicitPhase g seeds
  { last with rounds := last.visits }

/-- The kind of taint of a node, `none` for one without taint. -/
def kindOf? (t : Taint) (n : Node) : Option FlowKind :=
  (t.tag? n).map Tag.kind

/-- The nodes with taint and its kind, in the order of discovery. -/
def tainted (t : Taint) : List (Node × FlowKind) :=
  t.order.filterMap fun n => (t.kindOf? n).map fun kind => (n, kind)

/-- The path of at most the given length that leads to a node. -/
def trail (t : Taint) : Nat → Node → List Node
  | 0, _ => []
  | steps + 1, n =>
    match t.tag? n with
    | none => []
    | some tag =>
      match tag.via with
      | none => [n]
      | some before => t.trail steps before ++ [n]

/-- A path from a seed to a node with taint, empty for a node without. -/
def witness (t : Taint) (n : Node) : List Node :=
  t.trail t.tags.length n

/-- The leak through a node with taint, if it is a channel. -/
def leak? (t : Taint) (n : Node) (kind : FlowKind) : Option Leak :=
  match n with
  | .boundary p =>
    if p.isChannel then some { channel := p, kind := kind, witness := t.witness n } else none
  | _ => none

/-- The leaks, in the order of discovery. A seed does not leak into itself. -/
def leaks (t : Taint) : List Leak :=
  (t.tainted.filter fun found => found.1 ∉ t.seeds).filterMap fun found => t.leak? found.1 found.2

/-- The number of nodes with direct taint. -/
def directCount (t : Taint) : Nat :=
  t.tainted.countP fun found => found.2 = .direct

end Taint

end InfoFlow
