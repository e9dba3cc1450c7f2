import InfoFlow.Listing
import InfoFlow.Node

/-!
# The tables of a flow graph

A data edge says that a value flows; a control edge says that its target takes effect only inside
the branch of its source. A `FlowGraph` keeps its edges in several tables: the rows of the edges
that leave a node, the set of all edges, the ends of edges in the order of first appearance and as a
set, and a counter for each kind of edge. `FlowGraph.add` changes them one after the other.

The tables are `FlowGraph.Coherent` if each of them is what it should be for the list of the edges
in the order in which they were added. `FlowGraph.Coherent.add` says that an edge that is added
keeps them so, and `FlowGraph.Coherent.addAll` that any number of edges do.
-/

namespace InfoFlow

/-- The kinds of edges. -/
inductive EdgeKind where
  | data
  | control
  deriving DecidableEq, Repr

/-- The word for a kind of edge. -/
def EdgeKind.word : EdgeKind → String
  | .data => "data"
  | .control => "control"

/-- The kind of edge with the given word. -/
def EdgeKind.ofWord? (word : String) : Option EdgeKind :=
  if word = "data" then some .data
  else if word = "control" then some .control
  else none

/-- An edge of a flow graph. -/
structure Edge where
  source : Node
  target : Node
  kind : EdgeKind
  deriving DecidableEq, Repr

/-- The ends of an edge. -/
def Edge.ends (e : Edge) : List Node :=
  [e.source, e.target]

/-- The targets of those edges that leave a node. -/
def Edge.leaving (edges : List Edge) (n : Node) : List (Node × EdgeKind) :=
  edges.filterMap fun e => if e.source = n then some (e.target, e.kind) else none

/-- The tables of a flow graph. -/
structure FlowGraph where
  /-- For each source, the targets of its edges in the order in which they were added. -/
  adjacency : List (Node × List (Node × EdgeKind))
  /-- The set of all edges. -/
  edges : List Edge
  /-- The ends of all edges, in the order of first appearance. -/
  nodes : List Node
  /-- The set of the ends. -/
  known : List Node
  /-- How many data edges there are. -/
  dataEdges : Nat
  /-- How many control edges there are. -/
  controlEdges : Nat
  deriving DecidableEq, Repr

namespace FlowGraph

/-- The tables of no edges. -/
def none : FlowGraph where
  adjacency := []
  edges := []
  nodes := []
  known := []
  dataEdges := 0
  controlEdges := 0

/-- Whether the edge is there. -/
def contains (g : FlowGraph) (e : Edge) : Bool :=
  e ∈ g.edges

/-- The targets of the edges that leave a node, in the order in which they were added. -/
def successors (g : FlowGraph) (n : Node) : List (Node × EdgeKind) :=
  (g.adjacency.lookup n).getD []

/-- The number of edges of one kind. -/
def edgeCount (g : FlowGraph) : EdgeKind → Nat
  | .data => g.dataEdges
  | .control => g.controlEdges

/-- The number of all edges. -/
def size (g : FlowGraph) : Nat :=
  g.dataEdges + g.controlEdges

/-- Puts down an end of an edge, unless it is known. -/
def remember (g : FlowGraph) (n : Node) : FlowGraph :=
  if n ∈ g.known then g else { g with known := g.known ++ [n], nodes := g.nodes ++ [n] }

/-- Puts down an edge at its source. -/
def link (g : FlowGraph) (e : Edge) : FlowGraph :=
  { g with adjacency := pushAt e.source (e.target, e.kind) g.adjacency }

/-- Puts down an edge, unless it is there, and answers whether it is new. -/
def insert (g : FlowGraph) (e : Edge) : Bool × FlowGraph :=
  if g.contains e then (false, g)
  else
    let entered := { g with edges := g.edges ++ [e] }
    (true, ((entered.remember e.source).remember e.target).link e)

/-- One more edge of a kind. -/
def count (g : FlowGraph) : EdgeKind → FlowGraph
  | .data => { g with dataEdges := g.dataEdges + 1 }
  | .control => { g with controlEdges := g.controlEdges + 1 }

/-- Puts down an edge and counts it if it is new, which is the answer. -/
def add (g : FlowGraph) (e : Edge) : Bool × FlowGraph :=
  match g.insert e with
  | (false, g) => (false, g)
  | (true, g) => (true, g.count e.kind)

/-- Puts down edges one after the other. -/
def addAll (g : FlowGraph) (edges : List Edge) : FlowGraph :=
  edges.foldl (fun g e => (g.add e).2) g

/-- All tables are those of the list of edges, in which no edge stands twice. -/
structure Coherent (g : FlowGraph) : Prop where
  distinct : g.edges.Nodup
  adjacency : g.adjacency =
    (g.edges.map Edge.source).eraseDups.map fun n => (n, Edge.leaving g.edges n)
  nodes : g.nodes = (g.edges.flatMap Edge.ends).eraseDups
  known : g.known = (g.edges.flatMap Edge.ends).eraseDups
  edgeCount : ∀ kind, g.edgeCount kind = g.edges.countP fun e => e.kind = kind

variable {g : FlowGraph} {e : Edge}

/-- An edge that is there is not added again. -/
theorem add_old (old : g.contains e = true) : g.add e = (false, g) := by
  unfold add insert
  rw [if_pos old]

/-- A new edge is put down in all tables. -/
theorem add_new (new : g.contains e = false) :
    g.add e = (true,
      (((({ g with edges := g.edges ++ [e] } : FlowGraph).remember e.source).remember
        e.target).link e).count e.kind) := by
  unfold add insert
  rw [new]
  rfl

/-- The answer says whether the edge is new. -/
theorem add_isNew (g : FlowGraph) (e : Edge) : (g.add e).1 = !g.contains e := by
  cases there : g.contains e with
  | true => rw [add_old there]; rfl
  | false => rw [add_new there]; rfl

/-- Putting down an end changes the nodes only. -/
@[simp]
theorem remember_frame (g : FlowGraph) (n : Node) :
    (g.remember n).adjacency = g.adjacency ∧ (g.remember n).edges = g.edges ∧
      (g.remember n).edgeCount = g.edgeCount := by
  unfold remember
  split
  case isTrue => exact ⟨rfl, rfl, rfl⟩
  case isFalse => exact ⟨rfl, rfl, rfl⟩

/-- Putting down an edge at its source changes the rows only. -/
@[simp]
theorem link_frame (g : FlowGraph) (e : Edge) :
    (g.link e).edges = g.edges ∧ (g.link e).nodes = g.nodes ∧ (g.link e).known = g.known ∧
      (g.link e).edgeCount = g.edgeCount :=
  ⟨rfl, rfl, rfl, rfl⟩

/-- Counting changes the counters only. -/
@[simp]
theorem count_frame (g : FlowGraph) (kind : EdgeKind) :
    (g.count kind).adjacency = g.adjacency ∧ (g.count kind).edges = g.edges ∧
      (g.count kind).nodes = g.nodes ∧ (g.count kind).known = g.known := by
  cases kind with
  | data => exact ⟨rfl, rfl, rfl, rfl⟩
  | control => exact ⟨rfl, rfl, rfl, rfl⟩

/-- Counting an edge changes the counter of its kind. -/
theorem edgeCount_count (g : FlowGraph) (kind kind' : EdgeKind) :
    (g.count kind).edgeCount kind' = g.edgeCount kind' + if kind = kind' then 1 else 0 := by
  cases kind with
  | data => cases kind' <;> rfl
  | control => cases kind' <;> rfl

/-- An edge is added at the end of the list, unless it is there. -/
theorem edges_add (g : FlowGraph) (e : Edge) :
    (g.add e).2.edges = if e ∈ g.edges then g.edges else g.edges ++ [e] := by
  cases there : g.contains e with
  | true => rw [add_old there, if_pos (of_decide_eq_true there)]
  | false =>
    rw [add_new there, if_neg (of_decide_eq_false there)]
    simp

/-- A node that is put down becomes the last of the first occurrences, if it is new. -/
theorem remember_nodes {ends n} (known : g.known = ends.eraseDups)
    (nodes : g.nodes = ends.eraseDups) :
    (g.remember n).known = (ends ++ [n]).eraseDups ∧
      (g.remember n).nodes = (ends ++ [n]).eraseDups := by
  unfold remember
  rw [eraseDups_snoc, known, nodes]
  by_cases old : n ∈ ends
  · rw [if_pos (List.mem_eraseDups.2 old), if_pos old]
    exact ⟨known, nodes⟩
  · rw [if_neg (fun mem => old (List.mem_eraseDups.1 mem)), if_neg old]
    exact ⟨rfl, rfl⟩

/-- An edge at the end leaves its source. -/
theorem leaving_snoc {edges : List Edge} {n} :
    Edge.leaving (edges ++ [e]) n =
      Edge.leaving edges n ++ if e.source = n then [(e.target, e.kind)] else [] := by
  unfold Edge.leaving
  rw [List.filterMap_append]
  by_cases same : e.source = n
  · simp [same]
  · simp [same]

/-- The rows of the sources with one more edge. -/
theorem pushAt_leaving (edges : List Edge) (e : Edge) :
    pushAt e.source (e.target, e.kind)
        ((edges.map Edge.source).eraseDups.map fun n => (n, Edge.leaving edges n)) =
      ((edges ++ [e]).map Edge.source).eraseDups.map
        fun n => (n, Edge.leaving (edges ++ [e]) n) := by
  have closed : e.source ∉ (edges.map Edge.source).eraseDups →
      Edge.leaving edges e.source = [] := by
    intro fresh
    rw [Edge.leaving, List.filterMap_eq_nil_iff]
    intro d mem
    refine if_neg fun same => fresh (List.mem_eraseDups.2 ?_)
    exact same ▸ List.mem_map_of_mem mem
  have grown : Edge.leaving (edges ++ [e]) e.source =
      Edge.leaving edges e.source ++ [(e.target, e.kind)] := by
    rw [leaving_snoc, if_pos rfl]
  have others : ∀ n, n ≠ e.source → Edge.leaving (edges ++ [e]) n = Edge.leaving edges n := by
    intro n other
    rw [leaving_snoc, if_neg (Ne.symm other), List.append_nil]
  rw [pushAt_rows (nodup_eraseDups _) grown others closed]
  simp only [List.map_append, List.map_cons, List.map_nil, eraseDups_snoc, List.mem_eraseDups]

namespace Coherent

/-- Without edges all tables are empty. -/
theorem none : FlowGraph.none.Coherent where
  distinct := .nil
  adjacency := rfl
  nodes := rfl
  known := rfl
  edgeCount := fun kind => by cases kind <;> rfl

/-- A new edge that is put down in all tables keeps them in step. -/
theorem enter (h : g.Coherent) (fresh : e ∉ g.edges) :
    Coherent ((((({ g with edges := g.edges ++ [e] } : FlowGraph).remember e.source).remember
      e.target).link e).count e.kind) := by
  -- the ends are put down one after the other
  obtain ⟨known, nodes⟩ := remember_nodes (n := e.source)
    (g := { g with edges := g.edges ++ [e] }) h.known h.nodes
  obtain ⟨known, nodes⟩ := remember_nodes (n := e.target) known nodes
  have ends : (g.edges ++ [e]).flatMap Edge.ends =
      g.edges.flatMap Edge.ends ++ [e.source] ++ [e.target] := by
    simp [Edge.ends]
  rw [← ends] at known nodes
  refine ⟨?_, ?_, ?_, ?_, fun kind => ?_⟩
  · simpa using nodup_snoc h.distinct fresh
  · simpa [link, h.adjacency] using pushAt_leaving g.edges e
  · simpa using nodes
  · simpa using known
  · simp only [edgeCount_count, link_frame, remember_frame, count_frame]
    show g.edgeCount kind + _ = _
    rw [h.edgeCount, List.countP_append]
    simp [List.countP_cons]

/-- An edge that is added keeps the tables in step. -/
theorem add (h : g.Coherent) (e : Edge) : (g.add e).2.Coherent := by
  cases there : g.contains e with
  | true =>
    rw [add_old there]
    exact h
  | false =>
    rw [add_new there]
    exact h.enter (of_decide_eq_false there)

/-- Edges that are added one after the other keep the tables in step. -/
theorem addAll (h : g.Coherent) (edges : List Edge) : (g.addAll edges).Coherent := by
  induction edges generalizing g with
  | nil => exact h
  | cons e edges ih => exact ih (h.add e)

end Coherent

end FlowGraph

end InfoFlow
