import InfoFlow.Graph.Tables
import InfoFlow.Registry

/-!
# Flow graphs

A `Graph` is a flow graph whose tables are in step, so that it can be spoken of as the list of its
edges in the order in which they were added: `Graph.edges_insert` is how that list grows, and
`Graph.successors_eq`, `Graph.nodes_eq` and `Graph.edgeCount_eq` read the other tables off it. By
`Graph.ext_edges` nothing else is in a graph.
-/

namespace InfoFlow

/-- A flow graph whose tables are in step. -/
structure Graph extends FlowGraph where
  coherent : toFlowGraph.Coherent
  deriving DecidableEq, Repr

instance : Coe Graph FlowGraph := ⟨Graph.toFlowGraph⟩

namespace Graph

/-- The graph without edges. -/
def empty : Graph where
  toFlowGraph := .none
  coherent := .none

/-- The graph with the edge, added at the end if it is new. -/
def insert (g : Graph) (e : Edge) : Graph where
  toFlowGraph := (g.add e).2
  coherent := g.coherent.add e

/-- The graph with the edges of a list, each of them once. -/
def ofList (edges : List Edge) : Graph where
  toFlowGraph := FlowGraph.none.addAll edges
  coherent := FlowGraph.Coherent.none.addAll edges

/-- The graph with the edge, if both of its ends can be used in the body of the registry. The
source is looked at first. Answers whether the edge is new. -/
def connect (r : Registry) (e : Edge) : Update Graph Bool := fun g =>
  match r.check e.source with
  | .error err => .error err g
  | .ok () =>
    match r.check e.target with
    | .error err => .error err g
    | .ok () => .ok (g.add e).1 (g.insert e)

variable {g g' : Graph} {e : Edge}

/-- Graphs with the same edges in the same order are the same. -/
theorem ext_edges (same : g.edges = g'.edges) : g = g' := by
  obtain ⟨t, h⟩ := g
  obtain ⟨t', h'⟩ := g'
  have data := h.edgeCount .data
  have data' := h'.edgeCount .data
  have control := h.edgeCount .control
  have control' := h'.edgeCount .control
  have tables : t = t' := by
    obtain ⟨_, edges, _, _, _, _⟩ := t
    obtain ⟨_, edges', _, _, _, _⟩ := t'
    cases same
    cases h.adjacency.trans h'.adjacency.symm
    cases h.nodes.trans h'.nodes.symm
    cases h.known.trans h'.known.symm
    cases data.trans data'.symm
    cases control.trans control'.symm
    rfl
  cases tables
  rfl

/-- An edge is added at the end of the list, unless it is there. -/
theorem edges_insert :
    (g.insert e).edges = if e ∈ g.edges then g.edges else g.edges ++ [e] :=
  g.edges_add e

/-- The edge that is added is there afterwards, and so is every edge that was there before. -/
theorem mem_insert {e'} : e' ∈ (g.insert e).edges ↔ e' ∈ g.edges ∨ e' = e := by
  rw [edges_insert]
  split
  case isTrue old => exact ⟨.inl, fun h => h.elim id fun same => same ▸ old⟩
  case isFalse => rw [List.mem_append, List.mem_singleton]

/-- An edge that is there changes nothing. -/
theorem insert_old (old : g.contains e = true) : g.insert e = g := by
  apply ext_edges
  rw [edges_insert, if_pos (of_decide_eq_true old)]

/-- The rows of the edges are those of the list. -/
theorem successors_eq (g : Graph) (n : Node) : g.successors n = Edge.leaving g.edges n := by
  unfold FlowGraph.successors
  rw [g.coherent.adjacency, lookup_rows]
  split
  case isTrue => rfl
  case isFalse fresh =>
    symm
    rw [Option.getD_none, Edge.leaving, List.filterMap_eq_nil_iff]
    intro e mem
    refine if_neg fun same => fresh (List.mem_eraseDups.2 ?_)
    exact same ▸ List.mem_map_of_mem mem

/-- The nodes are the ends of the edges of the list. -/
theorem nodes_eq (g : Graph) : g.nodes = (g.edges.flatMap Edge.ends).eraseDups :=
  g.coherent.nodes

/-- The edges that leave a node lead to nodes. -/
theorem target_mem_nodes {n target} (mem : target ∈ g.successors n) : target.1 ∈ g.nodes := by
  rw [successors_eq, Edge.leaving, List.mem_filterMap] at mem
  obtain ⟨e, he, found⟩ := mem
  rw [Option.ite_none_right_eq_some] at found
  obtain ⟨-, same⟩ := found
  cases same
  rw [nodes_eq, List.mem_eraseDups]
  exact List.mem_flatMap.2 ⟨e, he, by simp [Edge.ends]⟩

/-- The counters count the edges of the list. -/
theorem edgeCount_eq (g : Graph) (kind : EdgeKind) :
    g.edgeCount kind = g.edges.countP fun e => e.kind = kind :=
  g.coherent.edgeCount kind

/-- The first occurrences in a list are the edges of its graph. -/
theorem edges_ofList (edges : List Edge) : (ofList edges).edges = edges.eraseDups := by
  induction edges using snocInduct with
  | nil => rfl
  | snoc edges e ih =>
    have last : (ofList (edges ++ [e])).edges = ((ofList edges).insert e).edges := by
      show (FlowGraph.none.addAll (edges ++ [e])).edges = _
      rw [FlowGraph.addAll, List.foldl_append]
      rfl
    rw [last, edges_insert, eraseDups_snoc]
    simp only [ih, List.mem_eraseDups]

/-- A list without repetition is the list of the edges of its graph. -/
theorem edges_ofList_of_nodup {edges : List Edge} (nodup : edges.Nodup) :
    (ofList edges).edges = edges := by
  rw [edges_ofList, eraseDups_of_nodup nodup]

end Graph

end InfoFlow
