import InfoFlow.Graph

/-!
# Flow graphs as DOT text

The nodes are numbered in the order in which they appear. Boundary nodes are boxes and other nodes
ellipses; data edges are solid and control edges dashed.

An edge is written with the numbers of its ends, which are looked up. In the tables of a flow graph
an end may be missing there, and then there is no text; in a `Graph` none is missing
(`Dot.links?_eq`).
-/

namespace InfoFlow.Dot

/-- The written form of a character inside quotation marks. -/
def escapeChar (c : Char) : List Char :=
  if c = '\\' then ['\\', '\\'] else if c = '"' then ['\\', '"'] else [c]

/-- A text between quotation marks. -/
def quote (text : String) : List Char :=
  '"' :: text.toList.flatMap escapeChar ++ ['"']

/-- The shape of a node. -/
def shape (isPublic : Bool) : String :=
  if isPublic then "box" else "ellipse"

/-- The style of an edge. -/
def style : EdgeKind → String
  | .data => "solid"
  | .control => "dashed"

/-- The line of the node with the number `index`. -/
def nodeLine (index : Nat) (label : String) (isPublic : Bool) : List Char :=
  '\t' :: Nat.toDigits 10 index ++ " [ label = ".toList ++ quote label ++ ", shape = ".toList ++
    (shape isPublic).toList ++ " ]\n".toList

/-- The line of an edge between two numbered nodes. -/
def edgeLine (source target : Nat) (kind : EdgeKind) : List Char :=
  '\t' :: Nat.toDigits 10 source ++ " -> ".toList ++ Nat.toDigits 10 target ++
    " [ style = ".toList ++ (style kind).toList ++ " ]\n".toList

/-- The labels and shapes of the nodes of a graph, in order. -/
def labels (g : FlowGraph) (r : Registry) : List (String × Bool) :=
  g.nodes.map fun n => (r.display n, n.isPublic)

/-- The numbers of the nodes. -/
def index (g : FlowGraph) : List (Node × Nat) :=
  g.nodes.zipIdx

/-- The edges of a graph between numbered nodes, grouped by source in the order of the nodes; `none`
if the number of an end is missing. -/
def links? (g : FlowGraph) : Option (List (Nat × Nat × EdgeKind)) := do
  let rows ← g.nodes.mapM fun n =>
    (g.successors n).mapM fun edge => do
      return (← (index g).lookup n, ← (index g).lookup edge.1, edge.2)
  return rows.flatten

/-- The lines of numbered nodes, the first one having the number `index`. -/
def nodeLines (index : Nat) : List (String × Bool) → List Char
  | [] => []
  | (label, isPublic) :: rest => nodeLine index label isPublic ++ nodeLines (index + 1) rest

/-- The text of a graph that is given by its labels and links. -/
def write (name : String) (labels : List (String × Bool)) (links : List (Nat × Nat × EdgeKind)) :
    List Char :=
  "digraph ".toList ++ quote name ++ [' ', '\x7b', '\n'] ++ nodeLines 0 labels ++
    links.flatMap (fun (source, target, kind) => edgeLine source target kind) ++ ['\x7d']

/-- Looking up a node finds its place. -/
theorem lookup_index {g : FlowGraph} {n} (mem : n ∈ g.nodes) :
    (index g).lookup n = some (g.nodes.idxOf n) := by
  have found : ∀ (nodes : List Node) start, n ∈ nodes →
      (nodes.zipIdx start).lookup n = some (start + nodes.idxOf n) := by
    intro nodes
    induction nodes with
    | nil => exact nofun
    | cons m nodes ih =>
      intro start mem
      rw [List.zipIdx_cons, List.lookup_cons, List.idxOf_cons]
      by_cases same : n = m
      · subst same
        simp
      · have other : (n == m) = false := by simpa using same
        have other' : (m == n) = false := by simpa using Ne.symm same
        simp only [other, other', ih (start + 1) ((List.mem_cons.1 mem).resolve_left same),
          Option.some.injEq]
        show _ = start + (nodes.idxOf n + 1)
        omega
  rw [index, found g.nodes 0 mem, Nat.zero_add]

/-- If every item has a value, then so has the list of the items. -/
theorem mapM_some {α β : Type} {f : α → Option β} {h : α → β} {items : List α}
    (all : ∀ a ∈ items, f a = some (h a)) : items.mapM f = some (items.map h) := by
  induction items with
  | nil => rfl
  | cons a items ih =>
    have first := all a (List.mem_cons_self ..)
    have rest := ih fun b mem => all b (List.mem_cons_of_mem _ mem)
    rw [List.mapM_cons, first, rest]
    rfl

/-- No number is missing in a graph whose tables are in step. -/
theorem links?_eq (g : Graph) :
    links? g = some (g.nodes.flatMap fun n =>
      (g.successors n).map fun edge => (g.nodes.idxOf n, g.nodes.idxOf edge.1, edge.2)) := by
  have rows : ∀ n ∈ g.nodes,
      ((g.successors n).mapM fun edge => do
        return (← (index g).lookup n, ← (index g).lookup edge.1, edge.2)) =
      some ((g.successors n).map fun edge =>
        (g.nodes.idxOf n, g.nodes.idxOf edge.1, edge.2)) := by
    intro n hn
    refine mapM_some fun edge mem => ?_
    rw [lookup_index hn, lookup_index (Graph.target_mem_nodes mem)]
    rfl
  unfold links?
  rw [mapM_some rows]
  rfl

/-- The edges of a graph between numbered nodes, grouped by source in the order of the nodes. -/
def links (g : Graph) : List (Nat × Nat × EdgeKind) :=
  (links? g).get (by rw [links?_eq]; rfl)

end InfoFlow.Dot

namespace InfoFlow

/-- The DOT text of a flow graph called `name`, in which `r` names the nodes; `none` if the number
of an end is missing. -/
def FlowGraph.dot? (g : FlowGraph) (r : Registry) (name : String) : Option String := do
  return String.ofList (Dot.write name (Dot.labels g r) (← Dot.links? g))

/-- The DOT text of a graph called `name`, in which `r` names the nodes. -/
def Graph.dot (g : Graph) (r : Registry) (name : String) : String :=
  (g.dot? r name).get (by rw [FlowGraph.dot?, Dot.links?_eq]; rfl)

end InfoFlow
