import InfoFlow.Graph.Dot
import InfoFlow.Proofs.Listing
import InfoFlow.Proofs.Reachability

/-!
# DOT texts can be read back

A code is `Dot.Delimited` if its words can be cut off the front of a text in one way only. Quoted
texts are such a code, because no character is written in a way that starts with a quotation mark,
and so are the lines of nodes and edges, the `Dot.Statement`s of a DOT text. `Dot.Delimited.flatMap`
carries this over to sequences of words up to a mark that starts no word, and `Dot.write_injective`
concludes that a DOT text determines its name, its labels and its links.

The links of a graph are its edges in another order, and their numbers are those of nodes
(`Dot.links_perm`). The result about graphs is `Graph.dot_unambiguous`.
-/

namespace InfoFlow

namespace Dot

/-- A word can be cut off the front of a text in one way only. -/
def Delimited {α : Type} (code : α → List Char) : Prop :=
  ∀ {a b r s}, code a ++ r = code b ++ s → a = b ∧ r = s

section Delimited

variable {α : Type} {code : α → List Char}

/-- A sequence of words can be cut off up to a mark that starts no word. -/
lemma Delimited.flatMap (delimited : Delimited code) {mark : Char}
    (apart : ∀ a, ∃ c rest, code a = c :: rest ∧ c ≠ mark) {as bs : List α} {r s}
    (h : as.flatMap code ++ mark :: r = bs.flatMap code ++ mark :: s) : as = bs ∧ r = s := by
  induction as generalizing bs with
  | nil =>
    cases bs with
    | nil => exact ⟨rfl, (List.cons.inj h).2⟩
    | cons b bs =>
      obtain ⟨c, rest, word, ne⟩ := apart b
      rw [List.flatMap_cons, word] at h
      exact absurd (List.cons.inj h).1.symm ne
  | cons a as ih =>
    cases bs with
    | nil =>
      obtain ⟨c, rest, word, ne⟩ := apart a
      rw [List.flatMap_cons, word] at h
      exact absurd (List.cons.inj h).1 ne
    | cons b bs =>
      rw [List.flatMap_cons, List.flatMap_cons, List.append_assoc, List.append_assoc] at h
      obtain ⟨rfl, rest⟩ := delimited h
      obtain ⟨rfl, rfl⟩ := ih rest
      exact ⟨rfl, rfl⟩

end Delimited

/-- The written forms of a character: behind a backslash, or the character itself. -/
lemma escapeChar_cases (c : Char) :
    (escapeChar c = ['\\', c] ∧ (c = '\\' ∨ c = '"')) ∨
      (escapeChar c = [c] ∧ c ≠ '\\' ∧ c ≠ '"') := by
  unfold escapeChar
  by_cases backslash : c = '\\'
  · subst backslash
    exact .inl ⟨rfl, .inl rfl⟩
  · by_cases mark : c = '"'
    · subst mark
      exact .inl ⟨rfl, .inr rfl⟩
    · rw [if_neg backslash, if_neg mark]
      exact .inr ⟨rfl, backslash, mark⟩

/-- The text with another form for one character. -/
def replaceChar (c : Char) (form : List Char) (text : List Char) : List Char :=
  text.flatMap fun d => if d = c then form else [d]

/-- Both characters are escaped as if backslashes were doubled first, and a backslash was put before
quotation marks then. -/
lemma flatMap_escapeChar (text : List Char) :
    text.flatMap escapeChar =
      replaceChar '"' ['\\', '"'] (replaceChar '\\' ['\\', '\\'] text) := by
  unfold replaceChar
  rw [List.flatMap_assoc]
  refine List.flatMap_congr fun c _ => ?_
  rcases escapeChar_cases c with ⟨form, rfl | rfl⟩ | ⟨form, backslash, mark⟩
  · rfl
  · rfl
  · rw [form, if_neg backslash, List.flatMap_singleton, if_neg mark]

/-- What a character is escaped to can be told apart from what follows. -/
lemma escapeChar_delimited : Delimited escapeChar := by
  intro c d r s h
  rcases escapeChar_cases c with ⟨form, -⟩ | ⟨form, plain, -⟩
  · rcases escapeChar_cases d with ⟨form', -⟩ | ⟨form', plain', -⟩
    · rw [form, form'] at h
      cases h
      exact ⟨rfl, rfl⟩
    · rw [form, form'] at h
      exact absurd (List.cons.inj h).1.symm plain'
  · rcases escapeChar_cases d with ⟨form', -⟩ | ⟨form', plain', -⟩
    · rw [form, form'] at h
      exact absurd (List.cons.inj h).1 plain
    · rw [form, form'] at h
      cases h
      exact ⟨rfl, rfl⟩

/-- No escaped character looks like the closing quote. -/
lemma escapeChar_apart (c : Char) : ∃ d rest, escapeChar c = d :: rest ∧ d ≠ '"' := by
  rcases escapeChar_cases c with ⟨form, -⟩ | ⟨form, -, plain⟩
  · exact ⟨_, _, form, by decide⟩
  · exact ⟨_, _, form, plain⟩

/-- Where a quoted text ends can be seen without knowing what follows. -/
lemma quote_delimited : Delimited quote := by
  intro text text' r s h
  unfold quote at h
  rw [List.cons_append, List.cons_append, List.append_assoc, List.append_assoc] at h
  obtain ⟨same, rest⟩ := escapeChar_delimited.flatMap escapeChar_apart (List.cons.inj h).2
  exact ⟨String.toList_inj.1 same, rest⟩

/-- A number ends before a blank. -/
lemma toDigits_delimited : Delimited fun n => Nat.toDigits 10 n ++ [' '] := by
  intro m n r s h
  have fresh : ∀ k, ' ' ∉ Nat.toDigits 10 k := by
    intro k mem
    exact absurd (Nat.isDigit_of_mem_toDigits (by decide) (by decide) mem) (by decide)
  rw [List.append_assoc, List.append_assoc] at h
  obtain ⟨same, rest⟩ := cut_unique (fresh m) (fresh n) h
  have value := congrArg (fun digits => Nat.ofDigitChars 10 digits 0) same
  simp only [Nat.ofDigitChars_ten_toDigits] at value
  exact ⟨value, rest⟩

/-- The two shapes can be told apart. -/
lemma shape_delimited : Delimited fun isPublic => (shape isPublic).toList := by
  intro p q r s h
  cases p <;> cases q <;> simp_all [shape]

/-- The two line styles can be told apart. -/
lemma style_delimited : Delimited fun kind => (style kind).toList := by
  intro p q r s h
  cases p <;> cases q <;> simp_all [style]

/-- A line of a DOT text. -/
inductive Statement where
  | node (index : Nat) (label : String) (isPublic : Bool)
  | edge (source target : Nat) (kind : EdgeKind)

/-- The text of a line. -/
def Statement.text : Statement → List Char
  | .node index label isPublic => nodeLine index label isPublic
  | .edge source target kind => edgeLine source target kind

section Lines

variable {index source target : Nat} {label : String} {isPublic : Bool} {kind : EdgeKind}
  {rest : List Char}

/-- The parts of the line of a node, in front of anything else. -/
lemma nodeLine_append :
    nodeLine index label isPublic ++ rest =
      '\t' :: (Nat.toDigits 10 index ++ [' '] ++ '[' :: (" label = ".toList ++ (quote label ++
        (", shape = ".toList ++ ((shape isPublic).toList ++ (" ]\n".toList ++ rest)))))) := by
  simp [nodeLine]

/-- The parts of the line of an edge, in front of anything else. -/
lemma edgeLine_append :
    edgeLine source target kind ++ rest =
      '\t' :: (Nat.toDigits 10 source ++ [' '] ++ '-' :: ("> ".toList ++
        (Nat.toDigits 10 target ++ [' '] ++ ("[ style = ".toList ++ ((style kind).toList ++
          (" ]\n".toList ++ rest)))))) := by
  simp [edgeLine]

/-- The mark behind the first number tells nodes from edges. -/
lemma nodeLine_ne_edgeLine {rest'} :
    nodeLine index label isPublic ++ rest ≠ edgeLine source target kind ++ rest' := by
  intro h
  rw [nodeLine_append, edgeLine_append] at h
  obtain ⟨-, behind⟩ := toDigits_delimited (List.cons.inj h).2
  exact absurd (List.cons.inj behind).1 (by decide)

end Lines

/-- The line of a statement can be told apart from what follows. -/
lemma text_delimited : Delimited Statement.text := by
  intro a b r s h
  cases a with
  | node index label isPublic =>
    cases b with
    | node index' label' isPublic' =>
      simp only [Statement.text, nodeLine_append] at h
      obtain ⟨rfl, behind⟩ := toDigits_delimited (List.cons.inj h).2
      obtain ⟨rfl, behind'⟩ := quote_delimited (List.append_cancel_left (List.cons.inj behind).2)
      obtain ⟨rfl, behind''⟩ := shape_delimited (List.append_cancel_left behind')
      exact ⟨rfl, List.append_cancel_left behind''⟩
    | edge => exact absurd h nodeLine_ne_edgeLine
  | edge source target kind =>
    cases b with
    | node => exact absurd h.symm nodeLine_ne_edgeLine
    | edge source' target' kind' =>
      simp only [Statement.text, edgeLine_append] at h
      obtain ⟨rfl, behind⟩ := toDigits_delimited (List.cons.inj h).2
      obtain ⟨rfl, behind'⟩ := toDigits_delimited (List.append_cancel_left (List.cons.inj behind).2)
      obtain ⟨rfl, behind''⟩ := style_delimited (List.append_cancel_left behind')
      exact ⟨rfl, List.append_cancel_left behind''⟩

/-- No statement looks like the closing brace. -/
lemma text_apart (a : Statement) : ∃ c rest, a.text = c :: rest ∧ c ≠ '\x7d' := by
  cases a with
  | node => exact ⟨_, _, rfl, by decide⟩
  | edge => exact ⟨_, _, rfl, by decide⟩

/-- The lines of a DOT text. -/
def statements (labels : List (String × Bool)) (links : List (Nat × Nat × EdgeKind)) :
    List Statement :=
  (labels.mapIdx fun index node => .node index node.1 node.2) ++
    links.map fun link => .edge link.1 link.2.1 link.2.2

/-- What a line says of a node. -/
def Statement.node? : Statement → Option (String × Bool)
  | .node _ label isPublic => some (label, isPublic)
  | .edge .. => none

/-- What a line says of an edge. -/
def Statement.link? : Statement → Option (Nat × Nat × EdgeKind)
  | .node .. => none
  | .edge source target kind => some (source, target, kind)

section Texts

variable {labels labels' : List (String × Bool)} {links links' : List (Nat × Nat × EdgeKind)}
  {name name' : String}

/-- The statements tell the nodes. -/
lemma nodes_statements : (statements labels links).filterMap Statement.node? = labels := by
  have nodes : (labels.mapIdx fun index node => Statement.node index node.1 node.2).filterMap
      Statement.node? = labels := by
    rw [List.mapIdx_eq_zipIdx_map, List.filterMap_map]
    exact (congrFun List.filterMap_eq_map _).trans (List.zipIdx_map_fst 0 labels)
  have edges : (links.map fun link => Statement.edge link.1 link.2.1 link.2.2).filterMap
      Statement.node? = [] := by
    rw [List.filterMap_map]
    exact List.filterMap_eq_nil_iff.2 fun _ _ => rfl
  unfold statements
  rw [List.filterMap_append, nodes, edges, List.append_nil]

/-- The statements tell the edges. -/
lemma links_statements : (statements labels links).filterMap Statement.link? = links := by
  have nodes : (labels.mapIdx fun index node => Statement.node index node.1 node.2).filterMap
      Statement.link? = [] := by
    rw [List.mapIdx_eq_zipIdx_map, List.filterMap_map]
    exact List.filterMap_eq_nil_iff.2 fun _ _ => rfl
  have edges : (links.map fun link => Statement.edge link.1 link.2.1 link.2.2).filterMap
      Statement.link? = links := by
    rw [List.filterMap_map]
    exact List.filterMap_some
  unfold statements
  rw [List.filterMap_append, nodes, edges, List.nil_append]

/-- Different graphs have different statements. -/
lemma statements_injective (h : statements labels links = statements labels' links') :
    labels = labels' ∧ links = links' := by
  have nodes := congrArg (List.filterMap Statement.node?) h
  have edges := congrArg (List.filterMap Statement.link?) h
  rw [nodes_statements, nodes_statements] at nodes
  rw [links_statements, links_statements] at edges
  exact ⟨nodes, edges⟩

/-- The lines of the nodes are their statements, numbered from `index` on. -/
lemma nodeLines_eq (index : Nat) (labels : List (String × Bool)) :
    nodeLines index labels =
      (labels.mapIdx fun i node => Statement.node (index + i) node.1 node.2).flatMap
        Statement.text := by
  induction labels generalizing index with
  | nil => rfl
  | cons node labels ih =>
    obtain ⟨label, isPublic⟩ := node
    unfold nodeLines
    rw [ih, List.mapIdx_cons, List.flatMap_cons]
    simp [Statement.text, Nat.add_assoc, Nat.add_comm 1]

/-- A text is a name and statements, with a head and a foot. -/
lemma write_eq :
    write name labels links = "digraph ".toList ++ (quote name ++ ([' ', '\x7b', '\n'] ++
      ((statements labels links).flatMap Statement.text ++ ['\x7d']))) := by
  have nodes := nodeLines_eq 0 labels
  simp only [Nat.zero_add] at nodes
  unfold write statements
  rw [nodes, List.flatMap_append, List.flatMap_map]
  simp only [List.append_assoc]
  rfl

/-- A text tells its name, the nodes and the edges. -/
lemma write_injective (h : write name labels links = write name' labels' links') :
    name = name' ∧ labels = labels' ∧ links = links' := by
  rw [write_eq, write_eq] at h
  obtain ⟨same, behind⟩ := quote_delimited (List.append_cancel_left h)
  obtain ⟨lines, -⟩ := text_delimited.flatMap text_apart (List.append_cancel_left behind)
  exact ⟨same, statements_injective lines⟩

end Texts

section Graphs

variable {g : Graph}

/-- The links are found by looking up the numbers of all ends. -/
lemma links_eq : links g = g.nodes.flatMap fun n =>
    (g.successors n).map fun edge => (g.nodes.idxOf n, g.nodes.idxOf edge.1, edge.2) := by
  unfold links
  simp only [links?_eq, Option.get_some]

/-- The edges that leave a node, picked from all edges. -/
lemma successors_filter (n : Node) :
    g.successors n = (g.edges.filter fun e => e.source = n).map fun e => (e.target, e.kind) := by
  rw [Graph.successors_eq, Edge.leaving, ← List.filterMap_eq_map, List.filterMap_filter]
  simp only [decide_eq_true_eq, Function.comp_apply]

/-- Every node of a graph has one number. -/
lemma nodes_nodup : g.nodes.Nodup := by
  rw [Graph.nodes_eq]
  exact nodup_eraseDups _

/-- The links of a graph are its edges, given by the numbers of their ends. -/
lemma links_perm : (links g).Perm
    (g.edges.map fun e => (g.nodes.idxOf e.source, g.nodes.idxOf e.target, e.kind)) := by
  have sources : ∀ e ∈ g.edges, e.source ∈ g.nodes :=
    fun e mem => Graph.mem_nodes.2 ⟨e, mem, .inl rfl⟩
  have sorted := flatMap_filter_perm nodes_nodup sources
  have grouped : links g = (g.nodes.flatMap fun n => g.edges.filter fun e => e.source = n).map
      fun e => (g.nodes.idxOf e.source, g.nodes.idxOf e.target, e.kind) := by
    rw [links_eq, List.map_flatMap]
    refine List.flatMap_congr fun n _ => ?_
    rw [successors_filter, List.map_map]
    refine List.map_congr_left fun e mem => ?_
    have source : e.source = n := by simpa using (List.mem_filter.1 mem).2
    rw [← source]
    rfl
  rw [grouped]
  exact sorted.map _

/-- The first lines of the text of a graph are those of its nodes. -/
lemma statements_labels {r : Registry} {links} :
    statements (labels g r) links =
      (g.nodes.mapIdx fun index n => Statement.node index (r.display n) n.isPublic) ++
        links.map fun link => Statement.edge link.1 link.2.1 link.2.2 := by
  unfold statements labels
  rw [List.mapIdx_eq_zipIdx_map, List.mapIdx_eq_zipIdx_map, List.zipIdx_map, List.map_map]
  rfl

/-- The ends of an edge are found under their numbers. -/
lemma getElem?_ends {e} (mem : e ∈ g.edges) :
    g.nodes[g.nodes.idxOf e.source]? = some e.source ∧
      g.nodes[g.nodes.idxOf e.target]? = some e.target :=
  ⟨List.getElem?_idxOf (Graph.mem_nodes.2 ⟨e, mem, .inl rfl⟩),
    List.getElem?_idxOf (Graph.mem_nodes.2 ⟨e, mem, .inr rfl⟩)⟩

/-- The edges join nodes that are listed. -/
lemma links_lt {link} (mem : link ∈ links g) :
    link.1 < g.nodes.length ∧ link.2.1 < g.nodes.length := by
  obtain ⟨e, he, rfl⟩ := List.mem_map.1 (links_perm.mem_iff.1 mem)
  obtain ⟨source, target⟩ := getElem?_ends he
  exact ⟨(List.getElem?_eq_some_iff.1 source).1, (List.getElem?_eq_some_iff.1 target).1⟩

/-- The text of a graph is made of its labels and its links. -/
lemma dot?_eq {r : Registry} {name} :
    g.dot? r name = some (String.ofList (write name (labels g r) (links g))) := by
  unfold FlowGraph.dot?
  rw [links_eq, links?_eq]
  rfl

/-- The text of a graph is made of its labels and its links, none of which is missing. -/
lemma dot_eq {r : Registry} {name} :
    g.dot r name = String.ofList (write name (labels g r) (links g)) := by
  unfold Graph.dot
  simp only [dot?_eq, Option.get_some]

end Graphs

/-- What the DOT text of a graph consists of. -/
structure Presents (g : Graph) (r : Registry) (name : String) : Prop where
  /-- A heading with the name, one line for each node with its number, text and shape, the lines of
  the links, and a brace. -/
  text : (g.dot r name).toList =
    "digraph ".toList ++ (quote name ++ ([' ', '\x7b', '\n'] ++
      (((g.nodes.mapIdx fun index n => Statement.node index (r.display n) n.isPublic) ++
        (links g).map fun link => Statement.edge link.1 link.2.1 link.2.2).flatMap Statement.text ++
          ['\x7d'])))
  /-- No number is missing: looking up the ends of the edges that leave the nodes finds all of them,
  and so there is a text. -/
  lookups : (∀ n ∈ g.nodes, ∀ edge ∈ g.successors n,
      (index g).lookup n = some (g.nodes.idxOf n) ∧
        (index g).lookup edge.1 = some (g.nodes.idxOf edge.1)) ∧
    g.dot? r name = some (g.dot r name)
  /-- No node has two lines. -/
  nodes : g.nodes.Nodup
  /-- There is one link for each edge. -/
  edges : (links g).Perm
    (g.edges.map fun e => (g.nodes.idxOf e.source, g.nodes.idxOf e.target, e.kind))
  /-- The ends of an edge are found under their numbers. -/
  ends : ∀ e ∈ g.edges, g.nodes[g.nodes.idxOf e.source]? = some e.source ∧
    g.nodes[g.nodes.idxOf e.target]? = some e.target
  /-- Links lead between numbers of nodes. -/
  bounds : ∀ link ∈ links g, link.1 < g.nodes.length ∧ link.2.1 < g.nodes.length

end Dot

/-- The DOT text of a graph has one line for each node and one for each edge, and it is unambiguous:
whatever the names and labels are, two texts are the same only if the names, the labels and shapes
of the nodes and the links are the same. What stands between quotation marks is escaped by two
replacements, of backslashes first. -/
theorem Graph.dot_unambiguous :
    (∀ (g : Graph) (r : Registry) (name : String), Dot.Presents g r name) ∧
    (∀ (g g' : Graph) (r r' : Registry) (name name' : String),
      g.dot r name = g'.dot r' name' ↔
        name = name' ∧ Dot.labels g r = Dot.labels g' r' ∧ Dot.links g = Dot.links g') ∧
    ∀ label : String, Dot.quote label = '"' :: Dot.replaceChar '"' ['\\', '"']
      (Dot.replaceChar '\\' ['\\', '\\'] label.toList) ++ ['"'] := by
  refine ⟨fun g r name => ?_, fun g g' r r' name name' => ⟨fun h => ?_, fun h => ?_⟩,
    fun label => ?_⟩
  · exact {
      text := by rw [Dot.dot_eq, String.toList_ofList, Dot.write_eq, Dot.statements_labels]
      lookups := by
        rw [Dot.dot?_eq, Dot.dot_eq]
        exact ⟨fun n hn edge mem =>
          ⟨Dot.lookup_index hn, Dot.lookup_index (Graph.target_mem_nodes mem)⟩, rfl⟩
      nodes := Dot.nodes_nodup
      edges := Dot.links_perm
      ends := fun e => Dot.getElem?_ends
      bounds := fun link => Dot.links_lt }
  · rw [Dot.dot_eq, Dot.dot_eq, String.ofList_inj] at h
    exact Dot.write_injective h
  · obtain ⟨rfl, labels, links⟩ := h
    rw [Dot.dot_eq, Dot.dot_eq, labels, links]
  · rw [← Dot.flatMap_escapeChar]
    rfl

end InfoFlow
