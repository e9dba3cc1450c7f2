import Mathlib.Data.Finset.Card
import Mathlib.Data.Finset.Dedup
import InfoFlow.Proofs.Body.Effect

/-!
# What a history leaves

`Body.log` lists the operations of a history that were not refused, with their answers. From the log
alone one can tell which edges were inserted (`inserted`) and which nodes were marked sensitive
(`marked`). A body `Stores` a log if its graph and its declarations are the first occurrences in
these lists and everything in them can be used; `Stores.step` says that one operation keeps this,
and by `Body.log_keeps` a history does.

The main result is `Body.after_faithful`: after any history, what can be asked of the graph and of
the seeds is what the log says. `Body.after_atomic` adds what the log leaves out: an operation that
is refused leaves the body as it was, so a history leads where its log leads.
-/

namespace InfoFlow

namespace Operation

/-- The edge that an operation inserts; for an annotation it is known from the answer. -/
def edge? : Operation → Answer → Option Edge
  | .dataEdge source target, _ => some ⟨source, target, .data⟩
  | .controlEdge guard target, _ => some ⟨.control guard, target, .control⟩
  | .markSource _, .node n => some ⟨.boundary .source, n, .data⟩
  | .markSink _, .node n => some ⟨n, .boundary .sink, .data⟩
  | _, _ => none

/-- The node that an operation marks sensitive. -/
def marked? : Operation → Option Node
  | .markSensitive n => some n
  | _ => none

/-- Whether an operation says something about what is sensitive. -/
def declares : Operation → Bool
  | .markSource _ => true
  | .markSink _ => true
  | .markSensitive _ => true
  | .markKnown => true
  | _ => false

end Operation

/-- The operations of a history that were not refused, with their answers. -/
def Body.log (b : Body) : List Operation → List (Operation × Answer)
  | [] => []
  | op :: history =>
    match op.run b with
    | (.ok a, b') => (op, a) :: b'.log history
    | (.error _, b') => b'.log history

/-- What every operation keeps that is not refused, a history keeps. -/
lemma Body.log_keeps {I : List (Operation × Answer) → Body → Prop}
    (step : ∀ {log b op a b'}, I log b → Operation.Effect b op a b' → I (log ++ [(op, a)]) b')
    {log b} (h : I log b) (history : List Operation) :
    I (log ++ b.log history) (b.after history) := by
  induction history generalizing log b with
  | nil =>
    show I (log ++ []) b
    rw [List.append_nil]
    exact h
  | cons op history ih =>
    have after : b.after (op :: history) = (op.run b).2.after history := rfl
    rw [after]
    unfold Body.log
    rcases op.run_cases b with ⟨a, b', run, effect⟩ | ⟨e, run⟩
    · rw [run]
      have rest := ih (step h effect)
      rw [List.append_assoc] at rest
      exact rest
    · rw [run]
      exact ih h

/-- The edges that the operations of a log insert, with repetitions. -/
def inserted (log : List (Operation × Answer)) : List Edge :=
  log.filterMap fun entry => entry.1.edge? entry.2

/-- The nodes that the operations of a log mark sensitive, with repetitions. -/
def marked (log : List (Operation × Answer)) : List Node :=
  log.filterMap fun entry => entry.1.marked?

/-- One more operation inserts at most one more edge. -/
lemma inserted_snoc {log op a} :
    inserted (log ++ [(op, a)]) = inserted log ++ (op.edge? a).toList :=
  filterMap_snoc

/-- One more operation marks at most one more node. -/
lemma marked_snoc {log op a} : marked (log ++ [(op, a)]) = marked log ++ op.marked?.toList :=
  filterMap_snoc

namespace Operation.Effect

variable {b b' : Body} {op : Operation} {a : Answer}

/-- No operation changes the name of a body. -/
lemma name (h : Effect b op a b') : b'.name = b.name := by
  cases h <;> rfl

/-- No operation takes away a node that can be used. -/
lemma check (h : Effect b op a b') {n} (hn : b.registry.check n = .ok ()) :
    b'.registry.check n = .ok () := by
  cases h with
  | var hr => exact (Registry.var_grows hr).check hn
  | param hr => exact (Registry.param_grows hr).check hn
  | control hr => exact Registry.control_check hr hn
  | markSource hr => exact (Registry.var_grows hr).check hn
  | markSink hr => exact (Registry.var_grows hr).check hn
  | _ => exact hn

/-- The graph changes by one edge at most. -/
lemma graph (h : Effect b op a b') :
    b'.graph = match op.edge? a with
      | none => b.graph
      | some e => b.graph.insert e := by
  cases h <;> rfl

/-- The ends of the edge can be used, and a control edge starts at a control node. -/
lemma edge (h : Effect b op a b') {e} (he : op.edge? a = some e) :
    b'.registry.check e.source = .ok () ∧ b'.registry.check e.target = .ok () ∧
      (e.kind = .control → e.source.isControl = true) := by
  cases h with
  | dataEdge hs ht =>
    cases he
    exact ⟨hs, ht, nofun⟩
  | controlEdge hs ht =>
    cases he
    exact ⟨hs, ht, fun _ => rfl⟩
  | markSource hr =>
    cases he
    exact ⟨rfl, Registry.var_check hr, nofun⟩
  | markSink hr =>
    cases he
    exact ⟨Registry.var_check hr, rfl, nofun⟩
  | _ => cases he

/-- An edge is answered as new if and only if the graph did not have it. -/
lemma isNew (h : Effect b op a b') {e new} (he : op.edge? a = some e) (ha : a = .edge new) :
    new = !b.graph.contains e := by
  cases h with
  | dataEdge hs ht =>
    cases he
    cases ha
    rfl
  | controlEdge hs ht =>
    cases he
    cases ha
    rfl
  | _ => cases ha

/-- An edge that is there is not inserted again. -/
lemma insertion (h : Effect b op a b') {e} (he : op.edge? a = some e) :
    b'.graph.contains e = true ∧ (b.graph.contains e = true → b'.graph = b.graph) ∧
      ∀ new, a = .edge new → (new = true ↔ b.graph.contains e = false) := by
  have graph : b'.graph = b.graph.insert e := by
    rw [h.graph, he]
  refine ⟨?_, fun there => ?_, fun new ha => ?_⟩
  · rw [graph]
    exact decide_eq_true (Graph.mem_insert.2 (.inr rfl))
  · rw [graph]
    exact Graph.insert_old there
  · rw [h.isNew he ha, Bool.not_eq_true']

/-- An edge can be inserted if and only if both of its ends can be used. -/
lemma accepted {e} (he : op.edge? (.edge false) = some e) :
    (∃ a b', Effect b op a b') ↔
      b.registry.check e.source = .ok () ∧ b.registry.check e.target = .ok () := by
  cases op with
  | dataEdge source target =>
    cases he
    refine ⟨fun h => ?_, fun h => ⟨_, _, .dataEdge h.1 h.2⟩⟩
    obtain ⟨a, b', h⟩ := h
    cases h with
    | dataEdge hs ht => exact ⟨hs, ht⟩
  | controlEdge guard target =>
    cases he
    refine ⟨fun h => ?_, fun h => ⟨_, _, .controlEdge h.1 h.2⟩⟩
    obtain ⟨a, b', h⟩ := h
    cases h with
    | controlEdge hs ht => exact ⟨hs, ht⟩
  | _ => cases he

/-- A node that is marked as sensitive can be used. -/
lemma marked (h : Effect b op a b') {n} (hn : op.marked? = some n) :
    b.registry.check n = .ok () := by
  cases h with
  | markSensitive hn' =>
    cases hn
    exact hn'
  | _ => cases hn

/-- The declared nodes after an operation: a node that was there already is not added again. -/
lemma declared (h : Effect b op a b') :
    b'.declared =
      if op.declares then
        some (match op.marked? with
          | none => b.declared.getD []
          | some n => if n ∈ b.declared.getD [] then b.declared.getD []
            else b.declared.getD [] ++ [n])
      else b.declared := by
  cases h <;> rfl

end Operation.Effect

/-- The body holds the first occurrences of what was inserted and marked, and all of it can be
used. -/
structure Stores (name : String) (log : List (Operation × Answer)) (b : Body) : Prop where
  name : b.name = name
  edges : b.graph.edges = (inserted log).eraseDups
  declared : b.declared =
    if log.any fun entry => entry.1.declares then some (marked log).eraseDups else none
  ends : ∀ e ∈ inserted log, b.registry.check e.source = .ok () ∧ b.registry.check e.target = .ok ()
  guards : ∀ e ∈ inserted log, e.kind = .control → e.source.isControl = true
  marks : ∀ n ∈ marked log, b.registry.check n = .ok ()

/-- A new body stores the empty log. -/
lemma Stores.new (unit : Nat) (name : String) : Stores name [] (Body.new unit name) where
  name := rfl
  edges := rfl
  declared := rfl
  ends := nofun
  guards := nofun
  marks := nofun

/-- An operation that marks a node declares something. -/
lemma Operation.declares_of_marked? {op : Operation} {n} (h : op.marked? = some n) :
    op.declares = true := by
  cases op with
  | markSensitive => rfl
  | _ => cases h

namespace Stores

variable {name : String} {log : List (Operation × Answer)} {b b' : Body}

/-- Nothing is marked sensitive in a log without declarations. -/
lemma declared_getD (h : Stores name log b) : b.declared.getD [] = (marked log).eraseDups := by
  rw [h.declared]
  split
  case isTrue => rfl
  case isFalse silent =>
    have none : marked log = [] := by
      unfold marked
      rw [List.filterMap_eq_nil_iff]
      intro entry mem
      cases hn : entry.1.marked? with
      | none => rfl
      | some n =>
        have spoken := Operation.declares_of_marked? hn
        exact absurd (List.any_eq_true.2 ⟨entry, mem, spoken⟩) silent
    rw [none]
    rfl

/-- One more operation. -/
lemma step (h : Stores name log b) {op a} (effect : Operation.Effect b op a b') :
    Stores name (log ++ [(op, a)]) b' where
  name := effect.name.trans h.name
  edges := by
    rw [effect.graph, inserted_snoc]
    cases op.edge? a with
    | none => simp [h.edges]
    | some e =>
      simp only [Option.toList_some, eraseDups_snoc, Graph.edges_insert, h.edges,
        List.mem_eraseDups]
  declared := by
    rw [effect.declared, List.any_append, List.any_cons, List.any_nil, Bool.or_false, marked_snoc,
      h.declared_getD]
    cases spoken : op.declares with
    | false =>
      have unmarked : op.marked? = none := by
        cases hn : op.marked? with
        | none => rfl
        | some n =>
          rw [Operation.declares_of_marked? hn] at spoken
          cases spoken
      rw [unmarked, Bool.or_false, Option.toList_none, List.append_nil]
      exact h.declared
    | true =>
      rw [Bool.or_true]
      cases op.marked? with
      | none => simp
      | some n => simp [eraseDups_snoc]
  ends := by
    intro e mem
    rw [inserted_snoc, List.mem_append, Option.mem_toList] at mem
    rcases mem with old | new
    · exact ⟨effect.check (h.ends e old).1, effect.check (h.ends e old).2⟩
    · obtain ⟨hs, ht, -⟩ := effect.edge new
      exact ⟨hs, ht⟩
  guards := by
    intro e mem
    rw [inserted_snoc, List.mem_append, Option.mem_toList] at mem
    rcases mem with old | new
    · exact h.guards e old
    · exact (effect.edge new).2.2
  marks := by
    intro n mem
    rw [marked_snoc, List.mem_append, Option.mem_toList] at mem
    rcases mem with old | new
    · exact effect.check (h.marks n old)
    · exact effect.check (effect.marked new)

/-- A whole history. -/
lemma run (h : Stores name log b) (history : List Operation) :
    Stores name (log ++ b.log history) (b.after history) :=
  Body.log_keeps (fun h effect => h.step effect) h history

end Stores

/-- The answers of the body to what can be asked of its graph and its seeds are those that the log
gives, and inserting an edge again changes nothing. Each answer is read off a table of its own. -/
structure Faithful (name : String) (log : List (Operation × Answer)) (b : Body) : Prop where
  /-- The tables are those that come of adding the edges of the log to empty tables, one after the
  other. -/
  tables : b.graph.toFlowGraph = FlowGraph.none.addAll (inserted log)
  successors : ∀ n, b.graph.successors n =
    (((inserted log).filter (·.source = n)).map fun e => (e.target, e.kind)).eraseDups
  successors_nodup : ∀ n, (b.graph.successors n).Nodup
  contains : ∀ e, b.graph.contains e = true ↔ (e.target, e.kind) ∈ b.graph.successors e.source
  contains_log : ∀ e, b.graph.contains e = true ↔ e ∈ inserted log
  accepted : ∀ (op : Operation) e, op.edge? (.edge false) = some e →
    ((∃ a b', op.run b = (.ok a, b')) ↔
      b.registry.check e.source = .ok () ∧ b.registry.check e.target = .ok ())
  insertion : ∀ (op : Operation) a b' e, op.run b = (.ok a, b') → op.edge? a = some e →
    b'.graph.contains e = true ∧ (b.graph.contains e = true → b'.graph = b.graph) ∧
      ∀ new, a = .edge new → (new = true ↔ b.graph.contains e = false)
  again : ∀ (op : Operation) e, op.edge? (.edge false) = some e → b.graph.contains e = true →
    op.run b = (.ok (.edge false), b)
  nodes : b.graph.nodes = ((inserted log).flatMap fun e => [e.source, e.target]).eraseDups
  nodes_nodup : b.graph.nodes.Nodup
  known : ∀ n, n ∈ b.graph.known ↔ n ∈ b.graph.nodes
  edgeCount : ∀ kind, b.graph.edgeCount kind = ((inserted log).toFinset.filter (·.kind = kind)).card
  size : b.graph.size = (inserted log).toFinset.card
  guards : ∀ e, b.graph.contains e = true → e.kind = .control → e.source.isControl = true
  ends : ∀ n ∈ b.graph.nodes, b.registry.check n = .ok ()
  seeds : b.seeds =
    if log.any fun entry => entry.1.declares then .ok (.boundary .source :: (marked log).eraseDups)
    else .error (.missingSensitivity name)
  marks : ∀ seeds, b.seeds = .ok seeds → ∀ n ∈ seeds, b.registry.check n = .ok ()

namespace Stores

variable {name : String} {log : List (Operation × Answer)} {b : Body}

/-- The graph has the edges that were inserted. -/
lemma contains_iff (h : Stores name log b) {e} : b.graph.contains e = true ↔ e ∈ inserted log := by
  unfold FlowGraph.contains
  rw [decide_eq_true_eq, h.edges, List.mem_eraseDups]

/-- The targets of the edges that leave a node tell these edges apart. -/
lemma successors (h : Stores name log b) (n : Node) :
    b.graph.successors n =
      (((inserted log).filter (·.source = n)).map fun e => (e.target, e.kind)).eraseDups := by
  have apart : ∀ {e e' : Edge} {t},
      (if e.source = n then some (e.target, e.kind) else none) = some t →
      (if e'.source = n then some (e'.target, e'.kind) else none) = some t → e = e' := by
    intro e e' t he he'
    obtain ⟨source, target, kind⟩ := e
    obtain ⟨source', target', kind'⟩ := e'
    simp only [Option.ite_none_right_eq_some] at he he'
    obtain ⟨rfl, he⟩ := he
    obtain ⟨rfl, he'⟩ := he'
    cases he
    cases he'
    rfl
  rw [Graph.successors_eq, Edge.leaving, h.edges, filterMap_eraseDups apart,
    ← List.filterMap_eq_map, List.filterMap_filter]
  simp

/-- The edges of a kind are counted once, however often they were inserted. -/
lemma edgeCount (h : Stores name log b) (kind : EdgeKind) :
    b.graph.edgeCount kind = ((inserted log).toFinset.filter (·.kind = kind)).card := by
  have same : (inserted log).toFinset.filter (·.kind = kind) =
      ((inserted log).eraseDups.filter (·.kind = kind)).toFinset := by
    ext e
    simp
  rw [same, List.toFinset_card_of_nodup ((nodup_eraseDups _).filter _), Graph.edgeCount_eq, h.edges,
    List.countP_eq_length_filter]

/-- Every edge is counted once, by its kind. -/
lemma size (h : Stores name log b) : b.graph.size = (inserted log).toFinset.card := by
  have all : b.graph.size = b.graph.edgeCount .data + b.graph.edgeCount .control := rfl
  have kinds := Finset.card_filter_add_card_filter_not (s := (inserted log).toFinset)
    (p := fun e : Edge => e.kind = .data)
  have others : (inserted log).toFinset.filter (fun e => ¬ e.kind = .data) =
      (inserted log).toFinset.filter (·.kind = .control) := by
    refine Finset.filter_congr fun e _ => ?_
    cases e.kind <;> simp
  rw [others] at kinds
  rw [all, h.edgeCount, h.edgeCount, kinds]

/-- The tables are made by adding the edges of the log. -/
lemma tables (h : Stores name log b) :
    b.graph.toFlowGraph = FlowGraph.none.addAll (inserted log) := by
  have same : b.graph = .ofList (inserted log) := by
    apply Graph.ext_edges
    rw [h.edges, Graph.edges_ofList]
  rw [same]
  rfl

/-- An edge that is there can be inserted again. -/
lemma again (h : Stores name log b) {op : Operation} {e} (he : op.edge? (.edge false) = some e)
    (there : b.graph.contains e = true) : op.run b = (.ok (.edge false), b) := by
  obtain ⟨hs, ht⟩ := h.ends e (h.contains_iff.1 there)
  have same : b.graph.insert e = b.graph := Graph.insert_old there
  cases op with
  | dataEdge source target =>
    cases he
    have run := Operation.run_ok.2 (Operation.Effect.dataEdge hs ht)
    rw [there, same] at run
    exact run
  | controlEdge guard target =>
    cases he
    have run := Operation.run_ok.2 (Operation.Effect.controlEdge hs ht)
    rw [there, same] at run
    exact run
  | _ => cases he

/-- The seeds are the source and the marked nodes in the order of their first marks, if anything was
declared. -/
lemma seeds (h : Stores name log b) :
    b.seeds =
      if log.any fun entry => entry.1.declares then
        .ok (.boundary .source :: (marked log).eraseDups)
      else .error (.missingSensitivity name) := by
  unfold Body.seeds
  rw [h.declared, h.name]
  cases log.any fun entry => entry.1.declares with
  | true => rfl
  | false => rfl

/-- A body that stores its log answers all questions from it. -/
lemma faithful (h : Stores name log b) : Faithful name log b where
  tables := h.tables
  successors := h.successors
  successors_nodup := by
    intro n
    rw [h.successors]
    exact nodup_eraseDups _
  contains := by
    intro e
    rw [h.contains_iff, h.successors, List.mem_eraseDups, List.mem_map]
    refine ⟨fun mem => ⟨e, List.mem_filter.2 ⟨mem, decide_eq_true rfl⟩, rfl⟩, fun mem => ?_⟩
    obtain ⟨⟨source, target, kind⟩, mem, same⟩ := mem
    obtain ⟨mem, hsource⟩ := List.mem_filter.1 mem
    cases of_decide_eq_true hsource
    cases same
    exact mem
  contains_log := fun e => h.contains_iff
  accepted := by
    intro op e he
    simp only [Operation.run_ok]
    exact Operation.Effect.accepted he
  insertion := by
    intro op a b' e run he
    exact (Operation.run_ok.1 run).insertion he
  again := by
    intro op e he there
    exact h.again he there
  nodes := by
    rw [Graph.nodes_eq, h.edges, flatMap_eraseDups]
    rfl
  nodes_nodup := by
    rw [Graph.nodes_eq]
    exact nodup_eraseDups _
  known := by
    intro n
    rw [b.graph.coherent.known, b.graph.coherent.nodes]
  edgeCount := h.edgeCount
  size := h.size
  guards := by
    intro e there
    exact h.guards e (h.contains_iff.1 there)
  ends := by
    intro n mem
    rw [Graph.nodes_eq, List.mem_eraseDups, List.mem_flatMap] at mem
    obtain ⟨e, he, mem⟩ := mem
    rw [h.edges, List.mem_eraseDups] at he
    obtain ⟨hs, ht⟩ := h.ends e he
    rcases List.mem_cons.1 mem with rfl | mem
    · exact hs
    · cases List.mem_singleton.1 mem
      exact ht
  seeds := h.seeds
  marks := by
    intro seeds hseeds n mem
    rw [h.seeds] at hseeds
    split at hseeds
    case isTrue =>
      cases hseeds
      rcases List.mem_cons.1 mem with rfl | mem
      · rfl
      · exact h.marks n (List.mem_eraseDups.1 mem)
    case isFalse => cases hseeds

end Stores

/-- After any history of operations, refused ones included, a body is a faithful store of those that
were not refused. -/
theorem Body.after_faithful (unit : Nat) (name : String) (history : List Operation) :
    Faithful name ((Body.new unit name).log history) ((Body.new unit name).after history) :=
  ((Stores.new unit name).run history).faithful

/-- A history leads to the same body without the operations that are refused in it. -/
lemma Body.after_log (b : Body) (history : List Operation) :
    b.after ((b.log history).map Prod.fst) = b.after history := by
  induction history generalizing b with
  | nil => rfl
  | cons op history ih =>
    have after : b.after (op :: history) = (op.run b).2.after history := rfl
    rw [after]
    unfold Body.log
    rcases op.run_cases b with ⟨a, b', run, -⟩ | ⟨e, run⟩
    · rw [run]
      show (op.run b).2.after ((b'.log history).map Prod.fst) = b'.after history
      rw [run]
      exact ih b'
    · rw [run]
      exact ih b

/-- Refused operations are atomic. After any history, an operation is refused exactly if there is a
reason to refuse it, and then the registry, the graph and the declarations are what they were; so
the body is the one that the operations that were not refused lead to by themselves. -/
theorem Body.after_atomic (unit : Nat) (name : String) (history : List Operation) :
    (∀ (op : Operation) e b', op.run ((Body.new unit name).after history) = (.error e, b') ↔
      op.Refused ((Body.new unit name).after history) e ∧
        b' = (Body.new unit name).after history) ∧
    (Body.new unit name).after (((Body.new unit name).log history).map Prod.fst) =
      (Body.new unit name).after history :=
  ⟨fun _ _ _ => Operation.run_error, Body.after_log _ history⟩

end InfoFlow
