import InfoFlow.Analysis
import InfoFlow.Proofs.Body.History
import InfoFlow.Proofs.Registry.Identity
import InfoFlow.Proofs.Taint.Leak

/-!
# Nodes of a body

The operations on a body are requests to its registry, or they are about nodes that it has. The
registry of a body `Accounts` for the requests in its log (`Owns`), so the private nodes that can be
used in a body are those that its own operations were answered with (`Owns.check_iff`), and an
operation with any other private node among its arguments is refused (`Owns.foreign`).

A body is `Body.Closed` if it uses only nodes that it can use. The report on such a body shows every
node by the text that the registry holds for it (`Closed.report`).
-/

namespace InfoFlow

/-- The number of the body that a private node belongs to. -/
def Node.unit? : Node → Option Nat
  | .boundary _ => none
  | .var id => some id.unit
  | .control id => some id.unit

/-- A private node can be used only in the body that it belongs to. -/
lemma Registry.check_unit {r : Registry} {n} (known : r.check n = .ok ())
    (hidden : n.isPublic = false) : n.unit? = some r.unit := by
  cases n with
  | boundary p => cases hidden
  | var id => exact congrArg some (check_var.1 known).1
  | control id => exact congrArg some (check_control.1 known).1

namespace Operation

/-- The request that an operation makes of the registry, with the answer. -/
def request? : Operation → Answer → Option (Request × Node)
  | .var name, .node n => some (.var name, n)
  | .param index, .node n => some (.param index, n)
  | .control parent branch, .node n => some (.control parent branch, n)
  | .markSource name, .node n => some (.var name, n)
  | .markSink name, .node n => some (.var name, n)
  | _, _ => none

/-- What a request is answered with is a node. -/
lemma request?_answer {op : Operation} {a q n} (h : op.request? a = some (q, n)) : a = .node n := by
  unfold request? at h
  split at h
  case h_6 => cases h
  all_goals
    cases h
    rfl

/-- The nodes that an operation is about. -/
def arguments : Operation → List Node
  | .control parent _ => parent.toList.map .control
  | .dataEdge source target => [source, target]
  | .controlEdge guard target => [.control guard, target]
  | .markSensitive n => [n]
  | _ => []

namespace Effect

variable {b b' : Body} {op : Operation} {a : Answer}

/-- The registry changes by one request at most. -/
lemma registry (h : Effect b op a b') :
    (∃ q n, op.request? a = some (q, n) ∧ a = .node n ∧
      Request.Effect b.registry q n b'.registry) ∨
    op.request? a = none ∧ (∀ n, a ≠ .node n) ∧ b'.registry = b.registry := by
  cases h with
  | var hr => exact .inl ⟨_, _, rfl, rfl, .var hr⟩
  | param hr => exact .inl ⟨_, _, rfl, rfl, .param hr⟩
  | control hr => exact .inl ⟨_, _, rfl, rfl, .control hr⟩
  | markSource hr => exact .inl ⟨_, _, rfl, rfl, .var hr⟩
  | markSink hr => exact .inl ⟨_, _, rfl, rfl, .var hr⟩
  | _ => exact .inr ⟨rfl, nofun, rfl⟩

/-- An operation is about nodes that can be used. -/
lemma arguments (h : Effect b op a b') {n} (hn : n ∈ op.arguments) :
    b.registry.check n = .ok () := by
  cases h with
  | @control parent _ _ _ hr =>
    obtain ⟨known, -⟩ := Registry.control_ok.1 hr
    cases parent with
    | none => cases hn
    | some parent =>
      cases List.mem_singleton.1 hn
      exact known
  | dataEdge hs ht =>
    rcases List.mem_cons.1 hn with rfl | hn
    · exact hs
    · cases List.mem_singleton.1 hn
      exact ht
  | controlEdge hs ht =>
    rcases List.mem_cons.1 hn with rfl | hn
    · exact hs
    · cases List.mem_singleton.1 hn
      exact ht
  | markSensitive known =>
    cases List.mem_singleton.1 hn
    exact known
  | _ => cases hn

end Effect

end Operation

/-- The requests that the operations of a log make of the registry. -/
def requests (log : List (Operation × Answer)) : List (Request × Node) :=
  log.filterMap fun entry => entry.1.request? entry.2

/-- The registry of the body with the number `unit` accounts for the log, and every node that was
answered is one of its own. -/
structure Owns (unit : Nat) (log : List (Operation × Answer)) (b : Body) : Prop where
  unit : b.registry.unit = unit
  accounts : Accounts (requests log) b.registry
  answered : ∀ op n, (op, .node n) ∈ log → n ∈ (requests log).map Prod.snd

namespace Owns

variable {unit : Nat} {log : List (Operation × Answer)} {b b' : Body}

/-- A new body owns what the empty log speaks of. -/
lemma new (unit : Nat) (name : String) : Owns unit [] (Body.new unit name) where
  unit := rfl
  accounts := .empty unit
  answered := fun _ _ mem => absurd mem List.not_mem_nil

/-- A body also owns what its next operation is answered with. -/
lemma step (h : Owns unit log b) {op a} (effect : Operation.Effect b op a b') :
    Owns unit (log ++ [(op, a)]) b' := by
  have requests_snoc : requests (log ++ [(op, a)]) = requests log ++ (op.request? a).toList :=
    filterMap_snoc
  rcases effect.registry with ⟨q, n, hq, rfl, request⟩ | ⟨hq, plain, same⟩
  · rw [hq] at requests_snoc
    refine ⟨request.toExtends.unit.trans h.unit, ?_, fun op' n' mem => ?_⟩
    · rw [requests_snoc]
      exact h.accounts.step request
    · rw [requests_snoc, List.map_append]
      rcases List.mem_append.1 mem with old | new
      · exact List.mem_append_left _ (h.answered op' n' old)
      · cases List.mem_singleton.1 new
        exact List.mem_append_right _ (List.mem_singleton_self _)
  · rw [hq, Option.toList_none, List.append_nil] at requests_snoc
    refine ⟨by rw [same, h.unit], ?_, fun op' n' mem => ?_⟩
    · rw [requests_snoc, same]
      exact h.accounts
    · rw [requests_snoc]
      rcases List.mem_append.1 mem with old | new
      · exact h.answered op' n' old
      · cases List.mem_singleton.1 new
        exact absurd rfl (plain n')

/-- A body owns what all of its operations are answered with. -/
lemma run (h : Owns unit log b) (history : List Operation) :
    Owns unit (log ++ b.log history) (b.after history) :=
  Body.log_keeps (fun h effect => h.step effect) h history

/-- The private nodes that can be used are those that operations were answered with. -/
lemma check_iff (h : Owns unit log b) {n} (hidden : n.isPublic = false) :
    b.registry.check n = .ok () ↔ ∃ op, (op, .node n) ∈ log := by
  rw [h.accounts.check_iff]
  refine ⟨fun known => ?_, fun known => ?_⟩
  · rcases known with mem | ⟨p, rfl, -⟩
    · obtain ⟨⟨q, n⟩, asked, rfl⟩ := List.mem_map.1 mem
      obtain ⟨⟨op, a⟩, logged, hq⟩ := List.mem_filterMap.1 asked
      cases Operation.request?_answer hq
      exact ⟨op, logged⟩
    · cases hidden
  · obtain ⟨op, mem⟩ := known
    exact .inl (h.answered op n mem)

/-- A node that the body issued carries its number, unless it is public. -/
lemma answered_unit (h : Owns unit log b) {op n} (mem : (op, .node n) ∈ log)
    (hidden : n.isPublic = false) : n.unit? = some unit := by
  rw [Registry.check_unit ((h.check_iff hidden).2 ⟨op, mem⟩) hidden, h.unit]

/-- An operation that is about a private node of another body is refused. -/
lemma foreign (h : Owns unit log b) {op : Operation} {n} (mem : n ∈ op.arguments)
    (hidden : n.isPublic = false) (unknown : ∀ op, (op, .node n) ∉ log) :
    ∃ e, op.run b = (.error e, b) := by
  rcases op.run_cases b with ⟨a, b', -, effect⟩ | refused
  · obtain ⟨op', issued⟩ := (h.check_iff hidden).1 (effect.arguments mem)
    exact absurd issued (unknown op')
  · exact refused

end Owns

namespace Body

/-- The nodes that occur in a body: in its graph, among its seeds, or around a control node. -/
inductive Uses (b : Body) : Node → Prop where
  | graph {n} :
    n ∈ b.graph.nodes →
    Uses b n
  | seed {seeds n} :
    b.seeds = .ok seeds →
    n ∈ seeds →
    Uses b n
  | parent {info id} :
    info ∈ b.registry.controls →
    info.parent = some id →
    Uses b (.control id)

/-- A body uses only nodes that it can use, and control nodes from the outside in. -/
structure Closed (b : Body) : Prop where
  layered : b.registry.Layered
  uses : ∀ n, b.Uses n → b.registry.check n = .ok ()

/-- After any history a body uses only nodes that it can use. -/
lemma after_closed (unit : Nat) (name : String) (history : List Operation) :
    ((Body.new unit name).after history).Closed := by
  have layered := ((Owns.new unit name).run history).accounts.layered
  have faithful := ((Stores.new unit name).run history).faithful
  refine ⟨layered, fun n uses => ?_⟩
  cases uses with
  | graph mem => exact faithful.ends n mem
  | seed known mem => exact faithful.marks _ known n mem
  | @parent info id mem hparent =>
    obtain ⟨slot, lt, rfl⟩ := List.mem_iff_getElem.1 mem
    have slots := List.getElem?_eq_getElem lt
    obtain ⟨own, below⟩ := layered slot id _ (by rw [slots, ← hparent])
    exact Registry.check_control.2 ⟨own, Nat.lt_trans below lt⟩

end Body

/-- A finding tells a leak by the texts that the registry holds for the nodes on its witness. -/
structure Finding.Tells (r : Registry) (leak : Leak) (f : Finding) : Prop where
  channel : f.channel = leak.channel.name
  kind : f.kind = leak.kind
  witness : List.Forall₂ r.Shows leak.witness f.witness

namespace Body.Closed

variable {b : Body} {seeds : List Node}

/-- Every node of a witness has a text of its own body. -/
lemma shows (closed : b.Closed) (known : b.seeds = .ok seeds) {n m}
    (mem : m ∈ (Taint.ofSeeds b.graph seeds).witness n) :
    b.registry.Shows m (b.registry.display m) := by
  have used : b.Uses m := by
    rcases Taint.mem_witness mem with seed | node
    · exact .seed known seed
    · exact .graph node
  obtain ⟨text, shows⟩ := closed.layered.shows (closed.uses m used)
  rw [shows.display closed.layered]
  exact shows

/-- A finding tells the leak that it is made from. -/
lemma tells (closed : b.Closed) (known : b.seeds = .ok seeds) {leak}
    (mem : leak ∈ (Taint.ofSeeds b.graph seeds).leaks) :
    Finding.Tells b.registry leak (Finding.ofLeak b.registry leak) := by
  rw [Taint.leaks_eq] at mem
  obtain ⟨tag, -, found⟩ := List.mem_filterMap.1 mem
  obtain ⟨before, c, -, -, -, rfl⟩ := Taint.shown?_eq_some.1 found
  refine ⟨rfl, rfl, List.forall₂_map_right_iff.2 ?_⟩
  exact List.forall₂_same.2 fun m hm => closed.shows known hm

/-- The findings of a report are the leaks, told by the texts of the registry. -/
lemma report (closed : b.Closed) {report} (h : b.analyze = .ok report) :
    ∃ seeds, b.seeds = .ok seeds ∧
      List.Forall₂ (Finding.Tells b.registry) (Taint.ofSeeds b.graph seeds).leaks
        report.findings := by
  unfold analyze at h
  cases known : b.seeds with
  | error e =>
    rw [known] at h
    cases h
  | ok seeds =>
    rw [known] at h
    cases h
    refine ⟨seeds, rfl, List.forall₂_map_right_iff.2 ?_⟩
    exact List.forall₂_same.2 fun leak mem => closed.tells known mem

end Body.Closed

end InfoFlow
