import InfoFlow.Proofs.Facts.Depiction
import InfoFlow.Proofs.Facts.Reading
import InfoFlow.Proofs.Reachability

/-!
# The graph of references

The facts of a body describe a graph without building anything: `BodyFacts.Flows` are its edges and
`BodyFacts.Seed` the nodes that sensitive data starts from, all given by references.

The body that the facts make is an image of this graph under `Facts.Denotes`. `Rendered` collects
what holds of such a body, and `Mirrors` says that edges between its nodes are edges between
references. So reachability is the same in both: `Mirrors.reference` goes from a node that is
reached to its reference and `Mirrors.node` goes back.
-/

namespace InfoFlow

open Facts

namespace Boundary

/-- How references speak of a boundary node. -/
def reference : Boundary → Reference
  | .param index => .param (Int64.ofNat index.val)
  | c => .boundary c

/-- Every position is that of some number. -/
lemma ofInt64_ofNat (p : ParamIndex) : ParamIndex.ofInt64 (Int64.ofNat p.val) = .ok p := by
  have e : (Int64.ofNat p.val).toInt = p.val := Int64.toInt_ofNat_of_lt p.isLt
  unfold ParamIndex.ofInt64
  rw [if_pos (by omega)]
  obtain ⟨val, lt⟩ := p
  simp only [e, Int.toNat_natCast]

/-- A boundary node is denoted by its reference only. -/
lemma reference_of_denotes {r issued x} {c : Boundary} (h : Denotes r issued x (.boundary c)) :
    x = c.reference := by
  cases h with
  | boundary hp =>
    cases c with
    | param index => exact absurd rfl (hp index)
    | _ => rfl
  | param hi => rw [reference, ParamIndex.ofInt64_inj hi (ofInt64_ofNat _)]

/-- The reference of a boundary node denotes no other node. -/
lemma denotes_reference {r issued n} {c : Boundary} (h : Denotes r issued c.reference n) :
    n = .boundary c := by
  cases c with
  | param index =>
    cases h with
    | param hi =>
      rw [ofInt64_ofNat] at hi
      cases hi
      rfl
  | _ => cases h; rfl

end Boundary

namespace Reference

/-- The id of the control node that is named where a control edge starts. -/
def guardId (raw : String) : String :=
  match raw.toList with
  | '#' :: id => String.ofList id
  | _ => raw

/-- A control node that is named where a control edge starts has that id. -/
lemma IsGuard.eq_guardId {raw id} (h : IsGuard raw id) : id = guardId raw := by
  unfold guardId
  cases h with
  | inl h =>
    cases parse_iff.1 h with
    | control e =>
      rw [eq_hash.2 (e.trans (by rw [String.ofList_toList]))]
      exact String.ofList_toList.symm
  | inr h =>
    cases parse_iff.1 h with
    | var _ plain =>
      split
      case h_1 text hraw => exact absurd (eq_hash.1 hraw) (plain _)
      case h_2 => rfl

end Reference

namespace BodyFacts

/-- The edges that facts speak of. -/
inductive Flows (f : BodyFacts) : EdgeKind → Reference → Reference → Prop where
  | data {a b x y} :
    (a, b) ∈ f.data →
    Reference.parse a = .ok x →
    Reference.parse b = .ok y →
    Flows f .data x y
  | control {a b y} :
    (a, b) ∈ f.control →
    Reference.parse b = .ok y →
    Flows f .control (.control (Reference.guardId a)) y
  | source {names name} :
    f.sources = some names →
    name ∈ names →
    Flows f .data (.boundary .source) (.var name)
  | sink {names name} :
    f.sinks = some names →
    name ∈ names →
    Flows f .data (.var name) (.boundary .sink)

/-- What facts declare sensitive, the origin of annotated sources included. -/
inductive Sensitive (f : BodyFacts) : Reference → Prop where
  | source :
    Sensitive f (.boundary .source)
  | param {indices index} :
    f.sensitiveParams = some indices →
    index ∈ indices →
    Sensitive f (.param index)
  | place {raws raw x} :
    f.sensitiveLocals = some raws →
    raw ∈ raws →
    Reference.parse raw = .ok x →
    Sensitive f x

/-- Where sensitive data starts from: the shared state is no seed. -/
def Seed (f : BodyFacts) (x : Reference) : Prop :=
  f.Sensitive x ∧ x ≠ .boundary .statics

/-- A path of data edges leads to `x` from a seed, through nodes other than the shared state. -/
def DirectlyReached (f : BodyFacts) (x : Reference) : Prop :=
  Reachable (f.Flows .data) (.boundary .statics) f.Seed x

/-- A path of edges leads to `x` from a seed, through nodes other than the shared state. -/
def Reached (f : BodyFacts) (x : Reference) : Prop :=
  Reachable (fun x y => ∃ kind, f.Flows kind x y) (.boundary .statics) f.Seed x

/-- The edges that facts speak of are those of their statements. -/
lemma flows_iff {f : BodyFacts} {declared} (ready : ∀ st ∈ f.statements, st.Ready declared)
    {kind x y} : f.Flows kind x y ↔ ∃ st ∈ f.statements, st.Edge kind x y := by
  refine ⟨fun h => ?_, fun h => ?_⟩
  · cases h with
    | data mem hx hy => exact ⟨.data _, mem_statements.2 mem, .data hx hy⟩
    | @control a b y mem hy =>
      have stated : Statement.control (a, b) ∈ f.statements := mem_statements.2 mem
      -- the guard can be read, because the statement is ready
      cases ready _ stated with
      | edge hedge =>
        cases hedge with
        | control guard =>
          have e := guard.eq_guardId
          subst e
          exact ⟨_, stated, .control guard hy⟩
      | mark hmark => cases hmark
    | source hs mem => exact ⟨.source _, mem_statements.2 ⟨_, hs, mem⟩, .source⟩
    | sink hs mem => exact ⟨.sink _, mem_statements.2 ⟨_, hs, mem⟩, .sink⟩
  · obtain ⟨st, mem, hedge⟩ := h
    have mem' := mem_statements.1 mem
    cases hedge with
    | data hx hy => exact .data mem' hx hy
    | control guard hy =>
      rw [guard.eq_guardId]
      exact .control mem' hy
    | source =>
      obtain ⟨names, hs, hname⟩ := mem'
      exact .source hs hname
    | sink =>
      obtain ⟨names, hs, hname⟩ := mem'
      exact .sink hs hname

/-- What facts declare sensitive is what their statements do, and the origin of annotated sources.
-/
lemma sensitive_iff {f : BodyFacts} {x} :
    f.Sensitive x ↔ x = .boundary .source ∨ ∃ st ∈ f.statements, st.Marks x := by
  refine ⟨fun h => ?_, fun h => ?_⟩
  · cases h with
    | source => exact .inl rfl
    | param hs mem => exact .inr ⟨.param _, mem_statements.2 ⟨_, hs, mem⟩, .param⟩
    | place hs mem hx => exact .inr ⟨.place _, mem_statements.2 ⟨_, hs, mem⟩, .place hx⟩
  · cases h with
    | inl e => subst e; exact .source
    | inr h =>
      obtain ⟨st, mem, hmark⟩ := h
      have mem' := mem_statements.1 mem
      cases hmark with
      | param =>
        obtain ⟨indices, hs, hindex⟩ := mem'
        exact .param hs hindex
      | place hx =>
        obtain ⟨raws, hs, hraw⟩ := mem'
        exact .place hs hraw hx

end BodyFacts

/-- The body is what the facts describe, and `nodes` are declared sensitive in it. -/
structure Rendered (f : BodyFacts) (issued : Issued) (b : Body) (nodes : List Node) : Prop where
  distinct : Issued.Distinct issued
  depicts : Depicts issued f.statements b
  controls : b.registry.controls.length = f.controls.length
  declared : b.declared = some nodes

namespace Rendered

variable {f : BodyFacts} {issued : Issued} {b : Body} {nodes : List Node}

/-- The edges of the body are those that the facts speak of. -/
lemma edges (h : Rendered f issued b nodes) {m n kind} :
    ⟨m, n, kind⟩ ∈ b.graph.edges ↔ ∃ x y, f.Flows kind x y ∧
      Denotes b.registry issued x m ∧ Denotes b.registry issued y n := by
  simp only [BodyFacts.flows_iff fun _ => h.depicts.ready]
  rw [h.depicts.edges]
  refine ⟨fun hedge => ?_, fun hedge => ?_⟩
  · obtain ⟨st, mem, x, y, hxy, hm, hn⟩ := hedge
    exact ⟨x, y, ⟨st, mem, hxy⟩, hm, hn⟩
  · obtain ⟨x, y, ⟨st, mem, hxy⟩, hm, hn⟩ := hedge
    exact ⟨st, mem, x, y, hxy, hm, hn⟩

/-- The ends of an edge that the facts speak of denote nodes. -/
lemma denotes (h : Rendered f issued b nodes) {kind x y} (flows : f.Flows kind x y) :
    ∃ m n, Denotes b.registry issued x m ∧ Denotes b.registry issued y n := by
  obtain ⟨st, mem, hxy⟩ := (BodyFacts.flows_iff fun _ => h.depicts.ready).1 flows
  obtain ⟨m, hm⟩ := h.depicts.denotes mem (.source hxy)
  obtain ⟨n, hn⟩ := h.depicts.denotes mem (.target hxy)
  exact ⟨m, n, hm, hn⟩

/-- The nodes that taint starts from are those that the facts declare sensitive. -/
lemma sensitive (h : Rendered f issued b nodes) {n} :
    n ∈ Node.boundary .source :: nodes ↔ ∃ x, f.Sensitive x ∧ Denotes b.registry issued x n := by
  have marks := h.depicts.marks (n := n)
  rw [h.declared, Option.getD_some] at marks
  rw [List.mem_cons, marks]
  refine ⟨fun hn => ?_, fun hn => ?_⟩
  · cases hn with
    | inl e =>
      subst e
      exact ⟨_, .source, .boundary nofun⟩
    | inr hn =>
      obtain ⟨st, mem, x, hmark, hx⟩ := hn
      exact ⟨x, BodyFacts.sensitive_iff.2 (.inr ⟨st, mem, hmark⟩), hx⟩
  · obtain ⟨x, hsens, hx⟩ := hn
    cases BodyFacts.sensitive_iff.1 hsens with
    | inl e =>
      subst e
      cases hx
      exact .inl rfl
    | inr hmark =>
      obtain ⟨st, mem, hmark⟩ := hmark
      exact .inr ⟨st, mem, x, hmark, hx⟩

/-- A sensitive reference denotes a node. -/
lemma sensitive_denotes (h : Rendered f issued b nodes) {x} (hx : f.Sensitive x) :
    ∃ n, Denotes b.registry issued x n := by
  cases BodyFacts.sensitive_iff.1 hx with
  | inl e =>
    subst e
    exact ⟨_, .boundary nofun⟩
  | inr hmark =>
    obtain ⟨st, mem, hmark⟩ := hmark
    exact h.depicts.denotes mem (.mark hmark)

end Rendered

/-- Edges between nodes are those between references, seen through what the references denote. -/
structure Mirrors (r : Registry) (issued : Issued) (edge : Node → Node → Prop)
    (edge' : Reference → Reference → Prop) : Prop where
  edges : ∀ {m n}, edge m n ↔ ∃ x y, edge' x y ∧ Denotes r issued x m ∧ Denotes r issued y n
  denotes : ∀ {x y}, edge' x y → ∃ m n, Denotes r issued x m ∧ Denotes r issued y n

section Mirrors

variable {f : BodyFacts} {issued : Issued} {b : Body} {nodes : List Node}

/-- The data edges of the graph are those of the facts. -/
lemma Rendered.dataEdge (h : Rendered f issued b nodes) :
    Mirrors b.registry issued b.graph.DataEdge (f.Flows .data) :=
  ⟨h.edges, h.denotes⟩

/-- The edges of the graph are those of the facts, whatever their kind. -/
lemma Rendered.anyEdge (h : Rendered f issued b nodes) :
    Mirrors b.registry issued b.graph.AnyEdge (fun x y => ∃ kind, f.Flows kind x y) where
  edges := by
    intro m n
    refine ⟨fun hedge => ?_, fun hedge => ?_⟩
    · obtain ⟨kind, hedge⟩ := hedge
      obtain ⟨x, y, hxy, hx, hy⟩ := h.edges.1 hedge
      exact ⟨x, y, ⟨kind, hxy⟩, hx, hy⟩
    · obtain ⟨x, y, ⟨kind, hxy⟩, hx, hy⟩ := hedge
      exact ⟨kind, h.edges.2 ⟨x, y, hxy, hx, hy⟩⟩
  denotes := by
    intro x y hxy
    obtain ⟨kind, hxy⟩ := hxy
    exact h.denotes hxy

variable {edge : Node → Node → Prop} {edge' : Reference → Reference → Prop}

/-- A node that is reached has a reference that is reached. -/
lemma Mirrors.reference (mirrors : Mirrors b.registry issued edge edge')
    (h : Rendered f issued b nodes) {n}
    (hn : Reachable edge (.boundary .statics) (· ∈ Node.boundary .source :: nodes) n) :
    ∃ x, Denotes b.registry issued x n ∧ Reachable edge' (.boundary .statics) f.Seed x := by
  refine Reachable.transfer (R := fun m x => Denotes b.registry issued x m) ?_ ?_ ?_ ?_ hn
  · intro m hm ne
    obtain ⟨x, hsens, hx⟩ := h.sensitive.1 hm
    refine ⟨x, hx, hsens, fun e => ?_⟩
    subst e
    exact ne (Boundary.denotes_reference (c := .statics) hx)
  · intro m m' hedge
    obtain ⟨x, y, hxy, hx, hy⟩ := mirrors.edges.1 hedge
    exact ⟨x, y, hx, hy, hxy⟩
  · -- no other reference leads to the node, because no control node was issued twice
    intro m x y hx hy
    exact hx.injective h.distinct hy
  · intro m hm
    exact Boundary.denotes_reference (c := .statics) hm

/-- A reference that is reached denotes a node that is reached. -/
lemma Mirrors.node (mirrors : Mirrors b.registry issued edge edge')
    (h : Rendered f issued b nodes) {x}
    (hx : Reachable edge' (.boundary .statics) f.Seed x) :
    ∃ n, Denotes b.registry issued x n ∧
      Reachable edge (.boundary .statics) (· ∈ Node.boundary .source :: nodes) n := by
  refine Reachable.transfer (R := Denotes b.registry issued) ?_ ?_ ?_ ?_ hx
  · intro x hseed _
    obtain ⟨m, hm⟩ := h.sensitive_denotes hseed.1
    exact ⟨m, hm, h.sensitive.2 ⟨x, hseed.1, hm⟩⟩
  · intro x y hxy
    obtain ⟨m, m', hx, hy⟩ := mirrors.denotes hxy
    exact ⟨m, m', hx, hy, mirrors.edges.2 ⟨x, y, hxy, hx, hy⟩⟩
  · intro x m m' hm hm'
    exact hm.unique hm'
  · intro x hm
    exact Boundary.reference_of_denotes hm

/-- A boundary node is reached if and only if its reference is. -/
lemma Mirrors.boundary (mirrors : Mirrors b.registry issued edge edge')
    (h : Rendered f issued b nodes) {c} :
    Reachable edge (.boundary .statics) (· ∈ Node.boundary .source :: nodes) (.boundary c) ↔
      Reachable edge' (.boundary .statics) f.Seed c.reference := by
  refine ⟨fun hn => ?_, fun hx => ?_⟩
  · obtain ⟨x, hx, reached⟩ := mirrors.reference h hn
    rw [← Boundary.reference_of_denotes hx]
    exact reached
  · obtain ⟨n, hn, reached⟩ := mirrors.node h hx
    rw [← Boundary.denotes_reference hn]
    exact reached

/-- A boundary node is a seed of the body if and only if its reference is one of the facts. -/
lemma Rendered.seed (h : Rendered f issued b nodes) {c} :
    Node.boundary c ∈ Node.boundary .source :: nodes ∧ c ≠ .statics ↔ f.Seed c.reference := by
  have statics : c = .statics ↔ c.reference = .boundary .statics := by
    cases c with
    | statics => exact ⟨fun _ => rfl, fun _ => rfl⟩
    | _ => exact ⟨nofun, nofun⟩
  unfold BodyFacts.Seed
  rw [h.sensitive, ne_eq, ne_eq, statics]
  refine and_congr_left fun _ => ⟨fun hx => ?_, fun hsens => ?_⟩
  · obtain ⟨x, hsens, hx⟩ := hx
    rw [← Boundary.reference_of_denotes hx]
    exact hsens
  · obtain ⟨n, hn⟩ := h.sensitive_denotes hsens
    have e := Boundary.denotes_reference hn
    subst e
    exact ⟨c.reference, hsens, hn⟩

end Mirrors

end InfoFlow
