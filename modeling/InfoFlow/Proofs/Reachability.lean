import Mathlib.Data.List.Chain
import Mathlib.Tactic.Lemma
import InfoFlow.Graph

/-!
# Reachability with a barrier

What can be reached from a set of seeds when one node is a barrier: a path may end there, but it
does not lead on. `Route` says that a list of nodes is such a path and `Reachable` that there is
one from a seed. Both are stated for any type of nodes, because nodes of a graph and references of
facts are compared by the same notion.

`Reachable.seed` and `Reachable.step` build reachable nodes, `Route.induct` and `Reachable.induct`
take routes and reachable nodes apart, and `Reachable.transfer` carries reachability from one type
of nodes to another.
-/

namespace InfoFlow

variable {α β : Type}

/-- `path` leads along `edge` from `start` to `finish` and meets `barrier` at most as its last
node. -/
structure Route (edge : α → α → Prop) (barrier start finish : α) (path : List α) : Prop where
  head : path.head? = some start
  last : path.getLast? = some finish
  chain : path.IsChain edge
  inner : barrier ∉ path.dropLast

/-- There is a route to `n` from a seed other than the barrier. -/
def Reachable (edge : α → α → Prop) (barrier : α) (seed : α → Prop) (n : α) : Prop :=
  ∃ start path, seed start ∧ start ≠ barrier ∧ Route edge barrier start n path

/-- A node is a route from itself to itself. -/
lemma Route.single (edge : α → α → Prop) (barrier n : α) : Route edge barrier n n [n] where
  head := rfl
  last := rfl
  chain := .singleton n
  inner := by simp

/-- A route that does not end at the barrier can be prolonged by an edge. -/
lemma Route.snoc {edge : α → α → Prop} {barrier start m n path}
    (route : Route edge barrier start m path) (ne : m ≠ barrier) (step : edge m n) :
    Route edge barrier start n (path ++ [n]) where
  head := by rw [List.head?_append, route.head]; rfl
  last := by simp
  chain := by
    refine route.chain.append (.singleton n) ?_
    intro x hx y hy
    rw [route.last] at hx
    cases hx
    cases hy
    exact step
  inner := by
    intro mem
    rw [List.dropLast_concat] at mem
    have split := List.dropLast_concat_getLast (List.ne_nil_of_mem mem)
    rw [← split, List.mem_append] at mem
    cases mem with
    | inl mem => exact route.inner mem
    | inr mem =>
      have last := List.getLast?_eq_some_getLast (l := path) (by rintro rfl; simp at split)
      rw [route.last] at last
      rw [List.mem_singleton, ← Option.some.inj last] at mem
      exact ne mem.symm

/-- The end of a route is a route. -/
lemma Route.suffix {edge : α → α → Prop} {barrier start n front a back}
    (route : Route edge barrier start n (front ++ a :: back)) :
    Route edge barrier a n (a :: back) where
  head := rfl
  last := by
    have last := route.last
    rw [List.getLast?_append_of_ne_nil _ (List.cons_ne_nil _ _)] at last
    exact last
  chain := route.chain.right_of_append
  inner := by
    have inner := route.inner
    rw [List.dropLast_append_of_ne_nil (List.cons_ne_nil _ _)] at inner
    exact fun mem => inner (List.mem_append_right _ mem)

/-- What holds of the start alone and is handed on when a route is prolonged holds of every route.
-/
lemma Route.induct {edge : α → α → Prop} {barrier start} {P : α → List α → Prop}
    (single : P start [start])
    (snoc : ∀ m n path, Route edge barrier start m path → P m path → m ≠ barrier → edge m n →
      P n (path ++ [n])) {n path} (route : Route edge barrier start n path) : P n path := by
  induction path using List.reverseRecOn generalizing n with
  | nil => cases route.head
  | append_singleton path x ih =>
    have last := route.last
    rw [List.getLast?_concat, Option.some.injEq] at last
    subst last
    have inner := route.inner
    rw [List.dropLast_concat] at inner
    cases hpath : path.getLast? with
    | none =>
      -- the path is the start alone
      rw [List.getLast?_eq_none_iff] at hpath
      subst hpath
      have head := route.head
      cases head
      exact single
    | some m =>
      have mem : m ∈ path := List.mem_of_getLast? hpath
      have ne : m ≠ barrier := by
        rintro rfl
        exact inner mem
      have front : Route edge barrier start m path := {
        head := by
          have head := route.head
          rw [List.head?_append_of_ne_nil _ (List.ne_nil_of_mem mem)] at head
          exact head
        last := hpath
        chain := route.chain.left_of_append
        inner := fun h => inner (List.dropLast_subset _ h) }
      have step : edge m x := (List.isChain_append.1 route.chain).2.2 m hpath x rfl
      exact snoc m x path front (ih front) ne step

/-- A seed is reached, unless it is the barrier. -/
lemma Reachable.seed {edge : α → α → Prop} {barrier} {seed : α → Prop} {n}
    (hs : seed n) (ne : n ≠ barrier) : Reachable edge barrier seed n :=
  ⟨n, [n], hs, ne, Route.single edge barrier n⟩

/-- What an edge leads to from a reachable node is reachable, unless that node is the barrier. -/
lemma Reachable.step {edge : α → α → Prop} {barrier} {seed : α → Prop} {m n}
    (hm : Reachable edge barrier seed m) (ne : m ≠ barrier) (step : edge m n) :
    Reachable edge barrier seed n := by
  obtain ⟨start, path, hs, hne, route⟩ := hm
  exact ⟨start, path ++ [n], hs, hne, route.snoc ne step⟩

/-- What holds of the seeds and is handed on by the edges that do not leave the barrier holds of
every reachable node. -/
lemma Reachable.induct {edge : α → α → Prop} {barrier} {seed : α → Prop} {P : α → Prop}
    (base : ∀ n, seed n → n ≠ barrier → P n)
    (next : ∀ m n, P m → m ≠ barrier → edge m n → P n) {n}
    (hn : Reachable edge barrier seed n) : P n := by
  obtain ⟨start, path, hs, hne, route⟩ := hn
  apply route.induct (P := fun n _ => P n)
  · exact base start hs hne
  · intro m n path _ hm ne step
    exact next m n hm ne step

/-- Reachability carried over to another type of nodes: if seeds correspond to seeds, edges to edges
and the barrier only to the barrier, then what corresponds to a reachable node is reachable. -/
lemma Reachable.transfer {edge : α → α → Prop} {edge' : β → β → Prop} {barrier barrier'}
    {seed : α → Prop} {seed' : β → Prop} {R : α → β → Prop}
    (seeds : ∀ a, seed a → a ≠ barrier → ∃ b, R a b ∧ seed' b)
    (edges : ∀ a a', edge a a' → ∃ b b', R a b ∧ R a' b' ∧ edge' b b')
    (unique : ∀ a b b', R a b → R a b' → b = b')
    (barriers : ∀ a, R a barrier' → a = barrier) {a}
    (ha : Reachable edge barrier seed a) : ∃ b, R a b ∧ Reachable edge' barrier' seed' b := by
  refine Reachable.induct (P := fun a => ∃ b, R a b ∧ Reachable edge' barrier' seed' b) ?_ ?_ ha
  · intro a hs ne
    obtain ⟨b, hab, hb⟩ := seeds a hs ne
    refine ⟨b, hab, .seed hb ?_⟩
    rintro rfl
    exact ne (barriers a hab)
  · rintro a a' ⟨b, hab, hb⟩ ne step
    obtain ⟨b1, b2, hab1, hab2, hstep⟩ := edges a a' step
    have e := unique a b b1 hab hab1
    subst e
    refine ⟨b2, hab2, hb.step ?_ hstep⟩
    rintro rfl
    exact ne (barriers a hab)

/-- More edges and more seeds reach more nodes. -/
lemma Reachable.mono {edge edge' : α → α → Prop} {barrier} {seed seed' : α → Prop} {n}
    (edges : ∀ a b, edge a b → edge' a b) (seeds : ∀ a, seed a → seed' a)
    (hn : Reachable edge barrier seed n) : Reachable edge' barrier seed' n := by
  refine Reachable.induct (P := Reachable edge' barrier seed') ?_ ?_ hn
  · intro n hs ne
    exact .seed (seeds n hs) ne
  · intro m n hm ne step
    exact hm.step ne (edges m n step)

namespace Graph

/-- A data edge leads from `m` to `n`. -/
def DataEdge (g : Graph) (m n : Node) : Prop :=
  ⟨m, n, .data⟩ ∈ g.edges

/-- An edge of some kind leads from `m` to `n`. -/
def AnyEdge (g : Graph) (m n : Node) : Prop :=
  ∃ kind, ⟨m, n, kind⟩ ∈ g.edges

/-- A data edge is an edge. -/
lemma DataEdge.any {g : Graph} {m n} (step : g.DataEdge m n) : g.AnyEdge m n :=
  ⟨.data, step⟩

/-- The successors of a node are the targets of its edges. -/
lemma mem_successors {g : Graph} {m n kind} :
    (n, kind) ∈ g.successors m ↔ ⟨m, n, kind⟩ ∈ g.edges := by
  rw [successors_eq, Edge.leaving, List.mem_filterMap]
  constructor
  · rintro ⟨e, mem, he⟩
    split at he
    case isTrue h =>
      obtain ⟨source, target, kind'⟩ := e
      cases he
      cases h
      exact mem
    case isFalse => cases he
  · intro mem
    exact ⟨_, mem, by simp⟩

/-- The nodes of a graph are the ends of its edges. -/
lemma mem_nodes {g : Graph} {n} : n ∈ g.nodes ↔ ∃ e ∈ g.edges, n = e.source ∨ n = e.target := by
  rw [nodes_eq, List.mem_eraseDups, List.mem_flatMap]
  simp only [Edge.ends, List.mem_cons, List.not_mem_nil, or_false]

end Graph

end InfoFlow
