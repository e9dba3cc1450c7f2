import InfoFlow.Proofs.Taint.Exactness

/-!
# Witnesses

The witness of a node with taint is evidence for it: a path without repetitions from a seed to the
node. Along it the taint is direct as far as data edges lead, and the first implicit node stands
behind a control edge.

`Traced` is the path that the tags of a propagation describe, as a relation. `Grown.evident` shows
that every tag has one, `Traced.trail` that walking back over the tags finds it, and `Grown.reason`
says why each single step of it was made.
-/

namespace InfoFlow

/-- The path on which taint came to a node, as the tags tell: a seed stands alone, any other node
behind the node that its tag names. -/
inductive Traced (tags : List Tag) : Node → List Node → Prop where
  | seed {tag} :
    tag ∈ tags →
    tag.via = none →
    Traced tags tag.node [tag.node]
  | step {tag m path} :
    tag ∈ tags →
    tag.via = some m →
    Traced tags m path →
    Traced tags tag.node (path ++ [tag.node])

/-- A trace stays one while tags are added. -/
lemma Traced.mono {tags tags' n path} (traced : Traced tags n path) (sub : tags ⊆ tags') :
    Traced tags' n path := by
  induction traced with
  | seed mem via => exact .seed (sub mem) via
  | step mem via _ ih => exact .step (sub mem) via ih

/-- All nodes of a trace are tagged. -/
lemma Traced.tagged {tags n path} (traced : Traced tags n path) {m} (hm : m ∈ path) :
    ∃ tag ∈ tags, tag.node = m := by
  induction traced with
  | seed mem =>
    cases List.mem_singleton.1 hm
    exact ⟨_, mem, rfl⟩
  | step mem _ _ ih =>
    rcases List.mem_append.1 hm with hm | hm
    · exact ih hm
    · cases List.mem_singleton.1 hm
      exact ⟨_, mem, rfl⟩

/-- Walking back over the tags finds the path, if as many steps are allowed as the path has nodes.
-/
lemma Traced.trail {t : Taint} {n path} (traced : Traced t.tags n path) {steps}
    (enough : path.length ≤ steps) : t.trail steps n = path := by
  induction traced generalizing steps with
  | @seed tag mem via =>
    cases steps with
    | zero => simp at enough
    | succ steps =>
      have found : t.tag? tag.node = some tag := Taint.tag?_eq_some.2 ⟨mem, rfl⟩
      simp only [Taint.trail, found, via]
  | @step tag m path mem via _ ih =>
    rw [List.length_append, List.length_singleton] at enough
    cases steps with
    | zero => omega
    | succ steps =>
      have found : t.tag? tag.node = some tag := Taint.tag?_eq_some.2 ⟨mem, rfl⟩
      simp only [Taint.trail, found, via]
      rw [ih (by omega)]

/-- Taint came to the node on a path over distinct tagged nodes. -/
def Evident (tags : List Tag) (n : Node) : Prop :=
  ∃ path, Traced tags n path ∧ path.Nodup ∧ path ⊆ tags.map Tag.node

/-- What is evident stays so with one more tag. -/
lemma Evident.append {tags n} (h : Evident tags n) (t : Tag) : Evident (tags ++ [t]) n := by
  obtain ⟨path, traced, nodup, sub⟩ := h
  refine ⟨path, traced.mono (List.subset_append_left _ _), nodup, ?_⟩
  rw [List.map_append]
  exact List.subset_append_of_subset_left _ sub

/-- A new tag comes last: the path to the node that it names does not lead through its own. -/
lemma Evident.step {tags m n} (h : Evident tags m) (fresh : n ∉ tags.map Tag.node) (kind) :
    Evident (tags ++ [⟨n, kind, some m⟩]) n := by
  obtain ⟨path, traced, nodup, sub⟩ := h
  have mem : ⟨n, kind, some m⟩ ∈ tags ++ [⟨n, kind, some m⟩] :=
    List.mem_append_right _ (List.mem_singleton_self _)
  refine ⟨path ++ [n], ?_, ?_, ?_⟩
  · exact Traced.step mem rfl (traced.mono (List.subset_append_left _ _))
  · exact nodup_snoc nodup fun mem => fresh (sub mem)
  · rw [List.map_append]
    intro a ha
    rw [List.mem_append] at ha ⊢
    cases ha with
    | inl ha => exact .inl (sub ha)
    | inr ha => exact .inr ha

/-- Taint came to every tagged node on a path over distinct tagged nodes. -/
lemma Grown.evident {g seeds tags} (grown : Grown g seeds tags) :
    ∀ tag ∈ tags, Evident tags tag.node := by
  -- tags come one after another, so each new one stands at the end of a path that is there already
  apply grown.forall_mem (Q := fun tags tag => Evident tags tag.node)
  · intro tags tag t h
    exact h.append t
  · intro tags n _ _
    have mem : ⟨n, .direct, none⟩ ∈ tags ++ [⟨n, .direct, none⟩] :=
      List.mem_append_right _ (List.mem_singleton_self _)
    refine ⟨[n], Traced.seed mem rfl, List.nodup_singleton n, ?_⟩
    rw [List.map_append]
    exact List.subset_append_right _ _
  · intro tags tag n _ ih _ _ fresh
    exact ih.step fresh _
  · intro tags tag n _ ih _ _ fresh
    exact ih.step fresh _

/-- Why a node is tagged: it is a seed, or an edge leads to it from another tagged node. -/
inductive Reason (g : Graph) (seeds : List Node) (tags : List Tag) : Tag → Prop where
  | seed {n} :
    n ∈ seeds →
    n ≠ .boundary .statics →
    Reason g seeds tags ⟨n, .direct, none⟩
  | data {tag n} :
    tag ∈ tags →
    tag.node ≠ .boundary .statics →
    ⟨tag.node, n, .data⟩ ∈ g.edges →
    Reason g seeds tags ⟨n, tag.kind, some tag.node⟩
  | control {tag n} :
    tag ∈ tags →
    tag.node ≠ .boundary .statics →
    ⟨tag.node, n, .control⟩ ∈ g.edges →
    Reason g seeds tags ⟨n, .implicit, some tag.node⟩

/-- A reason for a tag stays one with one more tag. -/
lemma Reason.append {g seeds tags tag} (h : Reason g seeds tags tag) (t : Tag) :
    Reason g seeds (tags ++ [t]) tag := by
  cases h with
  | seed hs ne => exact .seed hs ne
  | data hm ne step => exact .data (List.mem_append_left _ hm) ne step
  | control hm ne step => exact .control (List.mem_append_left _ hm) ne step

/-- Every tag has a reason. -/
lemma Grown.reason {g seeds tags} (grown : Grown g seeds tags) :
    ∀ tag ∈ tags, Reason g seeds tags tag := by
  apply grown.forall_mem (Q := Reason g seeds)
  · intro tags tag t h
    exact h.append t
  · intro tags n hn ne
    exact .seed hn ne
  · intro tags tag n mem _ ne step _
    exact .data (List.mem_append_left _ mem) ne step
  · intro tags tag n mem _ ne step _
    exact .control (List.mem_append_left _ mem) ne step

section Reasons

variable {g : Graph} {seeds : List Node} {tags : List Tag}

/-- The path leads along edges from a seed, whose tag names no other node. -/
lemma Traced.route (reasons : ∀ tag ∈ tags, Reason g seeds tags tag) {n path}
    (traced : Traced tags n path) :
    ∃ s ∈ seeds, s ≠ .boundary .statics ∧ ⟨s, .direct, none⟩ ∈ tags ∧
      Route g.AnyEdge (.boundary .statics) s n path := by
  induction traced with
  | @seed tag mem via =>
    cases reasons tag mem with
    | seed hs ne => exact ⟨_, hs, ne, mem, .single ..⟩
    | data => cases via
    | control => cases via
  | @step tag m path mem via _ ih =>
    obtain ⟨s, hs, ne, bare, route⟩ := ih
    refine ⟨s, hs, ne, bare, ?_⟩
    cases reasons tag mem with
    | seed => cases via
    | data _ hne step => cases via; exact route.snoc hne ⟨.data, step⟩
    | control _ hne step => cases via; exact route.snoc hne ⟨.control, step⟩

/-- The path to a node with direct taint leads along data edges, over nodes with direct taint. -/
lemma Traced.direct (nodup : (tags.map Tag.node).Nodup)
    (reasons : ∀ tag ∈ tags, Reason g seeds tags tag) {n path} (traced : Traced tags n path) :
    ∀ tag ∈ tags, tag.node = n → tag.kind = .direct →
      path.IsChain g.DataEdge ∧ ∀ m ∈ path, ∃ t ∈ tags, t.node = m ∧ t.kind = .direct := by
  induction traced with
  | @seed tag mem via =>
    intro t ht hnode direct
    refine ⟨.singleton _, ?_⟩
    intro m hm
    rw [List.mem_singleton] at hm
    exact ⟨t, ht, hnode.trans hm.symm, direct⟩
  | @step tag m path mem via traced ih =>
    intro t ht hnode direct
    have e := Tag.unique nodup ht mem hnode
    subst e
    obtain ⟨s, -, -, -, route⟩ := traced.route reasons
    cases reasons t mem with
    | seed => cases via
    | control => cases direct
    | @data before n hm ne step =>
      cases via
      obtain ⟨chain, all⟩ := ih before hm rfl direct
      constructor
      · refine chain.append (.singleton _) ?_
        intro x hx y hy
        rw [route.last] at hx
        cases hx
        cases hy
        exact step
      · intro x hx
        rw [List.mem_append, List.mem_singleton] at hx
        cases hx with
        | inl hx => exact all x hx
        | inr hx => exact ⟨_, mem, hx.symm, direct⟩

/-- The path turns implicit once: it leads over nodes with direct taint, then along a control edge,
and over nodes with implicit taint from there on. -/
def TurnsImplicit (g : Graph) (tags : List Tag) (path : List Node) : Prop :=
  ∃ front back a b, path = front ++ back ∧ front.getLast? = some a ∧ back.head? = some b ∧
    (∀ m ∈ front, ∃ t ∈ tags, t.node = m ∧ t.kind = .direct) ∧
    (∀ m ∈ back, ∃ t ∈ tags, t.node = m ∧ t.kind = .implicit) ∧
    a ≠ .boundary .statics ∧ ⟨a, b, .control⟩ ∈ g.edges

/-- A path that has turned implicit stays so. -/
lemma TurnsImplicit.snoc {path} (h : TurnsImplicit g tags path) {t} (mem : t ∈ tags)
    (implicit : t.kind = .implicit) : TurnsImplicit g tags (path ++ [t.node]) := by
  obtain ⟨front, back, a, b, hpath, hlast, hhead, hfront, hback, ne, step⟩ := h
  refine ⟨front, back ++ [t.node], a, b, ?_, hlast, ?_, hfront, ?_, ne, step⟩
  · rw [hpath, List.append_assoc]
  · rw [List.head?_append, hhead]
    rfl
  · intro x hx
    rw [List.mem_append, List.mem_singleton] at hx
    cases hx with
    | inl hx => exact hback x hx
    | inr hx => exact ⟨t, mem, hx.symm, implicit⟩

/-- The path to a node with implicit taint turns implicit on its way. -/
lemma Traced.implicit (nodup : (tags.map Tag.node).Nodup)
    (reasons : ∀ tag ∈ tags, Reason g seeds tags tag) {n path} (traced : Traced tags n path) :
    ∀ tag ∈ tags, tag.node = n → tag.kind = .implicit → TurnsImplicit g tags path := by
  induction traced with
  | @seed tag mem via =>
    -- a seed has direct taint
    intro t ht hnode implicit
    have e := Tag.unique nodup ht mem hnode
    subst e
    cases reasons t mem with
    | seed => cases implicit
    | data => cases via
    | control => cases via
  | @step tag m path mem via traced ih =>
    intro t ht hnode implicit
    have e := Tag.unique nodup ht mem hnode
    subst e
    cases reasons t mem with
    | seed => cases implicit
    | @data before n hm ne step =>
      cases via
      exact (ih before hm rfl implicit).snoc mem implicit
    | @control before n hm ne step =>
      cases via
      by_cases direct : before.kind = .direct
      · -- this is the control edge where the taint turns implicit
        obtain ⟨s, -, -, -, route⟩ := traced.route reasons
        obtain ⟨-, all⟩ := traced.direct nodup reasons before hm rfl direct
        refine ⟨path, [n], before.node, n, rfl, route.last, rfl, all, ?_, ne, step⟩
        intro x hx
        rw [List.mem_singleton] at hx
        exact ⟨_, mem, hx.symm, rfl⟩
      · -- the taint was implicit before the edge
        exact (ih before hm rfl (FlowKind.eq_implicit direct)).snoc mem rfl

end Reasons

namespace Taint

section Trails

variable {g : Graph} {seeds : List Node} {n : Node}

/-- Walking back over the tags of a propagation finds the path to a tagged node, and more steps do
not find more. -/
lemma trail_ofSeeds {tag} (mem : tag ∈ (ofSeeds g seeds).tags) :
    ∃ path, Traced (ofSeeds g seeds).tags tag.node path ∧ path.Nodup ∧
      ∀ steps, (ofSeeds g seeds).tags.length ≤ steps →
        (ofSeeds g seeds).trail steps tag.node = path := by
  have grown := ofSeeds_grown g seeds
  obtain ⟨path, traced, nodup, sub⟩ := grown.evident tag mem
  -- the nodes of the path are distinct and tagged, so there are no more of them than tags
  have le := (List.subperm_of_subset nodup sub).length_le
  rw [List.length_map] at le
  exact ⟨path, traced, nodup, fun steps hs => traced.trail (le.trans hs)⟩

/-- The witness of a tainted node is its trace, and repeats no node. -/
lemma witness_traced {kind} (h : (ofSeeds g seeds).kindOf? n = some kind) :
    Traced (ofSeeds g seeds).tags n ((ofSeeds g seeds).witness n) ∧
      ((ofSeeds g seeds).witness n).Nodup := by
  obtain ⟨tag, mem, rfl, -⟩ := kindOf?_eq_some.1 h
  obtain ⟨path, traced, nodup, found⟩ := trail_ofSeeds mem
  rw [witness, found _ (Nat.le_refl _)]
  exact ⟨traced, nodup⟩

/-- What has no tag has no trail. -/
lemma trail_untagged {t : Taint} (h : t.kindOf? n = none) (steps) : t.trail steps n = [] := by
  rw [kindOf?, Option.map_eq_none_iff] at h
  cases steps with
  | zero => rfl
  | succ steps => simp only [trail, h]

/-- More steps back than there are tags do not lead further than the witness. -/
lemma trail_eq_witness {steps} (enough : (ofSeeds g seeds).tags.length ≤ steps) :
    (ofSeeds g seeds).trail steps n = (ofSeeds g seeds).witness n := by
  cases h : (ofSeeds g seeds).kindOf? n with
  | none => rw [witness, trail_untagged h, trail_untagged h]
  | some kind =>
    obtain ⟨tag, mem, rfl, -⟩ := kindOf?_eq_some.1 h
    obtain ⟨path, -, -, found⟩ := trail_ofSeeds mem
    rw [witness, found _ enough, found _ (Nat.le_refl _)]

/-- The path that the tags describe is the witness. -/
lemma witness_of_traced {path} (traced : Traced (ofSeeds g seeds).tags n path) :
    (ofSeeds g seeds).witness n = path := by
  rw [← trail_eq_witness (Nat.le_max_left _ path.length)]
  exact traced.trail (Nat.le_max_right _ _)

/-- A witness leads over seeds and over nodes of the graph only. -/
lemma mem_witness {m} (h : m ∈ (ofSeeds g seeds).witness n) : m ∈ seeds ∨ m ∈ g.nodes := by
  cases hn : (ofSeeds g seeds).kindOf? n with
  | none =>
    rw [witness, trail_untagged hn] at h
    cases h
  | some kind =>
    obtain ⟨tag, mem, rfl⟩ := (witness_traced hn).1.tagged h
    cases (ofSeeds_grown g seeds).reason tag mem with
    | seed hs => exact .inl hs
    | data _ _ step => exact .inr (Graph.mem_nodes.2 ⟨_, step, .inr rfl⟩)
    | control _ _ step => exact .inr (Graph.mem_nodes.2 ⟨_, step, .inr rfl⟩)

/-- No data edge leads from direct to implicit taint: it would have carried the direct taint. -/
lemma no_dataEdge {a b} (ha : (ofSeeds g seeds).kindOf? a = some .direct)
    (ne : a ≠ .boundary .statics) (hb : (ofSeeds g seeds).kindOf? b = some .implicit) :
    ⟨a, b, .data⟩ ∉ g.edges := by
  intro data
  obtain ⟨tag, mem, rfl, direct⟩ := kindOf?_eq_some.1 ha
  have carried := kindOf?_eq_some.2 (ofSeeds_dataClosed g seeds tag mem direct ne _ data)
  rw [hb] at carried
  cases carried

end Trails

/-- The witness of a node with taint is a path without repetitions that leads to it from a seed and
meets the shared state at most at its end. It leads along data edges if the taint is direct. If the
taint is implicit, it leads over nodes with direct taint first and over nodes with implicit taint
then, and between the two there is a control edge and no data edge. The walk that finds it never
ends early: its first node is tagged as a seed, and no larger number of steps leads further. A node
without taint has no witness. -/
theorem witness_ofSeeds (g : Graph) (seeds : List Node) (n : Node) :
    (∀ kind, (ofSeeds g seeds).kindOf? n = some kind →
      (ofSeeds g seeds).witness n ≠ [] ∧ ((ofSeeds g seeds).witness n).Nodup ∧
      ∃ s ∈ seeds, s ≠ .boundary .statics ∧
        (ofSeeds g seeds).tag? s = some ⟨s, .direct, none⟩ ∧
        Route g.AnyEdge (.boundary .statics) s n ((ofSeeds g seeds).witness n)) ∧
    ((ofSeeds g seeds).kindOf? n = some .direct →
      ((ofSeeds g seeds).witness n).IsChain g.DataEdge) ∧
    ((ofSeeds g seeds).kindOf? n = some .implicit →
      ∃ front back a b, (ofSeeds g seeds).witness n = front ++ back ∧
        front.getLast? = some a ∧ back.head? = some b ∧
        (∀ m ∈ front, (ofSeeds g seeds).kindOf? m = some .direct) ∧
        (∀ m ∈ back, (ofSeeds g seeds).kindOf? m = some .implicit) ∧
        ⟨a, b, .control⟩ ∈ g.edges ∧ ⟨a, b, .data⟩ ∉ g.edges) ∧
    ((ofSeeds g seeds).kindOf? n = none → (ofSeeds g seeds).witness n = []) ∧
    ∀ steps, (ofSeeds g seeds).tags.length ≤ steps →
      (ofSeeds g seeds).trail steps n = (ofSeeds g seeds).witness n := by
  have grown := ofSeeds_grown g seeds
  have nodup := grown.nodup
  refine ⟨?_, ?_, ?_, fun h => trail_untagged h _, fun steps => trail_eq_witness⟩
  · intro kind h
    obtain ⟨traced, distinct⟩ := witness_traced h
    obtain ⟨s, hs, ne, bare, route⟩ := traced.route grown.reason
    refine ⟨?_, distinct, s, hs, ne, tag?_eq_some.2 ⟨bare, rfl⟩, route⟩
    intro empty
    have head := route.head
    rw [empty] at head
    cases head
  · intro h
    obtain ⟨tag, mem, hnode, direct⟩ := kindOf?_eq_some.1 h
    exact ((witness_traced h).1.direct nodup grown.reason tag mem hnode direct).1
  · intro h
    obtain ⟨tag, mem, hnode, implicit⟩ := kindOf?_eq_some.1 h
    obtain ⟨front, back, a, b, hpath, hlast, hhead, hfront, hback, ne, step⟩ :=
      (witness_traced h).1.implicit nodup grown.reason tag mem hnode implicit
    have directs := fun m hm => kindOf?_eq_some.2 (hfront m hm)
    have implicits := fun m hm => kindOf?_eq_some.2 (hback m hm)
    refine ⟨front, back, a, b, hpath, hlast, hhead, directs, implicits, step, ?_⟩
    exact no_dataEdge (directs a (List.mem_of_getLast? hlast)) ne
      (implicits b (List.mem_of_head? hhead))

end Taint

end InfoFlow
