import Mathlib.Data.List.TakeWhile
import InfoFlow.Proofs.Facts.Denotation

/-!
# Issuing the declared control nodes

The declarations of control nodes can be carried out if they are `Facts.Nested`: no id is declared
twice, and the chain from every declaration outwards ends. `Facts.Outward` is such a chain, as a
relation, and `Facts.chain_ok` says that looking for a chain finds exactly it.

The loop that issues the control nodes walks along the chains a second time. `Facts.Outward.gather`
says what this walk gathers, and by `Facts.issueControls_eq` the loop carries out the chains.
`Facts.Issuing` is its invariant: control nodes are issued in the order of their slots, each for
another declared id. `Facts.issueControls_ok` and
`Facts.issueControls_total` say what the whole loop does and when it succeeds; by
`Facts.Nested.perm` neither depends on the order of the declarations.
-/

namespace InfoFlow.Facts

/-- The declarations from the one with the given id outwards, up to one without a parent. -/
inductive Outward (controls : List ControlDecl) : String → List ControlDecl → Prop where
  | root {id c} :
    controls.find? (·.id = id) = some c →
    c.parent = none →
    Outward controls id [c]
  | inner {id c parent chain} :
    controls.find? (·.id = id) = some c →
    c.parent = some parent →
    Outward controls parent chain →
    Outward controls id (c :: chain)

/-- What has a chain is declared. -/
lemma Outward.found {controls id chain} (h : Outward controls id chain) :
    ∃ c, controls.find? (·.id = id) = some c := by
  cases h with
  | root found => exact ⟨_, found⟩
  | inner found => exact ⟨_, found⟩

/-- The chain of a declaration without a parent is the declaration alone. -/
lemma Outward.root_inv {controls id chain c} (h : Outward controls id chain)
    (found : controls.find? (·.id = id) = some c) (hparent : c.parent = none) : chain = [c] := by
  cases h with
  | root found' => rw [found] at found'; cases found'; rfl
  | inner found' hparent' =>
    rw [found] at found'
    cases found'
    rw [hparent] at hparent'
    cases hparent'

/-- The chain of a declaration with a parent goes on with the chain of the parent. -/
lemma Outward.inner_inv {controls id chain c parent} (h : Outward controls id chain)
    (found : controls.find? (·.id = id) = some c) (hparent : c.parent = some parent) :
    ∃ rest, Outward controls parent rest ∧ chain = c :: rest := by
  cases h with
  | root found' hparent' =>
    rw [found] at found'
    cases found'
    rw [hparent] at hparent'
    cases hparent'
  | @inner _ _ _ rest found' hparent' outward =>
    rw [found] at found'
    cases found'
    rw [hparent] at hparent'
    cases hparent'
    exact ⟨rest, outward, rfl⟩

/-- Looking for a chain finds it, if as many steps are allowed as it has declarations. -/
lemma chainWithin_ok {controls steps id chain} :
    chainWithin controls steps id = .ok chain ↔
      Outward controls id chain ∧ chain.length ≤ steps := by
  -- `steps` bounds the recursion, and one declaration of the chain is read in each step
  induction steps generalizing id chain with
  | zero =>
    refine ⟨fun h => ?_, fun h => ?_⟩
    · cases h
    · obtain ⟨outward, le⟩ := h
      cases outward with
      | root => simp at le
      | inner => simp at le
  | succ steps ih =>
    unfold chainWithin
    cases found : controls.find? (·.id = id) with
    | none =>
      -- an undeclared id has no chain
      refine ⟨fun h => ?_, fun h => ?_⟩
      · cases h
      · obtain ⟨c, found'⟩ := h.1.found
        rw [found] at found'
        cases found'
    | some c =>
      simp only
      cases hparent : c.parent with
      | none =>
        refine ⟨fun h => ?_, fun h => ?_⟩
        · cases h
          exact ⟨.root found hparent, by simp⟩
        · rw [h.1.root_inv found hparent]
      | some parent =>
        simp only
        refine ⟨fun h => ?_, fun h => ?_⟩
        · cases hrest : chainWithin controls steps parent with
          | error fault =>
            simp only [hrest] at h
            cases h
          | ok rest =>
            simp only [hrest] at h
            cases h
            obtain ⟨outward, le⟩ := ih.1 hrest
            exact ⟨.inner found hparent outward, by simpa using le⟩
        · obtain ⟨outward, le⟩ := h
          obtain ⟨rest, outward', rfl⟩ := outward.inner_inv found hparent
          have hrest := ih.2 ⟨outward', by simpa using le⟩
          simp only [hrest]

/-- An id has one chain only. -/
lemma Outward.unique {controls id l l'} (h : Outward controls id l) (h' : Outward controls id l') :
    l = l' := by
  induction h generalizing l' with
  | root found hparent => rw [h'.root_inv found hparent]
  | inner found hparent _ ih =>
    obtain ⟨rest, outward, rfl⟩ := h'.inner_inv found hparent
    rw [ih outward]

/-- The chain of an id starts with its declaration. -/
lemma Outward.head {controls id chain} (h : Outward controls id chain) :
    ∃ c rest, chain = c :: rest ∧ c.id = id := by
  cases h with
  | root found => exact ⟨_, [], rfl, by simpa using List.find?_some found⟩
  | inner found => exact ⟨_, _, rfl, by simpa using List.find?_some found⟩

/-- All of a chain is declared. -/
lemma Outward.declared {controls id chain} (h : Outward controls id chain) : chain ⊆ controls := by
  induction h with
  | root found =>
    intro d hd
    rw [List.mem_singleton] at hd
    subst hd
    exact List.mem_of_find?_eq_some found
  | inner found _ _ ih =>
    intro d hd
    cases hd with
    | head => exact List.mem_of_find?_eq_some found
    | tail _ hd => exact ih hd

/-- Every declaration of a chain has a chain of its own, which is not longer. -/
lemma Outward.sub {controls id chain} (h : Outward controls id chain) :
    ∀ d ∈ chain, ∃ chain', Outward controls d.id chain' ∧ chain'.length ≤ chain.length := by
  induction h with
  | @root id c found hparent =>
    intro d hd
    rw [List.mem_singleton] at hd
    subst hd
    have hid : d.id = id := by simpa using List.find?_some found
    exact ⟨[d], hid ▸ .root found hparent, by simp⟩
  | @inner id c parent chain found hparent rest ih =>
    intro d hd
    cases hd with
    | head =>
      have hid : c.id = id := by simpa using List.find?_some found
      exact ⟨c :: chain, hid ▸ .inner found hparent rest, by simp⟩
    | tail _ hd =>
      obtain ⟨chain', hchain, le⟩ := ih d hd
      exact ⟨chain', hchain, Nat.le_succ_of_le le⟩

/-- No id occurs twice in a chain: the chain from its second occurrence would be the whole chain. -/
lemma Outward.nodup {controls id chain} (h : Outward controls id chain) :
    (chain.map ControlDecl.id).Nodup := by
  induction h with
  | root => simp
  | @inner id c parent chain found hparent rest ih =>
    rw [List.map_cons, List.nodup_cons]
    refine ⟨fun mem => ?_, ih⟩
    obtain ⟨d, hd, same⟩ := List.mem_map.1 mem
    have hid : c.id = id := by simpa using List.find?_some found
    obtain ⟨chain', hchain, le⟩ := rest.sub d hd
    -- the chain of `d` is that of `id`, and yet not longer than its tail
    rw [same, hid] at hchain
    have e := hchain.unique (.inner found hparent rest)
    rw [e, List.length_cons] at le
    omega

/-- A chain is not longer than the list of declarations, since none comes twice. -/
lemma Outward.length_le {controls id chain} (h : Outward controls id chain) :
    chain.length ≤ controls.length :=
  (List.subperm_of_subset h.nodup.of_map h.declared).length_le

/-- Looking for a chain finds it, if it ends. -/
lemma chain_ok {controls id chain} :
    Facts.chain controls id = .ok chain ↔ Outward controls id chain := by
  unfold Facts.chain
  rw [chainWithin_ok]
  exact ⟨fun h => h.1, fun h => ⟨h, Nat.le_succ_of_le h.length_le⟩⟩

/-- Whatever control nodes there are, as much of a chain is gathered as has none, if as many steps
are allowed as there are declarations. -/
lemma Outward.gather {controls id chain} (h : Outward controls id chain) {steps}
    (enough : controls.length ≤ steps) (issued : Issued) :
    gatherWithin controls issued steps (some id) =
      .ok (chain.takeWhile fun c => (issued.get? c.id).isNone) :=
  gatherWithin_ok (chainWithin_ok.2 ⟨h, h.length_le.trans enough⟩) issued

/-- No id is declared twice, and all chains end. -/
structure Nested (controls : List ControlDecl) : Prop where
  nodup : (controls.map ControlDecl.id).Nodup
  ends : ∀ c ∈ controls, ∃ chain, Outward controls c.id chain

/-- Whether declarations are nested does not depend on their order. -/
lemma Nested.perm {controls controls'} (nested : Nested controls) (perm : controls.Perm controls') :
    Nested controls' := by
  have nodup' : (controls'.map ControlDecl.id).Nodup :=
    (perm.map ControlDecl.id).nodup_iff.1 nested.nodup
  -- ids are distinct, so looking one up does not depend on the order
  have same : ∀ id c,
      controls.find? (·.id = id) = some c → controls'.find? (·.id = id) = some c := by
    intro id c found
    obtain ⟨mem, hid⟩ := (find?_key nested.nodup).1 found
    exact (find?_key nodup').2 ⟨perm.mem_iff.1 mem, hid⟩
  have transport : ∀ id chain, Outward controls id chain → Outward controls' id chain := by
    intro id chain h
    induction h with
    | root found hparent => exact .root (same _ _ found) hparent
    | inner found hparent _ ih => exact .inner (same _ _ found) hparent ih
  refine ⟨nodup', fun c hc => ?_⟩
  obtain ⟨chain, h⟩ := nested.ends c (perm.mem_iff.2 hc)
  exact ⟨chain, transport _ _ h⟩

/-- No declaration repeats an earlier one if and only if the ids are distinct. -/
lemma firstRepeated?_eq_none {seen controls} :
    firstRepeated? seen controls = none ↔
      (∀ c ∈ controls, c.id ∉ seen) ∧ (controls.map ControlDecl.id).Nodup := by
  induction controls generalizing seen with
  | nil => simp [firstRepeated?]
  | cons c controls ih =>
    unfold firstRepeated?
    by_cases mem : c.id ∈ seen
    · simp [mem]
    · rw [if_neg mem, ih]
      rw [List.forall_mem_cons, List.map_cons, List.nodup_cons]
      simp only [List.mem_cons, not_or, List.mem_map, not_exists, not_and]
      refine ⟨fun h => ⟨⟨mem, fun d hd => (h.1 d hd).2⟩, fun d hd => (h.1 d hd).1, h.2⟩,
        fun h => ?_⟩
      exact ⟨fun d hd => ⟨h.2.1 d hd, h.1.2 d hd⟩, h.2.2⟩

/-- All items succeed if and only if each of them does, in order. -/
lemma mapM_ok {ε α β : Type} {f : α → Except ε β} {items bs} :
    items.mapM f = .ok bs ↔ List.Forall₂ (fun a b => f a = .ok b) items bs := by
  induction items generalizing bs with
  | nil =>
    refine ⟨fun h => ?_, fun h => ?_⟩
    · cases h
      exact .nil
    · cases h
      rfl
  | cons a items ih =>
    rw [List.mapM_cons]
    cases ha : f a with
    | error e =>
      refine ⟨nofun, fun h => ?_⟩
      cases h with
      | cons hb => rw [ha] at hb; cases hb
    | ok b =>
      cases hitems : items.mapM f with
      | error e =>
        refine ⟨nofun, fun h => ?_⟩
        cases h with
        | cons _ hbs => rw [ih.2 hbs] at hitems; cases hitems
      | ok bs' =>
        refine ⟨fun h => ?_, fun h => ?_⟩
        · cases h
          exact .cons ha (ih.1 hitems)
        · cases h with
          | cons hb hbs =>
            rw [ha] at hb
            cases hb
            rw [ih.2 hbs] at hitems
            cases hitems
            rfl

/-- The first item that fails decides. -/
lemma mapM_error {ε α β : Type} {f : α → Except ε β} {items e} :
    items.mapM f = .error e ↔ ∃ front a back, items = front ++ a :: back ∧
      (∀ d ∈ front, ∃ b, f d = .ok b) ∧ f a = .error e := by
  induction items with
  | nil =>
    refine ⟨nofun, fun h => ?_⟩
    obtain ⟨front, a, back, split, -⟩ := h
    simp at split
  | cons d items ih =>
    rw [List.mapM_cons]
    cases hd : f d with
    | error e' =>
      refine ⟨fun h => ?_, fun h => ?_⟩
      · cases h
        exact ⟨[], d, items, rfl, nofun, hd⟩
      · obtain ⟨front, a, back, split, passed, failed⟩ := h
        cases front with
        | nil =>
          cases split
          rw [hd] at failed
          cases failed
          rfl
        | cons d' front =>
          cases split
          obtain ⟨b, hb⟩ := passed d (List.mem_cons_self ..)
          rw [hd] at hb
          cases hb
    | ok b =>
      have rest : (Except.ok b >>= fun b => do return b :: (← items.mapM f)) = .error e ↔
          items.mapM f = .error e := by
        cases items.mapM f with
        | ok bs => exact ⟨nofun, nofun⟩
        | error e' => exact Iff.rfl
      rw [rest, ih]
      refine ⟨fun h => ?_, fun h => ?_⟩
      · obtain ⟨front, a, back, rfl, passed, failed⟩ := h
        exact ⟨d :: front, a, back, rfl, List.forall_mem_cons.2 ⟨⟨b, hd⟩, passed⟩, failed⟩
      · obtain ⟨front, a, back, split, passed, failed⟩ := h
        cases front with
        | nil =>
          cases split
          rw [hd] at failed
          cases failed
        | cons d' front =>
          cases split
          exact ⟨front, a, back, rfl, (List.forall_mem_cons.1 passed).2, failed⟩

/-- All chains are found if and only if the declarations are nested. -/
lemma chains_ok {controls cs} :
    chains controls = .ok cs ↔
      (controls.map ControlDecl.id).Nodup ∧
        List.Forall₂ (fun c chain => Outward controls c.id chain) controls cs := by
  have found : ∀ c chain, (Facts.chain controls c.id).mapError (ChainFault.toError c) = .ok chain ↔
      Outward controls c.id chain := by
    intro c chain
    rw [← chain_ok]
    cases Facts.chain controls c.id with
    | ok chain' => simp [Except.mapError]
    | error fault => exact ⟨nofun, nofun⟩
  unfold chains
  cases repeated : firstRepeated? [] controls with
  | some id =>
    refine ⟨nofun, fun h => ?_⟩
    have none := firstRepeated?_eq_none.2 ⟨fun c _ => List.not_mem_nil (a := c.id), h.1⟩
    rw [repeated] at none
    cases none
  | none =>
    have nodup := (firstRepeated?_eq_none.1 repeated).2
    simp only [mapM_ok, found, nodup, true_and]

/-- An id has the control node that stands next to it, as no id stands there twice. -/
lemma Issued.get?_eq_some {issued : Issued} (nodup : (issued.map Prod.fst).Nodup) {id c} :
    issued.get? id = some c ↔ (id, c) ∈ issued := by
  unfold Issued.get?
  rw [Option.map_eq_some_iff]
  refine ⟨fun h => ?_, fun mem => ⟨(id, c), (find?_key nodup).2 ⟨mem, rfl⟩, rfl⟩⟩
  obtain ⟨entry, found, rfl⟩ := h
  obtain ⟨mem, rfl⟩ := (find?_key nodup).1 found
  exact mem

/-- An id has no control node if it does not stand in the table. -/
lemma Issued.get?_eq_none {issued : Issued} {id} :
    issued.get? id = none ↔ id ∉ issued.map Prod.fst := by
  unfold Issued.get?
  rw [Option.map_eq_none_iff, find?_key_none]

/-- The ids that have control nodes are those in the table. -/
lemma Issued.get?_isSome {issued : Issued} {id} :
    (∃ c, issued.get? id = some c) ↔ id ∈ issued.map Prod.fst := by
  rw [← Option.isSome_iff_exists, ← Option.ne_none_iff_isSome, ne_eq, Issued.get?_eq_none,
    not_not]

/-- The control nodes were issued in the order of their slots, each for another declared id, and fit
into their slots. -/
structure Issuing (controls : List ControlDecl) (r : Registry) (issued : Issued) : Prop where
  slots : issued.map Prod.snd = (List.range r.controls.length).map (ControlId.mk r.unit)
  keys : (issued.map Prod.fst).Nodup
  declared : issued.map Prod.fst ⊆ controls.map ControlDecl.id
  fits : r.controls.length ≤ Registry.slotLimit

section Issuing

variable {controls : List ControlDecl} {r : Registry} {issued : Issued}

/-- There are as many issued ids as control nodes in the registry. -/
lemma Issuing.length (h : Issuing controls r issued) : issued.length = r.controls.length := by
  have e := congrArg List.length h.slots
  simpa using e

/-- No two ids share a control node. -/
lemma Issuing.distinct (h : Issuing controls r issued) : Issued.Distinct issued := by
  intro id id' c hid hid'
  have nodup : (issued.map Prod.snd).Nodup := by
    rw [h.slots]
    refine List.Nodup.map ?_ List.nodup_range
    intro i j e
    exact (ControlId.mk.inj e).2
  rw [Issued.get?_eq_some h.keys] at hid hid'
  have e := List.inj_on_of_nodup_map nodup hid hid' rfl
  exact (Prod.mk.inj e).1

/-- Every issued control node can be used. -/
lemma Issuing.known (h : Issuing controls r issued) : Issued.Known issued r := by
  intro id c hid
  rw [Issued.get?_eq_some h.keys] at hid
  have mem : c ∈ issued.map Prod.snd := List.mem_map_of_mem (f := Prod.snd) hid
  rw [h.slots, List.mem_map] at mem
  obtain ⟨slot, lt, rfl⟩ := mem
  rw [List.mem_range] at lt
  simp [Registry.knowsControl, lt]

/-- A parent that was issued can be used, and so can none. -/
lemma Issuing.checkParent (h : Issuing controls r issued) (parent : Option String) :
    r.checkParent (parent.bind issued.get?) = .ok () := by
  cases hparent : parent.bind issued.get? with
  | none => rfl
  | some c =>
    obtain ⟨id, -, hid⟩ := Option.bind_eq_some_iff.1 hparent
    have knows := h.known id c hid
    unfold Registry.checkParent Registry.check
    exact if_pos knows

/-- If all declared control nodes fit into slots, there is a slot as long as one of them is
missing. -/
lemma Issuing.room (h : Issuing controls r issued) {c} (hc : c ∈ controls)
    (missing : c.id ∉ issued.map Prod.fst) (le : controls.length ≤ Registry.slotLimit) :
    r.controls.length < Registry.slotLimit := by
  have nodup := nodup_snoc h.keys missing
  have sub : issued.map Prod.fst ++ [c.id] ⊆ controls.map ControlDecl.id := by
    intro id hid
    rw [List.mem_append, List.mem_singleton] at hid
    cases hid with
    | inl hid => exact h.declared hid
    | inr e => subst e; exact List.mem_map_of_mem hc
  have le' := (List.subperm_of_subset nodup sub).length_le
  rw [List.length_append, List.length_map, List.length_map, h.length, List.length_singleton] at le'
  omega

end Issuing

/-- The body with one more control node. -/
def addControlInfo (b : Body) (info : ControlInfo) : Body :=
  { b with registry := { b.registry with controls := b.registry.controls ++ [info] } }

/-- Issuing a control node takes the next slot, if there is one. -/
lemma issue_ok {controls issued c b issued' b'} (issuing : Issuing controls b.registry issued) :
    issue issued c b = .ok issued' b' ↔
      b.registry.controls.length < Registry.slotLimit ∧
      issued' = issued ++ [(c.id, ⟨b.registry.unit, b.registry.controls.length⟩)] ∧
      b' = addControlInfo b ⟨c.parent.bind issued.get?, c.branch⟩ := by
  unfold issue Body.control
  rw [Update.bind_ok]
  simp only [Body.onRegistry_ok, Registry.control, issuing.checkParent c.parent]
  by_cases lt : b.registry.controls.length < Registry.slotLimit
  · simp only [if_pos lt]
    refine ⟨fun h => ?_, fun h => ?_⟩
    · obtain ⟨id, b1, ⟨r, hr, rfl⟩, hp⟩ := h
      obtain ⟨rfl, rfl⟩ := Update.pure_ok.1 hp
      cases hr
      exact ⟨lt, rfl, rfl⟩
    · obtain ⟨-, rfl, rfl⟩ := h
      exact ⟨_, _, ⟨_, rfl, rfl⟩, rfl⟩
  · simp only [if_neg lt]
    refine ⟨fun h => ?_, fun h => absurd h.1 lt⟩
    obtain ⟨id, b1, ⟨r, hr, rfl⟩, -⟩ := h
    cases hr

/-- One more control node for a declared id that has none keeps the invariant. -/
lemma Issuing.issue {controls issued b c} (issuing : Issuing controls b.registry issued)
    (hc : c ∈ controls) (missing : c.id ∉ issued.map Prod.fst)
    (lt : b.registry.controls.length < Registry.slotLimit) (info) :
    Issuing controls (addControlInfo b info).registry
      (issued ++ [(c.id, ⟨b.registry.unit, b.registry.controls.length⟩)]) where
  slots := by
    rw [List.map_append, issuing.slots]
    simp [addControlInfo, List.range_succ]
  keys := by
    rw [List.map_append]
    exact nodup_snoc issuing.keys missing
  declared := by
    intro id hid
    rw [List.map_append, List.mem_append] at hid
    cases hid with
    | inl hid => exact issuing.declared hid
    | inr e =>
      rw [List.map_singleton, List.mem_singleton] at e
      subst e
      exact List.mem_map_of_mem hc
  fits := by
    simp only [addControlInfo, List.length_append, List.length_singleton]
    omega

/-- `b'` is `b` with other control nodes. -/
def SameButControls (b b' : Body) : Prop :=
  ∃ infos, b' = { b with registry := { b.registry with controls := infos } }

/-- Control nodes were issued, those for `ids` among them, and nothing else was changed. -/
structure Issues (controls : List ControlDecl) (ids : List String) (p q : Issued × Body) :
    Prop where
  issuing : Issuing controls q.2.registry q.1
  same : SameButControls p.2 q.2
  keeps : p.1.map Prod.fst ⊆ q.1.map Prod.fst
  has : ids ⊆ q.1.map Prod.fst

/-- Issuing nothing changes nothing. -/
lemma Issues.nil {controls p} (issuing : Issuing controls p.2.registry p.1) :
    Issues controls [] p p :=
  ⟨issuing, ⟨p.2.registry.controls, rfl⟩, List.Subset.refl _, List.nil_subset _⟩

/-- Control nodes may be issued in several steps. -/
lemma Issues.append {controls ids ids' p q r} (h : Issues controls ids p q)
    (h' : Issues controls ids' q r) : Issues controls (ids ++ ids') p r where
  issuing := h'.issuing
  same := by
    obtain ⟨infos, e⟩ := h.same
    obtain ⟨infos', e'⟩ := h'.same
    exact ⟨infos', by rw [e', e]⟩
  keeps := List.Subset.trans h.keeps h'.keeps
  has := List.append_subset.2 ⟨List.Subset.trans h.has h'.keeps, h'.has⟩

/-- The declarations in `cs` are distinct, and no control node was issued for them. -/
structure Pending (controls : List ControlDecl) (issued : Issued) (cs : List ControlDecl) :
    Prop where
  declared : cs ⊆ controls
  nodup : (cs.map ControlDecl.id).Nodup
  missing : ∀ c ∈ cs, c.id ∉ issued.map Prod.fst

/-- What is pending after one more control node was issued. -/
lemma Pending.tail {controls issued c cs} (pending : Pending controls issued (c :: cs)) (slot) :
    Pending controls (issued ++ [(c.id, slot)]) cs := by
  have nodup := pending.nodup
  rw [List.map_cons, List.nodup_cons] at nodup
  refine ⟨List.subset_of_cons_subset pending.declared, nodup.2, ?_⟩
  intro d hd mem
  rw [List.map_append, List.mem_append, List.map_singleton, List.mem_singleton] at mem
  cases mem with
  | inl mem => exact pending.missing d (List.mem_cons_of_mem _ hd) mem
  | inr e => exact nodup.1 (List.mem_map.2 ⟨d, hd, e⟩)

/-- The next pending declaration is issued if there is a slot for it. -/
lemma Pending.issue {controls issued c cs b} (pending : Pending controls issued (c :: cs))
    (issuing : Issuing controls b.registry issued)
    (lt : b.registry.controls.length < Registry.slotLimit) :
    Issues controls [c.id] (issued, b)
      (issued ++ [(c.id, ⟨b.registry.unit, b.registry.controls.length⟩)],
        addControlInfo b ⟨c.parent.bind issued.get?, c.branch⟩) where
  issuing :=
    issuing.issue (pending.declared (List.mem_cons_self ..))
      (pending.missing c (List.mem_cons_self ..)) lt _
  same := ⟨_, rfl⟩
  keeps := by
    rw [List.map_append]
    exact List.subset_append_left _ _
  has := by simp

/-- Carrying out pending declarations issues their control nodes. -/
lemma Pending.issues {controls cs issued b issued' b'} (pending : Pending controls issued cs)
    (issuing : Issuing controls b.registry issued)
    (h : cs.foldlM Facts.issue issued b = .ok issued' b') :
    Issues controls (cs.map ControlDecl.id) (issued, b) (issued', b') := by
  induction cs generalizing issued b with
  | nil =>
    cases h
    exact .nil issuing
  | cons c cs ih =>
    rw [List.foldlM_cons, Update.bind_ok] at h
    obtain ⟨issued1, b1, first, rest⟩ := h
    obtain ⟨lt, rfl, rfl⟩ := (issue_ok issuing).1 first
    have one := pending.issue issuing lt
    exact one.append (ih (pending.tail _) one.issuing rest)

/-- Pending declarations can be carried out if all declared control nodes fit into slots. -/
lemma Pending.total {controls cs issued b} (pending : Pending controls issued cs)
    (issuing : Issuing controls b.registry issued)
    (le : controls.length ≤ Registry.slotLimit) :
    ∃ issued' b', cs.foldlM Facts.issue issued b = .ok issued' b' := by
  induction cs generalizing issued b with
  | nil => exact ⟨issued, b, rfl⟩
  | cons c cs ih =>
    have lt := issuing.room (pending.declared (List.mem_cons_self ..))
      (pending.missing c (List.mem_cons_self ..)) le
    have first := (issue_ok (c := c) issuing).2 ⟨lt, rfl, rfl⟩
    obtain ⟨issued', b', rest⟩ := ih (pending.tail _) (pending.issue issuing lt).issuing
    refine ⟨issued', b', ?_⟩
    rw [List.foldlM_cons, Update.bind_ok]
    exact ⟨_, _, first, rest⟩

/-- What is missing of a chain is pending. -/
lemma Outward.pending {controls id chain} (outward : Outward controls id chain) (issued : Issued) :
    Pending controls issued
      (chain.takeWhile fun c => (issued.get? c.id).isNone).reverse where
  declared := by
    intro c hc
    rw [List.mem_reverse] at hc
    exact outward.declared (List.takeWhile_subset _ hc)
  nodup := by
    rw [List.map_reverse, List.nodup_reverse]
    exact outward.nodup.sublist ((List.takeWhile_sublist _).map _)
  missing := by
    intro c hc
    rw [List.mem_reverse] at hc
    have none := List.mem_takeWhile_imp hc
    rw [Option.isNone_iff_eq_none] at none
    exact Issued.get?_eq_none.1 none

/-- Issues those control nodes of a chain that are missing, from the outside in. -/
def issueChain (issued : Issued) (chain : List ControlDecl) : Update Body Issued :=
  (chain.takeWhile fun c => (issued.get? c.id).isNone).reverse.foldlM issue issued

/-- The control nodes of declarations are issued along their chains. -/
lemma issueEach_eq {controls cs chains}
    (outward : List.Forall₂ (fun c chain => Outward controls (ControlDecl.id c) chain) cs chains)
    (issued : Issued) (b : Body) :
    issueEach controls cs issued b = .ok (chains.foldlM issueChain issued b) := by
  induction outward generalizing issued b with
  | nil => rfl
  | @cons c chain cs chains hchain _ ih =>
    -- what the walk gathers is what is missing of the chain, and is issued in the same order
    have gathered := hchain.gather (Nat.le_succ _) issued
    rw [issueEach, Facts.gather, gathered, List.foldlM_cons]
    cases run : issueChain issued chain b with
    | error e b1 =>
      rw [Update.bind_error.2 (.inl run)]
      unfold issueChain at run
      simp only [run]
    | ok issued1 b1 =>
      have rest : (issueChain issued chain >>= fun issued => chains.foldlM issueChain issued) b =
          chains.foldlM issueChain issued1 b1 := by
        show EStateM.bind _ _ b = _
        simp only [EStateM.bind, run]
      rw [rest, ← ih]
      unfold issueChain at run
      simp only [run]

/-- Declarations that cannot be carried out are refused before any control node is issued. -/
lemma issueControls_refused {controls e} (h : chains controls = .error e) (b : Body) :
    issueControls controls b = .error e b := by
  unfold issueControls
  split
  case h_1 e' h' =>
    rw [h] at h'
    cases h'
    rfl
  case h_2 h' =>
    rw [h] at h'
    cases h'

/-- All declared control nodes are issued along the chains that were found. -/
lemma issueControls_eq {controls cs} (h : chains controls = .ok cs) (b : Body) :
    issueControls controls b = cs.foldlM issueChain [] b := by
  unfold issueControls
  split
  case h_1 h' =>
    rw [h] at h'
    cases h'
  case h_2 =>
    have run := issueEach_eq (chains_ok.1 h).2 [] b
    split
    case h_1 result run' =>
      rw [run] at run'
      cases run'
      rfl
    case h_2 run' =>
      rw [run] at run'
      cases run'

/-- Issuing what is missing of a chain issues the control node that the chain starts with. -/
lemma issueChain_issues {controls id chain issued b issued' b'}
    (outward : Outward controls id chain) (issuing : Issuing controls b.registry issued)
    (h : issueChain issued chain b = .ok issued' b') :
    Issues controls [id] (issued, b) (issued', b') := by
  have issues := (outward.pending issued).issues issuing h
  refine ⟨issues.issuing, issues.same, issues.keeps, ?_⟩
  obtain ⟨c, rest, rfl, rfl⟩ := outward.head
  rw [List.cons_subset]
  refine ⟨?_, List.nil_subset _⟩
  -- `c` had its control node before, or it is the innermost of those that are issued now
  cases found : issued.get? c.id with
  | some slot => exact issues.keeps (Issued.get?_isSome.1 ⟨slot, found⟩)
  | none =>
    apply issues.has
    rw [List.takeWhile_cons_of_pos (by simp [found])]
    simp

/-- Issuing the control nodes of all chains issues those that the chains start with. -/
lemma issueChains_issues {controls cs chains issued b issued' b'}
    (outward : List.Forall₂ (fun c chain => Outward controls (ControlDecl.id c) chain) cs chains)
    (issuing : Issuing controls b.registry issued)
    (h : chains.foldlM issueChain issued b = .ok issued' b') :
    Issues controls (cs.map ControlDecl.id) (issued, b) (issued', b') := by
  induction outward generalizing issued b with
  | nil =>
    cases h
    exact .nil issuing
  | cons hchain _ ih =>
    rw [List.foldlM_cons, Update.bind_ok] at h
    obtain ⟨issued1, b1, first, rest⟩ := h
    have one := issueChain_issues hchain issuing first
    exact one.append (ih one.issuing rest)

/-- The control nodes of all chains can be issued if all declared ones fit into slots. -/
lemma issueChains_total {controls cs chains issued b}
    (outward : List.Forall₂ (fun c chain => Outward controls (ControlDecl.id c) chain) cs chains)
    (issuing : Issuing controls b.registry issued)
    (le : controls.length ≤ Registry.slotLimit) :
    ∃ issued' b', chains.foldlM issueChain issued b = .ok issued' b' := by
  induction outward generalizing issued b with
  | nil => exact ⟨issued, b, rfl⟩
  | cons hchain _ ih =>
    obtain ⟨issued1, b1, first⟩ := (hchain.pending issued).total issuing le
    obtain ⟨issued', b', rest⟩ := ih (issueChain_issues hchain issuing first).issuing
    refine ⟨issued', b', ?_⟩
    rw [List.foldlM_cons, Update.bind_ok]
    exact ⟨issued1, b1, first, rest⟩

/-- Before the first control node nothing is issued. -/
lemma Issuing.nil {controls} {r : Registry} (none : r.controls = []) : Issuing controls r [] where
  slots := by rw [none]; rfl
  keys := List.nodup_nil
  declared := List.nil_subset _
  fits := by rw [none]; exact Nat.zero_le _

/-- If the control nodes of a new body can be issued, then their declarations are nested, exactly
the declared ids have control nodes, and there are as many as there are declarations. -/
lemma issueControls_ok {controls b issued b'} (none : b.registry.controls = [])
    (h : issueControls controls b = .ok issued b') :
    Nested controls ∧ Issues controls (controls.map ControlDecl.id) ([], b) (issued, b') ∧
      b'.registry.controls.length = controls.length := by
  cases hchains : chains controls with
  | error e =>
    rw [issueControls_refused hchains] at h
    cases h
  | ok cs =>
    rw [issueControls_eq hchains] at h
    obtain ⟨nodup, outward⟩ := chains_ok.1 hchains
    have issues := issueChains_issues outward (.nil none) h
    refine ⟨⟨nodup, ?_⟩, issues, ?_⟩
    · intro c hc
      exact exists_forall₂.1 ⟨cs, outward⟩ c hc
    · -- the issued ids and the declared ones are the same, without repetition
      rw [← issues.issuing.length, ← List.length_map Prod.fst, ← List.length_map ControlDecl.id]
      apply Nat.le_antisymm
      · exact (List.subperm_of_subset issues.issuing.keys issues.issuing.declared).length_le
      · exact (List.subperm_of_subset nodup issues.has).length_le

/-- Issuing nested declarations is what the loop over them comes to. -/
lemma issueControls_issueEach {controls b issued b'} (nested : Nested controls)
    (h : issueControls controls b = .ok issued b') :
    issueEach controls controls [] b = .ok (.ok issued b') := by
  obtain ⟨cs, outward⟩ := exists_forall₂.2 nested.ends
  rw [issueEach_eq outward, ← h, issueControls_eq (chains_ok.2 ⟨nested.nodup, outward⟩)]

/-- The control nodes of a new body can be issued if their declarations are nested and they fit into
slots. -/
lemma issueControls_total {controls b} (none : b.registry.controls = [])
    (nested : Nested controls) (le : controls.length ≤ Registry.slotLimit) :
    ∃ issued b', issueControls controls b = .ok issued b' := by
  obtain ⟨cs, outward⟩ := exists_forall₂.2 nested.ends
  rw [issueControls_eq (chains_ok.2 ⟨nested.nodup, outward⟩)]
  exact issueChains_total outward (.nil none) le

end InfoFlow.Facts
