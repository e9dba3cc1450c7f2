import Mathlib.Order.WellFoundedSet
import InfoFlow.Proofs.Facts.Controls

/-!
# The nesting of control nodes

Declarations are `Facts.WellNested` if they describe a forest: ids are distinct, every parent is
declared, and nothing is inside itself. This does not mention any walk over the declarations;
`Facts.wellNested_iff` says that it is the same as `Facts.Nested`, by which the walks end.

A control node is issued only after the one around it (`Facts.OutsideIn`), so what the registry
knows of the issued control nodes is what their declarations say. `Facts.Records` is this
invariant, and `Facts.Records.branchPath` reads the declared chains off it. The result for all
declarations is `Facts.issueControls_nesting`.
-/

namespace InfoFlow.Facts

/-- `id` is declared to be inside `outer`. -/
def Inside (controls : List ControlDecl) (id outer : String) : Prop :=
  ∃ c ∈ controls, c.id = id ∧ c.parent = some outer

/-- The declarations describe a forest. -/
structure WellNested (controls : List ControlDecl) : Prop where
  distinct : (controls.map ControlDecl.id).Nodup
  declared : ∀ c ∈ controls, ∀ parent, c.parent = some parent →
    parent ∈ controls.map ControlDecl.id
  acyclic : ∀ id, ¬ Relation.TransGen (Inside controls) id id

section Forests

variable {controls : List ControlDecl}

/-- The chain of what a declaration is inside of is shorter. -/
lemma Inside.outward {id outer chain} (nodup : (controls.map ControlDecl.id).Nodup)
    (h : Inside controls id outer) (outward : Outward controls id chain) :
    ∃ rest, Outward controls outer rest ∧ rest.length < chain.length := by
  obtain ⟨c, mem, hid, hparent⟩ := h
  have found := (find?_key nodup).2 ⟨mem, hid⟩
  obtain ⟨rest, outward', rfl⟩ := outward.inner_inv found hparent
  exact ⟨rest, outward', by simp⟩

/-- Going outwards makes the chain shorter. -/
lemma transGen_outward {id outer chain} (nodup : (controls.map ControlDecl.id).Nodup)
    (h : Relation.TransGen (Inside controls) id outer) (outward : Outward controls id chain) :
    ∃ rest, Outward controls outer rest ∧ rest.length < chain.length := by
  induction h with
  | single first => exact first.outward nodup outward
  | tail _ last ih =>
    obtain ⟨middle, outward', lt⟩ := ih
    obtain ⟨rest, outward'', lt'⟩ := last.outward nodup outward'
    exact ⟨rest, outward'', lt'.trans lt⟩

/-- Where all chains end, the declarations are a forest. -/
lemma Nested.wellNested (nested : Nested controls) : WellNested controls where
  distinct := nested.nodup
  declared := by
    intro c hc parent hparent
    obtain ⟨chain, outward⟩ := nested.ends c hc
    have found := (find?_key nested.nodup).2 ⟨hc, rfl⟩
    obtain ⟨rest, outward', -⟩ := outward.inner_inv found hparent
    obtain ⟨d, found'⟩ := outward'.found
    obtain ⟨mem, rfl⟩ := (find?_key nested.nodup).1 found'
    exact List.mem_map_of_mem mem
  acyclic := by
    intro id cycle
    -- the chain of `id` would be shorter than itself
    obtain ⟨outer, ⟨c, hc, rfl, -⟩, -⟩ := Relation.TransGen.head'_iff.1 cycle
    obtain ⟨chain, outward⟩ := nested.ends c hc
    obtain ⟨chain', outward', lt⟩ := transGen_outward nested.nodup cycle outward
    rw [outward.unique outward'] at lt
    exact Nat.lt_irrefl _ lt

/-- In a forest all chains end, since there are finitely many declarations. -/
lemma WellNested.nested (h : WellNested controls) : Nested controls := by
  refine ⟨h.distinct, fun c hc => ?_⟩
  have order : IsStrictOrder String fun outer id =>
      Relation.TransGen (Inside controls) id outer := {
    irrefl := h.acyclic
    trans := fun _ _ _ outer inner => inner.trans outer }
  have founded := (List.finite_toSet (controls.map ControlDecl.id)).wellFoundedOn
    (r := fun outer id => Relation.TransGen (Inside controls) id outer)
  apply founded.induction (x := c.id) (P := fun id => ∃ chain, Outward controls id chain)
  · exact List.mem_map_of_mem hc
  · intro id mem ih
    obtain ⟨d, hd, rfl⟩ := List.mem_map.1 mem
    have found := (find?_key h.distinct).2 ⟨hd, rfl⟩
    cases hparent : d.parent with
    | none => exact ⟨[d], .root found hparent⟩
    | some parent =>
      have inside : Inside controls d.id parent := ⟨d, hd, rfl, hparent⟩
      obtain ⟨chain, outward⟩ := ih parent (h.declared d hd parent hparent) (.single inside)
      exact ⟨d :: chain, .inner found hparent outward⟩

/-- Declarations are a forest if and only if all chains end. -/
lemma wellNested_iff : WellNested controls ↔ Nested controls :=
  ⟨WellNested.nested, Nested.wellNested⟩

/-- The walks succeed if and only if the declarations are a forest. -/
lemma isOk_chains : (chains controls).isOk = true ↔ WellNested controls := by
  rw [wellNested_iff]
  refine ⟨fun h => ?_, fun nested => ?_⟩
  · cases hchains : chains controls with
    | error e => rw [hchains] at h; cases h
    | ok cs =>
      obtain ⟨nodup, outward⟩ := chains_ok.1 hchains
      exact ⟨nodup, exists_forall₂.1 ⟨cs, outward⟩⟩
  · obtain ⟨cs, outward⟩ := exists_forall₂.2 nested.ends
    rw [chains_ok.2 ⟨nested.nodup, outward⟩]
    rfl

end Forests

instance (controls : List ControlDecl) : Decidable (WellNested controls) :=
  decidable_of_iff _ isOk_chains

/-- Each declaration comes after the one around it, which may be among the `known` ones. -/
inductive OutsideIn : List String → List ControlDecl → Prop where
  | nil {known} :
    OutsideIn known []
  | cons {known c cs} :
    (∀ parent, c.parent = some parent → parent ∈ known) →
    OutsideIn (known ++ [c.id]) cs →
    OutsideIn known (c :: cs)

/-- A declaration comes after those from the outside in if its parent is known by then. -/
lemma OutsideIn.snoc {known cs c} (h : OutsideIn known cs)
    (last : ∀ parent, c.parent = some parent → parent ∈ known ++ cs.map ControlDecl.id) :
    OutsideIn known (cs ++ [c]) := by
  induction h with
  | nil =>
    refine .cons ?_ .nil
    intro parent hparent
    have mem := last parent hparent
    rw [List.map_nil, List.append_nil] at mem
    exact mem
  | @cons known d cs first _ ih =>
    refine .cons first (ih ?_)
    intro parent hparent
    rw [List.append_assoc]
    exact last parent hparent

/-- What is missing of a chain is issued from the outside in. -/
lemma Outward.outsideIn {controls id chain} (outward : Outward controls id chain)
    (issued : Issued) :
    OutsideIn (issued.map Prod.fst)
      (chain.takeWhile fun c => (issued.get? c.id).isNone).reverse := by
  induction outward with
  | @root id c found hparent =>
    by_cases missing : (issued.get? c.id).isNone
    · rw [List.takeWhile_cons, if_pos missing]
      refine .cons ?_ .nil
      rw [hparent]
      exact nofun
    · rw [List.takeWhile_cons, if_neg missing]
      exact .nil
  | @inner id c parent rest found hparent outward ih =>
    by_cases missing : (issued.get? c.id).isNone
    · rw [List.takeWhile_cons, if_pos missing, List.reverse_cons]
      apply ih.snoc
      intro parent' hparent'
      rw [hparent] at hparent'
      cases hparent'
      obtain ⟨d, rest', rfl, rfl⟩ := outward.head
      rw [List.mem_append]
      -- the parent was issued before, or it is the next one that is missing
      cases hd : issued.get? d.id with
      | some node => exact .inl (Issued.get?_isSome.1 ⟨node, hd⟩)
      | none =>
        rw [List.takeWhile_cons_of_pos (by simp [hd])]
        exact .inr (by simp)
    · rw [List.takeWhile_cons, if_neg missing]
      exact .nil

/-- The control node around `node` is the one that was issued for its declared parent, and it has a
lower slot. -/
inductive Under (issued : Issued) (node : ControlId) : Option String → Option ControlId → Prop where
  | root :
    Under issued node none none
  | inner {parent outer} :
    (parent, outer) ∈ issued →
    outer.slot < node.slot →
    Under issued node (some parent) (some outer)

/-- What is under something stays there while more is issued. -/
lemma Under.mono {issued issued' node parent outer} (h : Under issued node parent outer)
    (sub : issued ⊆ issued') : Under issued' node parent outer := by
  cases h with
  | root => exact .root
  | inner mem lt => exact .inner (sub mem) lt

/-- The registry knows of every issued control node what its declaration says. -/
def Records (controls : List ControlDecl) (r : Registry) (issued : Issued) : Prop :=
  ∀ id node, (id, node) ∈ issued → ∃ c ∈ controls, c.id = id ∧
    ∃ outer, r.entry? node = some ⟨outer, c.branch⟩ ∧ Under issued node c.parent outer

/-- A new control node does not change the entries of others. -/
lemma entry?_addControlInfo {b : Body} {info node entry}
    (h : b.registry.entry? node = some entry) :
    (addControlInfo b info).registry.entry? node = some entry := by
  unfold Registry.entry? at h ⊢
  split at h
  case isFalse => cases h
  case isTrue same =>
    rw [if_pos (show node.unit = (addControlInfo b info).registry.unit from same)]
    obtain ⟨lt, -⟩ := List.getElem?_eq_some_iff.1 h
    unfold addControlInfo
    simp only
    rw [List.getElem?_append_left lt]
    exact h

/-- The entry of a new control node. -/
lemma entry?_last (b : Body) (info : ControlInfo) :
    (addControlInfo b info).registry.entry? ⟨b.registry.unit, b.registry.controls.length⟩ =
      some info := by
  unfold Registry.entry? addControlInfo
  simp

section Records

variable {controls : List ControlDecl} {issued issued' : Issued} {b b' : Body}

/-- Issuing a control node whose parent was issued before keeps the invariant. -/
lemma Records.issue {c} (records : Records controls b.registry issued)
    (issuing : Issuing controls b.registry issued) (hc : c ∈ controls)
    (around : ∀ parent, c.parent = some parent → parent ∈ issued.map Prod.fst) :
    Records controls (addControlInfo b ⟨c.parent.bind issued.get?, c.branch⟩).registry
      (issued ++ [(c.id, ⟨b.registry.unit, b.registry.controls.length⟩)]) := by
  intro id node mem
  rw [List.mem_append, List.mem_singleton] at mem
  cases mem with
  | inl old =>
    obtain ⟨d, hd, hid, outer, entry, under⟩ := records id node old
    exact ⟨d, hd, hid, outer, entry?_addControlInfo entry,
      under.mono (List.subset_append_left _ _)⟩
  | inr new =>
    cases new
    refine ⟨c, hc, rfl, _, entry?_last b _, ?_⟩
    cases hparent : c.parent with
    | none => exact .root
    | some parent =>
      obtain ⟨outer, houter⟩ := Issued.get?_isSome.2 (around parent hparent)
      rw [Option.bind_some, houter]
      apply Under.inner
      · exact List.mem_append_left _ ((Issued.get?_eq_some issuing.keys).1 houter)
      · have known := issuing.known parent outer houter
        simp only [Registry.knowsControl, Bool.and_eq_true, decide_eq_true_eq] at known
        exact known.2

/-- Issuing declarations from the outside in keeps the invariant. -/
lemma Pending.records {cs} (pending : Pending controls issued cs)
    (issuing : Issuing controls b.registry issued) (records : Records controls b.registry issued)
    (outsideIn : OutsideIn (issued.map Prod.fst) cs)
    (h : cs.foldlM Facts.issue issued b = .ok issued' b') :
    Records controls b'.registry issued' := by
  induction cs generalizing issued b with
  | nil =>
    cases h
    exact records
  | cons c cs ih =>
    rw [List.foldlM_cons, Update.bind_ok] at h
    obtain ⟨issued1, b1, first, rest⟩ := h
    obtain ⟨lt, rfl, rfl⟩ := (issue_ok issuing).1 first
    cases outsideIn with
    | cons around outsideIn =>
      have hc := pending.declared (List.mem_cons_self ..)
      refine ih (pending.tail _) (pending.issue issuing lt).issuing
        (records.issue issuing hc around) ?_ rest
      rw [List.map_append]
      exact outsideIn

/-- A chain that is issued is recorded. -/
lemma issueChain_records {id chain} (outward : Outward controls id chain)
    (issuing : Issuing controls b.registry issued) (records : Records controls b.registry issued)
    (h : issueChain issued chain b = .ok issued' b') : Records controls b'.registry issued' :=
  (outward.pending issued).records issuing records (outward.outsideIn issued) h

/-- Chains that are issued one after the other are recorded. -/
lemma issueChains_records {cs chains}
    (outward : List.Forall₂ (fun c chain => Outward controls (ControlDecl.id c) chain) cs chains)
    (issuing : Issuing controls b.registry issued) (records : Records controls b.registry issued)
    (h : chains.foldlM issueChain issued b = .ok issued' b') :
    Records controls b'.registry issued' := by
  induction outward generalizing issued b with
  | nil =>
    cases h
    exact records
  | cons hchain _ ih =>
    rw [List.foldlM_cons, Update.bind_ok] at h
    obtain ⟨issued1, b1, first, rest⟩ := h
    exact ih (issueChain_issues hchain issuing first).issuing
      (issueChain_records hchain issuing records first) rest

/-- All control nodes that are issued are recorded. -/
lemma issueControls_records (none : b.registry.controls = [])
    (h : issueControls controls b = .ok issued b') : Records controls b'.registry issued := by
  cases hchains : chains controls with
  | error e =>
    rw [issueControls_refused hchains] at h
    cases h
  | ok cs =>
    rw [issueControls_eq hchains] at h
    exact issueChains_records (chains_ok.1 hchains).2 (.nil none) nofun h

/-- The record of a declared id is that of its declaration. -/
lemma Records.entry {r : Registry} {c node} (records : Records controls r issued)
    (nodup : (controls.map ControlDecl.id).Nodup) (hc : c ∈ controls)
    (mem : (c.id, node) ∈ issued) :
    ∃ outer, r.entry? node = some ⟨outer, c.branch⟩ ∧ Under issued node c.parent outer := by
  obtain ⟨d, hd, hid, outer, entry, under⟩ := records c.id node mem
  have same := List.inj_on_of_nodup_map nodup hd hc hid
  subst same
  exact ⟨outer, entry, under⟩

/-- The branches around an issued control node are those of the declared chain. -/
lemma Records.pathWithin {r : Registry} {id chain node steps}
    (records : Records controls r issued) (nodup : (controls.map ControlDecl.id).Nodup)
    (outward : Outward controls id chain) (mem : (id, node) ∈ issued)
    (enough : chain.length ≤ steps) :
    r.pathWithin steps node = (chain.map ControlDecl.branch).reverse := by
  induction outward generalizing node steps with
  | @root id c found hparent =>
    obtain ⟨hc, rfl⟩ := (find?_key nodup).1 found
    obtain ⟨outer, entry, under⟩ := records.entry nodup hc mem
    rw [hparent] at under
    cases under
    cases steps with
    | zero => simp at enough
    | succ steps => simp [Registry.pathWithin, entry]
  | @inner id c parent rest found hparent _ ih =>
    obtain ⟨hc, rfl⟩ := (find?_key nodup).1 found
    obtain ⟨_, entry, under⟩ := records.entry nodup hc mem
    rw [hparent] at under
    cases under with
    | @inner _ outer mem' _ =>
      cases steps with
      | zero => simp at enough
      | succ steps =>
        have path : r.pathWithin steps outer = (rest.map ControlDecl.branch).reverse :=
          ih mem' (by simpa using enough)
        simp [Registry.pathWithin, entry, path]

end Records

/-- Control nodes that are declared in any order get the declared nesting: each declared id has one
control node, the control node around it is the one that was issued for its declared parent, and has
a lower slot, and the branches around it are those of the declarations from the outermost one to its
own. The loop that issues them does not break down: whatever control nodes there are already, the
walk from a declaration outwards gathers those of its chain that are missing, so it never looks up
an id that is not declared and never runs out of steps. -/
theorem issueControls_nesting (controls : List ControlDecl) (unit : Nat) (name : String)
    (nested : WellNested controls) (fits : controls.length ≤ Registry.slotLimit) :
    ∃ issued b, issueControls controls (Body.new unit name) = .ok issued b ∧
      issueEach controls controls [] (Body.new unit name) = .ok (.ok issued b) ∧
      (issued.map Prod.fst).Perm (controls.map ControlDecl.id) ∧
      (issued.map Prod.snd).Nodup ∧
      b.registry.controls.length = controls.length ∧
      ∀ c ∈ controls, ∃ node, issued.get? c.id = some node ∧
        (c.parent = none → b.registry.parent? node = none) ∧
        (∀ parent, c.parent = some parent → ∃ outer, issued.get? parent = some outer ∧
          b.registry.parent? node = some outer ∧ outer.slot < node.slot) ∧
        ∃ chain, Outward controls c.id chain ∧
          b.registry.branchPath node = (chain.map ControlDecl.branch).reverse ∧
          ∀ present : Issued, gather controls present c.id =
            .ok (chain.takeWhile fun d => (present.get? d.id).isNone) := by
  have nested' := nested.nested
  obtain ⟨issued, b, h⟩ := issueControls_total (b := Body.new unit name) rfl nested' fits
  obtain ⟨-, issues, length⟩ := issueControls_ok rfl h
  have records := issueControls_records rfl h
  have keys := issues.issuing.keys
  refine ⟨issued, b, h, issueControls_issueEach nested' h, ?_, ?_, length, ?_⟩
  · refine (List.perm_ext_iff_of_nodup keys nested.distinct).2 fun id => ?_
    exact ⟨fun mem => issues.issuing.declared mem, fun mem => issues.has mem⟩
  · rw [issues.issuing.slots]
    refine List.nodup_range.map ?_
    intro i j e
    exact (ControlId.mk.inj e).2
  · intro c hc
    obtain ⟨node, found⟩ := Issued.get?_isSome.2 (issues.has (List.mem_map_of_mem hc))
    have mem := (Issued.get?_eq_some keys).1 found
    obtain ⟨outer, entry, under⟩ := records.entry nested.distinct hc mem
    have parent? : b.registry.parent? node = outer := by
      unfold Registry.parent?
      rw [entry]
      rfl
    refine ⟨node, found, ?_, ?_, ?_⟩
    · intro root
      rw [root] at under
      cases under
      exact parent?
    · intro parent hparent
      rw [hparent] at under
      cases under with
      | @inner _ outer mem' lt =>
        exact ⟨outer, (Issued.get?_eq_some keys).2 mem', parent?, lt⟩
    · obtain ⟨chain, outward⟩ := nested'.ends c hc
      refine ⟨chain, outward, ?_, outward.gather (Nat.le_succ _)⟩
      have le := outward.length_le
      exact records.pathWithin nested.distinct outward mem (by omega)

/-- The control nodes of a loop with a branch in it, declared from the inside out, beside another
branch. -/
def loopControls : List ControlDecl :=
  [⟨"then", some "if", 1⟩, ⟨"if", some "loop", 0⟩, ⟨"catch", none, 7⟩, ⟨"loop", none, 3⟩,
    ⟨"else", some "if", 2⟩]

/-- The control nodes of `loopControls` stand where they were declared, outermost first. -/
theorem loopControls_nesting :
    WellNested loopControls ∧ loopControls.length ≤ Registry.slotLimit ∧
      ∃ issued b, issueControls loopControls (Body.new 1 "scan") = .ok issued b ∧
        (issued.get? "else").map b.registry.branchPath = some [3, 0, 2] ∧
        ((issued.get? "else").bind b.registry.parent?) = issued.get? "if" := by
  have nested : WellNested loopControls := by decide
  have fits : loopControls.length ≤ Registry.slotLimit := by decide
  refine ⟨nested, fits, ?_⟩
  obtain ⟨issued, b, h, -, -, -, -, nesting⟩ :=
    issueControls_nesting loopControls 1 "scan" nested fits
  obtain ⟨node, found, -, around, chain, outward, path, -⟩ :=
    nesting ⟨"else", some "if", 2⟩ (by decide)
  obtain ⟨outer, houter, hparent, -⟩ := around "if" rfl
  have ok : Facts.chain loopControls "else" =
      .ok [⟨"else", some "if", 2⟩, ⟨"if", some "loop", 0⟩, ⟨"loop", none, 3⟩] := by decide
  rw [outward.unique (chain_ok.1 ok)] at path
  refine ⟨issued, b, h, ?_, ?_⟩
  · rw [found, Option.map_some, path]
    rfl
  · rw [found, houter]
    exact hparent

end InfoFlow.Facts
