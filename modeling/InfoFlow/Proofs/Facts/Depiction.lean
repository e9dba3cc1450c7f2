import InfoFlow.Proofs.Facts.Statement

/-!
# The body that facts describe

`Facts.Depicts` says what a body contains once statements have been carried out: its variables and
parameters are those that the statements mention, and its edges and declared nodes are those that
the statements speak of, read through `Facts.Denotes`. The order of the statements does not occur
in it. `Depicts.step` is the step and `Depicts.run` the run of this invariant.

Carrying out statements succeeds if they are `Facts.Feasible`, which does not mention any body:
`Depicts.total` makes the run and `Depicts.feasible` shows that there is no other way to succeed.
For the facts of a body this gives `BodyFacts.toBody_depicts` and `BodyFacts.toBody_isOk`.
-/

namespace InfoFlow

namespace Registry

/-- There is a slot for a reference if the names that may be registered fit into slots. -/
lemma room {r : Registry} {P : String → Prop} (all : ∀ name ∈ r.vars, P name)
    (fits : ∀ names : List String,
      names.Nodup → (∀ name ∈ names, P name) → names.length ≤ slotLimit)
    {x} (hx : ∀ name, x = .var name → P name) : r.Room x := by
  intro name e fresh
  have le := fits (r.vars ++ [name]) (nodup_snoc r.nodup_vars fresh) (by
    intro name' mem
    rw [List.mem_append, List.mem_singleton] at mem
    cases mem with
    | inl mem => exact all name' mem
    | inr e' => subst e'; exact hx _ e)
  rw [List.length_append, List.length_singleton] at le
  exact le

end Registry

namespace Facts

/-- A statement about an edge marks nothing. -/
lemma Statement.Edge.not_marks {st : Statement} {kind x y z} (h : st.Edge kind x y) :
    ¬ st.Marks z := by
  intro hmark
  cases hmark with
  | param => cases h
  | place => cases h

/-- A statement about an edge mentions its ends. -/
lemma Statement.Edge.mentions {st : Statement} {kind x y z} (h : st.Edge kind x y) :
    st.Mentions z ↔ z = x ∨ z = y := by
  refine ⟨fun hz => ?_, fun hz => ?_⟩
  · cases hz with
    | source h' => exact .inl (h'.unique h).2.1
    | target h' => exact .inr (h'.unique h).2.2
    | mark hmark => exact absurd hmark h.not_marks
  · cases hz with
    | inl e => subst e; exact .source h
    | inr e => subst e; exact .target h

/-- A statement that marks a reference mentions it alone. -/
lemma Statement.Marks.mentions {st : Statement} {x z} (h : st.Marks x) :
    st.Mentions z ↔ z = x := by
  refine ⟨fun hz => ?_, fun hz => ?_⟩
  · cases hz with
    | source h' => exact absurd h h'.not_marks
    | target h' => exact absurd h h'.not_marks
    | mark hm => exact hm.unique h
  · subst hz
    exact .mark h

section Performs

variable {issued : Issued} {b b' : Body} {st : Statement}

/-- Statements keep a registry tidy. -/
lemma Performs.tidy (h : Performs issued b st b') (tidy : b.registry.Tidy) : b'.registry.Tidy := by
  cases h with
  | edge _ roomx roomy => exact (tidy.note roomx).note roomy
  | mark _ room => exact tidy.note room
  | known => exact tidy

/-- The statement that something is declared mentions nothing. -/
lemma not_mentions_known {x} : ¬ Statement.known.Mentions x := by
  intro h
  cases h with
  | source h => cases h
  | target h => cases h
  | mark h => cases h

/-- A statement adds the variables that it mentions. -/
lemma Performs.vars (h : Performs issued b st b') {name} :
    name ∈ b'.registry.vars ↔ name ∈ b.registry.vars ∨ st.Mentions (.var name) := by
  cases h with
  | edge hedge =>
    simp only [hedge.mentions, Registry.mem_vars_note, or_assoc, eq_comm (a := Reference.var name)]
  | mark hmark =>
    simp only [hmark.mentions, Registry.mem_vars_note, eq_comm (a := Reference.var name)]
  | known => simp only [not_mentions_known, or_false]

/-- A statement adds the parameters that it mentions. -/
lemma Performs.params (h : Performs issued b st b') {p} :
    p ∈ b'.registry.params ↔
      p ∈ b.registry.params ∨
        ∃ index, st.Mentions (.param index) ∧ ParamIndex.ofInt64 index = .ok p := by
  cases h with
  | edge hedge =>
    simp only [hedge.mentions, Registry.mem_params_note, or_assoc, or_and_right, exists_or,
      eq_comm (b := Reference.param _)]
  | mark hmark =>
    simp only [hmark.mentions, Registry.mem_params_note, eq_comm (b := Reference.param _)]
  | known => simp only [not_mentions_known, false_and, exists_false, or_false]

/-- What a statement mentions denotes a node from then on. -/
lemma Performs.denotes (h : Performs issued b st b') {x} (hx : st.Mentions x) :
    ∃ n, Denotes b'.registry issued x n := by
  cases h with
  | @edge _ _ _ _ m n hedge _ _ hm hn =>
    cases hedge.mentions.1 hx with
    | inl e => subst e; exact ⟨m, hm.grows (Registry.grows_note _ _)⟩
    | inr e => subst e; exact ⟨n, hn⟩
  | @mark _ _ n hmark _ hn =>
    have e := hmark.mentions.1 hx
    subst e
    exact ⟨n, hn⟩
  | known => exact absurd hx not_mentions_known

/-- A statement adds the edges that it speaks of. -/
lemma Performs.edges (h : Performs issued b st b') {m n kind} :
    ⟨m, n, kind⟩ ∈ b'.graph.edges ↔ ⟨m, n, kind⟩ ∈ b.graph.edges ∨
      ∃ x y, st.Edge kind x y ∧
        Denotes b'.registry issued x m ∧ Denotes b'.registry issued y n := by
  cases h with
  | @edge _ _ x y _ _ hedge _ _ hm hn =>
    have hm' := hm.grows (Registry.grows_note _ y)
    rw [Graph.mem_insert]
    refine or_congr_right ⟨fun e => ?_, fun h => ?_⟩
    · cases e
      exact ⟨x, y, hedge, hm', hn⟩
    · obtain ⟨x', y', hedge', hx', hy'⟩ := h
      obtain ⟨rfl, rfl, rfl⟩ := hedge'.unique hedge
      rw [hx'.unique hm', hy'.unique hn]
  | mark hmark =>
    refine (or_iff_left fun h => ?_).symm
    obtain ⟨x', y', hedge', -⟩ := h
    exact hedge'.not_marks hmark
  | known =>
    refine (or_iff_left fun h => ?_).symm
    obtain ⟨x', y', hedge', -⟩ := h
    cases hedge'

/-- A statement marks the nodes that it speaks of. -/
lemma Performs.marks (h : Performs issued b st b') {n} :
    n ∈ b'.declared.getD [] ↔
      n ∈ b.declared.getD [] ∨ ∃ x, st.Marks x ∧ Denotes b'.registry issued x n := by
  cases h with
  | edge hedge =>
    have same : (st.declared b.declared).getD [] = b.declared.getD [] := by
      unfold Statement.declared
      split
      all_goals rfl
    simp only [same]
    refine (or_iff_left fun h => ?_).symm
    obtain ⟨x', hmark, -⟩ := h
    exact hedge.not_marks hmark
  | @mark _ x m hmark _ hm =>
    have added : n ∈ (if m ∈ b.declared.getD [] then b.declared.getD []
        else b.declared.getD [] ++ [m]) ↔ n ∈ b.declared.getD [] ∨ n = m := by
      split
      case isTrue mem =>
        refine ⟨.inl, fun h => ?_⟩
        cases h with
        | inl h => exact h
        | inr h => subst h; exact mem
      case isFalse => rw [List.mem_append, List.mem_singleton]
    refine added.trans (or_congr_right ⟨fun e => ?_, fun h => ?_⟩)
    · subst e
      exact ⟨x, hmark, hm⟩
    · obtain ⟨x', hmark', hn⟩ := h
      have e := hmark'.unique hmark
      subst e
      exact hn.unique hm
  | known =>
    refine (or_iff_left fun h => ?_).symm
    obtain ⟨x', hmark, -⟩ := h
    cases hmark

/-- Whether sensitivity is declared depends on the statements alone. -/
lemma Performs.declared_isSome (h : Performs issued b st b') :
    b'.declared.isSome = (b.declared.isSome || st.declares) := by
  cases h with
  | edge =>
    unfold Statement.declared
    cases st.declares with
    | false => simp
    | true => simp
  | mark hmark =>
    cases hmark with
    | param => simp [Statement.declares]
    | place => simp [Statement.declares]
  | known => simp [Statement.declares]

end Performs

/-- A statement can be read, and its references are resolvable. -/
inductive Statement.Ready (declared : String → Prop) : Statement → Prop where
  | edge {st kind x y} :
    st.Edge kind x y →
    Resolvable declared x →
    Resolvable declared y →
    Ready declared st
  | mark {st x} :
    st.Marks x →
    Resolvable declared x →
    Ready declared st
  | known :
    Ready declared .known

/-- Only statements that are ready can be carried out. -/
lemma Performs.ready {issued b st b'} (h : Performs issued b st b') :
    st.Ready (fun id => ∃ c, issued.get? id = some c) := by
  cases h with
  | edge hedge _ _ hx hy => exact .edge hedge hx.resolvable hy.resolvable
  | mark hmark _ hx => exact .mark hmark hx.resolvable
  | known => exact .known

/-- What a body contains once the statements `sts` have been carried out. -/
structure Depicts (issued : Issued) (sts : List Statement) (b : Body) : Prop where
  tidy : b.registry.Tidy
  vars : ∀ {name}, name ∈ b.registry.vars ↔ ∃ st ∈ sts, st.Mentions (.var name)
  params : ∀ {p}, p ∈ b.registry.params ↔
    ∃ st ∈ sts, ∃ index, st.Mentions (.param index) ∧ ParamIndex.ofInt64 index = .ok p
  denotes : ∀ {st x}, st ∈ sts → st.Mentions x → ∃ n, Denotes b.registry issued x n
  edges : ∀ {m n kind}, ⟨m, n, kind⟩ ∈ b.graph.edges ↔
    ∃ st ∈ sts, ∃ x y, st.Edge kind x y ∧
      Denotes b.registry issued x m ∧ Denotes b.registry issued y n
  marks : ∀ {n}, n ∈ b.declared.getD [] ↔
    ∃ st ∈ sts, ∃ x, st.Marks x ∧ Denotes b.registry issued x n
  known : b.declared.isSome = sts.any Statement.declares
  ready : ∀ {st}, st ∈ sts → st.Ready (fun id => ∃ c, issued.get? id = some c)

/-- Some statement of a longer list has a property if it is an old one or the new one. -/
lemma exists_mem_snoc {sts : List Statement} {st} {P : Statement → Prop} :
    (∃ st' ∈ sts ++ [st], P st') ↔ (∃ st' ∈ sts, P st') ∨ P st := by
  simp only [List.mem_append, List.mem_singleton, or_and_right, exists_or, exists_eq_left]

section Depicts

variable {issued : Issued} {sts : List Statement} {b b' : Body}

/-- What a mentioned reference denotes does not change. -/
lemma Depicts.stays (h : Depicts issued sts b) (grows : b.registry.Grows b'.registry) {st x n}
    (mem : st ∈ sts) (hx : st.Mentions x) :
    Denotes b'.registry issued x n ↔ Denotes b.registry issued x n := by
  refine ⟨fun hn => ?_, fun hn => hn.grows grows⟩
  obtain ⟨m, hm⟩ := h.denotes mem hx
  rw [hn.unique (hm.grows grows)]
  exact hm

/-- Carrying out one more statement keeps the invariant; `Depicts.run` says so of a chain. -/
lemma Depicts.step (h : Depicts issued sts b) {st} (step : Performs issued b st b') :
    Depicts issued (sts ++ [st]) b' where
  tidy := step.tidy h.tidy
  vars := by
    intro name
    rw [step.vars, h.vars, exists_mem_snoc]
  params := by
    intro p
    rw [step.params, h.params, exists_mem_snoc]
  denotes := by
    intro st' x mem hx
    rw [List.mem_append, List.mem_singleton] at mem
    cases mem with
    | inl mem =>
      obtain ⟨n, hn⟩ := h.denotes mem hx
      exact ⟨n, hn.grows step.grows⟩
    | inr e =>
      subst e
      exact step.denotes hx
  edges := by
    intro m n kind
    rw [step.edges, h.edges, exists_mem_snoc]
    -- the edges of earlier statements are read through the larger registry now
    refine or_congr_left (exists_congr fun st' => and_congr_right fun mem => ?_)
    refine exists_congr fun x => exists_congr fun y => and_congr_right fun hedge => ?_
    rw [h.stays step.grows mem (.source hedge), h.stays step.grows mem (.target hedge)]
  marks := by
    intro n
    rw [step.marks, h.marks, exists_mem_snoc]
    refine or_congr_left (exists_congr fun st' => and_congr_right fun mem => ?_)
    refine exists_congr fun x => and_congr_right fun hmark => ?_
    rw [h.stays step.grows mem (.mark hmark)]
  known := by
    rw [step.declared_isSome, h.known, List.any_append, List.any_cons, List.any_nil, Bool.or_false]
  ready := by
    intro st' mem
    rw [List.mem_append, List.mem_singleton] at mem
    cases mem with
    | inl mem => exact h.ready mem
    | inr e => subst e; exact step.ready

/-- A body depicts all statements that are performed one after the other. -/
lemma Depicts.run (h : Depicts issued sts b) {more} (chain : Chain (Performs issued) b more b') :
    Depicts issued (sts ++ more) b' := by
  induction chain generalizing sts with
  | nil =>
    rw [List.append_nil]
    exact h
  | @cons b st b1 more b' first _ ih =>
    have h' := ih (h.step first)
    rw [List.append_assoc] at h'
    exact h'

end Depicts

/-- The statements can be carried out: each of them is ready, and the variables that they mention
fit into slots. -/
structure Feasible (declared : String → Prop) (sts : List Statement) : Prop where
  ready : ∀ st ∈ sts, st.Ready declared
  fits : ∀ names : List String, names.Nodup →
    (∀ name ∈ names, ∃ st ∈ sts, st.Mentions (.var name)) → names.length ≤ Registry.slotLimit

/-- Some of the statements can be carried out if all can. -/
lemma Feasible.subset {declared sts sts'} (h : Feasible declared sts) (sub : sts' ⊆ sts) :
    Feasible declared sts' where
  ready := fun st mem => h.ready st (sub mem)
  fits := by
    intro names nodup mentioned
    refine h.fits names nodup fun name mem => ?_
    obtain ⟨st, hst, mentions⟩ := mentioned name mem
    exact ⟨st, sub hst, mentions⟩

section Feasible

variable {issued : Issued} {sts : List Statement} {b : Body}

/-- Statements that were carried out are feasible. -/
lemma Depicts.feasible (h : Depicts issued sts b) :
    Feasible (fun id => ∃ c, issued.get? id = some c) sts where
  ready := fun _ => h.ready
  fits := by
    intro names nodup mentioned
    have sub : names ⊆ b.registry.vars := fun name mem => h.vars.2 (mentioned name mem)
    exact (List.subperm_of_subset nodup sub).length_le.trans h.tidy.fits

/-- One more statement of a feasible list can be carried out. -/
lemma Depicts.progress (h : Depicts issued sts b) {st more}
    (feasible : Feasible (fun id => ∃ c, issued.get? id = some c) (sts ++ st :: more)) :
    ∃ b', Performs issued b st b' := by
  have mem : st ∈ sts ++ st :: more := by simp
  -- every name that is registered on the way is mentioned by one of the statements
  have old : ∀ name ∈ b.registry.vars, ∃ st' ∈ sts ++ st :: more, st'.Mentions (.var name) := by
    intro name hname
    obtain ⟨st', mem', hst'⟩ := h.vars.1 hname
    exact ⟨st', List.mem_append_left _ mem', hst'⟩
  have room : ∀ x, st.Mentions x → b.registry.Room x := by
    intro x hx
    refine Registry.room old feasible.fits ?_
    intro name e
    subst e
    exact ⟨st, mem, hx⟩
  cases feasible.ready st mem with
  | @edge _ kind x y hedge hx hy =>
    -- the target is registered after the source, which may have taken a slot
    have roomx := room x (.source hedge)
    have roomy : (b.registry.note x).Room y := by
      refine Registry.room ?_ feasible.fits ?_
      · intro name hname
        cases Registry.mem_vars_note.1 hname with
        | inl hname => exact old name hname
        | inr e => subst e; exact ⟨st, mem, .source hedge⟩
      · intro name e
        subst e
        exact ⟨st, mem, .target hedge⟩
    obtain ⟨m, hm⟩ := hx.denotes b.registry
    obtain ⟨n, hn⟩ := hy.denotes (b.registry.note x)
    exact ⟨_, .edge hedge roomx roomy hm hn⟩
  | @mark _ x hmark hx =>
    obtain ⟨n, hn⟩ := hx.denotes b.registry
    exact ⟨_, .mark hmark (room x (.mark hmark)) hn⟩
  | known => exact ⟨_, .known⟩

/-- Feasible statements can be carried out. -/
lemma Depicts.total (h : Depicts issued sts b) {more}
    (feasible : Feasible (fun id => ∃ c, issued.get? id = some c) (sts ++ more)) :
    ∃ b', Chain (Performs issued) b more b' := by
  induction more generalizing sts b with
  | nil => exact ⟨b, .nil⟩
  | cons st more ih =>
    obtain ⟨b1, first⟩ := h.progress feasible
    rw [List.append_cons] at feasible
    obtain ⟨b', rest⟩ := ih (h.step first) feasible
    exact ⟨b', .cons first rest⟩

end Feasible

/-- Once all declared control nodes were issued, those that can be looked up are the declared ones.
-/
lemma Issues.declared {controls p issued b}
    (h : Issues controls (controls.map ControlDecl.id) p (issued, b)) :
    (fun id => ∃ c, issued.get? id = some c) = (· ∈ controls.map ControlDecl.id) := by
  funext id
  rw [Issued.get?_isSome]
  exact propext ⟨fun mem => h.issuing.declared mem, fun mem => h.has mem⟩

/-- A new body depicts no statements, whatever control nodes it has. -/
lemma SameButControls.depicts {issued unit name b} (same : SameButControls (Body.new unit name) b) :
    Depicts issued [] b := by
  obtain ⟨infos, rfl⟩ := same
  refine ⟨⟨List.nodup_nil, Nat.zero_le _⟩, ?_, ?_, nofun, ?_, ?_, rfl, nofun⟩
  all_goals simp [Body.new, Registry.empty, Graph.empty, FlowGraph.none]

end Facts

namespace BodyFacts

open Facts

/-- The facts can be carried out. -/
structure Consistent (f : BodyFacts) : Prop where
  nested : Nested f.controls
  fits : f.controls.length ≤ Registry.slotLimit
  feasible : Feasible (· ∈ f.controls.map ControlDecl.id) f.statements

/-- The body that facts make depicts their statements, and it has the declared control nodes. -/
lemma toBody_depicts {f : BodyFacts} {unit b} (h : f.toBody unit = .ok b) :
    ∃ issued, Issued.Distinct issued ∧ Depicts issued f.statements b ∧
      b.registry.controls.length = f.controls.length := by
  obtain ⟨issued, b1, first, chain⟩ := (replay_ok rfl).1 (toBody_ok.1 h)
  obtain ⟨-, issues, length⟩ := issueControls_ok rfl first
  refine ⟨issued, issues.issuing.distinct, issues.same.depicts.run chain, ?_⟩
  rw [← length]
  refine congrArg List.length
    (chain.keeps (I := fun b => b.registry.controls = b1.registry.controls)
    ?_ rfl)
  intro b2 st b3 same step
  rw [step.grows.controls, same]

/-- Facts make a body if and only if they are consistent, whatever number it gets. -/
lemma toBody_isOk {f : BodyFacts} {unit} : (∃ b, f.toBody unit = .ok b) ↔ f.Consistent := by
  refine ⟨fun h => ?_, fun h => ?_⟩
  · obtain ⟨b, h⟩ := h
    obtain ⟨issued, b1, first, chain⟩ := (replay_ok rfl).1 (toBody_ok.1 h)
    obtain ⟨nested, issues, length⟩ := issueControls_ok rfl first
    have depicts : Depicts issued f.statements b := issues.same.depicts.run chain
    refine ⟨nested, ?_, ?_⟩
    · rw [← length]
      exact issues.issuing.fits
    · rw [← issues.declared]
      exact depicts.feasible
  · obtain ⟨issued, b1, first⟩ :=
      issueControls_total (b := Body.new unit f.name) rfl h.nested h.fits
    obtain ⟨-, issues, -⟩ := issueControls_ok rfl first
    have feasible := h.feasible
    rw [← issues.declared] at feasible
    obtain ⟨b, chain⟩ := issues.same.depicts.total feasible
    exact ⟨b, toBody_ok.2 ((replay_ok rfl).2 ⟨issued, b1, first, chain⟩)⟩

end BodyFacts

end InfoFlow
