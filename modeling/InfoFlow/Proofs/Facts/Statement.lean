import InfoFlow.Proofs.Facts.Controls

/-!
# Statements of facts

The facts of a body are a list of statements, `BodyFacts.statements`, which are carried out one
after the other once the control nodes have been issued. A statement says that there is an edge
(`Statement.Edge`) or that something is sensitive (`Statement.Marks`), and it does so in terms of
references, without any body.

`Facts.Performs` is what carrying out a statement does to a body. `Facts.perform_ok` says that the
program does exactly this, and `BodyFacts.replay_ok` lifts it to all facts of a body.
-/

namespace InfoFlow

/-- `raw` names the control node `id` where a control edge starts: with its mark or without. -/
def Reference.IsGuard (raw id : String) : Prop :=
  parse raw = .ok (.control id) ∨ parse raw = .ok (.var id)

namespace Facts

/-- One statement of the facts of a body. -/
inductive Statement where
  | data (edge : String × String)
  | control (edge : String × String)
  | source (name : String)
  | sink (name : String)
  | param (index : Int64)
  | place (raw : String)
  /-- Something is known about what is sensitive. -/
  | known

namespace Statement

/-- Carries out a statement. -/
def perform (issued : Issued) : Statement → Update Body PUnit
  | .data edge => Facts.addData issued edge
  | .control edge => Facts.addControl issued edge
  | .source name => do
    let _ ← Body.markSource name
  | .sink name => do
    let _ ← Body.markSink name
  | .param index => Facts.markParam index
  | .place raw => Facts.markLocal issued raw
  | .known => Body.markKnown

/-- The edge that a statement speaks of. -/
inductive Edge : Statement → EdgeKind → Reference → Reference → Prop where
  | data {edge x y} :
    Reference.parse edge.1 = .ok x →
    Reference.parse edge.2 = .ok y →
    Edge (.data edge) .data x y
  | control {edge id y} :
    Reference.IsGuard edge.1 id →
    Reference.parse edge.2 = .ok y →
    Edge (.control edge) .control (.control id) y
  | source {name} :
    Edge (.source name) .data (.boundary .source) (.var name)
  | sink {name} :
    Edge (.sink name) .data (.var name) (.boundary .sink)

/-- The node that a statement declares sensitive. -/
inductive Marks : Statement → Reference → Prop where
  | param {index} :
    Marks (.param index) (.param index)
  | place {raw x} :
    Reference.parse raw = .ok x →
    Marks (.place raw) x

/-- The references that occur in a statement. -/
inductive Mentions (st : Statement) : Reference → Prop where
  | source {kind x y} :
    st.Edge kind x y →
    Mentions st x
  | target {kind x y} :
    st.Edge kind x y →
    Mentions st y
  | mark {x} :
    st.Marks x →
    Mentions st x

/-- Whether a statement is about what is sensitive. -/
def declares : Statement → Bool
  | .data _ => false
  | .control _ => false
  | _ => true

/-- What is declared after a statement that speaks of an edge. -/
def declared (st : Statement) (nodes : Option (List Node)) : Option (List Node) :=
  if st.declares then some (nodes.getD []) else nodes

end Statement

/-- Only one control node is named where a control edge starts. -/
lemma isGuard_unique {raw id id'} (h : Reference.IsGuard raw id) (h' : Reference.IsGuard raw id') :
    id = id' := by
  cases h with
  | inl h =>
    cases h' with
    | inl h' => rw [h] at h'; cases h'; rfl
    | inr h' => rw [h] at h'; cases h'
  | inr h =>
    cases h' with
    | inl h' => rw [h] at h'; cases h'
    | inr h' => rw [h] at h'; cases h'; rfl

/-- A statement speaks of one edge at most. -/
lemma Statement.Edge.unique {st : Statement} {kind kind' x x' y y'} (h : st.Edge kind x y)
    (h' : st.Edge kind' x' y') : kind = kind' ∧ x = x' ∧ y = y' := by
  cases h with
  | data hx hy =>
    cases h' with
    | data hx' hy' =>
      rw [hx] at hx'
      rw [hy] at hy'
      cases hx'
      cases hy'
      exact ⟨rfl, rfl, rfl⟩
  | control hx hy =>
    cases h' with
    | control hx' hy' =>
      rw [hy] at hy'
      cases hy'
      rw [isGuard_unique hx hx']
      exact ⟨rfl, rfl, rfl⟩
  | source => cases h'; exact ⟨rfl, rfl, rfl⟩
  | sink => cases h'; exact ⟨rfl, rfl, rfl⟩

/-- A statement marks one reference at most. -/
lemma Statement.Marks.unique {st : Statement} {x x'} (h : st.Marks x) (h' : st.Marks x') :
    x = x' := by
  cases h with
  | param => cases h'; rfl
  | place hx =>
    cases h' with
    | place hx' => rw [hx] at hx'; cases hx'; rfl

/-- What carrying out a statement does to a body. Both ends of an edge are registered before it is
added, the source first. -/
inductive Performs (issued : Issued) (b : Body) : Statement → Body → Prop where
  | edge {st kind x y m n} :
    st.Edge kind x y →
    b.registry.Room x →
    (b.registry.note x).Room y →
    Denotes (b.registry.note x) issued x m →
    Denotes ((b.registry.note x).note y) issued y n →
    Performs issued b st
      { b with
        registry := (b.registry.note x).note y
        graph := b.graph.insert ⟨m, n, kind⟩
        declared := st.declared b.declared }
  | mark {st x n} :
    st.Marks x →
    b.registry.Room x →
    Denotes (b.registry.note x) issued x n →
    Performs issued b st
      { b with
        registry := b.registry.note x
        declared :=
          let nodes := b.declared.getD []
          some (if n ∈ nodes then nodes else nodes ++ [n]) }
  | known :
    Performs issued b .known { b with declared := some (b.declared.getD []) }

/-- Statements only add to a registry. -/
lemma Performs.grows {issued b st b'} (h : Performs issued b st b') :
    b.registry.Grows b'.registry := by
  cases h with
  | edge => exact (Registry.grows_note _ _).trans (Registry.grows_note _ _)
  | mark => exact Registry.grows_note _ _
  | known => exact .refl _

/-- An edge can be added if both of its ends can be used. -/
lemma connect_ok {e b b'} :
    (∃ a, Body.onGraph (fun r => Graph.connect r e) b = .ok a b') ↔
      b.registry.check e.source = .ok () ∧ b.registry.check e.target = .ok () ∧
        b' = { b with graph := b.graph.insert e } := by
  simp only [Body.connect_ok, exists_and_left, exists_eq_left]

/-- A control node is found by its id, and nothing changes. -/
lemma controlNamed_ok {issued id b c b'} :
    controlNamed issued id b = .ok c b' ↔ issued.get? id = some c ∧ b' = b := by
  unfold controlNamed
  cases issued.get? id with
  | none => exact ⟨nofun, nofun⟩
  | some c' =>
    simp only [Option.some.injEq]
    rw [Update.pure_ok, eq_comm (a := c)]

/-- What names a control node where a control edge starts is resolved to it. -/
lemma resolveGuard_ok {issued raw b c b'} :
    resolveGuard issued raw b = .ok c b' ↔
      ∃ id, Reference.IsGuard raw id ∧ issued.get? id = some c ∧ b' = b := by
  unfold resolveGuard Reference.IsGuard
  cases hparse : Reference.parse raw with
  | error e => exact ⟨nofun, fun h => by obtain ⟨id, h | h, -⟩ := h <;> cases h⟩
  | ok x =>
    cases x with
    | boundary p => exact ⟨nofun, fun h => by obtain ⟨id, h | h, -⟩ := h <;> cases h⟩
    | param index => exact ⟨nofun, fun h => by obtain ⟨id, h | h, -⟩ := h <;> cases h⟩
    | control id =>
      simp only
      rw [controlNamed_ok]
      refine ⟨fun h => ⟨id, .inl rfl, h⟩, fun h => ?_⟩
      obtain ⟨id', h | h, hc⟩ := h
      · cases h; exact hc
      · cases h
    | var name =>
      simp only [Except.ok.injEq, reduceCtorEq, Reference.var.injEq, false_or, exists_eq_left']
      -- a variable of that name only changes the refusal
      change (if (issued.get? name).isNone && (b.registry.var? name).isSome then
          throw (.notAControlNode raw)
        else controlNamed issued name : Update Body ControlId) b = .ok c b' ↔ _
      split
      case isTrue clash =>
        rw [Bool.and_eq_true, Option.isNone_iff_eq_none] at clash
        rw [clash.1]
        exact ⟨nofun, nofun⟩
      case isFalse => exact controlNamed_ok

section Perform

variable {issued : Issued} {b b' : Body}

/-- The edge between two references that were registered can be added. -/
lemma connect_denoted {x y m n} (kind : EdgeKind) (known : Issued.Known issued b.registry)
    (hx : Denotes (b.registry.note x) issued x m)
    (hy : Denotes ((b.registry.note x).note y) issued y n) :
    (∃ a, Body.onGraph (fun r => Graph.connect r ⟨m, n, kind⟩) ((b.note x).note y) = .ok a b') ↔
      b' = { (b.note x).note y with graph := b.graph.insert ⟨m, n, kind⟩ } := by
  have grows := (b.registry.note x).grows_note y
  have known' := known.grows ((b.registry.grows_note x).trans grows)
  rw [connect_ok]
  refine ⟨fun h => h.2.2, fun h => ⟨?_, ?_, h⟩⟩
  · exact (hx.grows grows).check known'
  · exact hy.check known'

/-- A data edge is added as its statement says. -/
lemma addData_ok {edge} (known : Issued.Known issued b.registry) :
    addData issued edge b = .ok ⟨⟩ b' ↔ Performs issued b (.data edge) b' := by
  refine ⟨fun h => ?_, fun h => ?_⟩
  · obtain ⟨m, b1, h1, rest⟩ := Update.bind_ok.1 h
    obtain ⟨n, b2, h2, h3⟩ := Update.bind_ok.1 rest
    obtain ⟨x, px, roomx, rfl, hx⟩ := resolve_ok.1 h1
    obtain ⟨y, py, roomy, rfl, hy⟩ := resolve_ok.1 h2
    have e := (connect_denoted .data known hx hy).1 (Update.drop_ok.1 h3)
    subst e
    exact .edge (.data px py) roomx roomy hx hy
  · cases h with
    | @edge _ _ x y m n hedge roomx roomy hx hy =>
      cases hedge with
      | data px py =>
        have h1 : resolve issued edge.1 b = .ok m (b.note x) :=
          resolve_ok.2 ⟨x, px, roomx, rfl, hx⟩
        have h2 : resolve issued edge.2 (b.note x) = .ok n ((b.note x).note y) :=
          resolve_ok.2 ⟨y, py, roomy, rfl, hy⟩
        have h3 := Update.drop_ok.2 ((connect_denoted .data known hx hy).2 rfl)
        exact Update.bind_ok.2 ⟨m, _, h1, Update.bind_ok.2 ⟨n, _, h2, h3⟩⟩
    | mark hmark => cases hmark

/-- A control edge is added as its statement says. -/
lemma addControl_ok {edge} (known : Issued.Known issued b.registry) :
    addControl issued edge b = .ok ⟨⟩ b' ↔ Performs issued b (.control edge) b' := by
  refine ⟨fun h => ?_, fun h => ?_⟩
  · obtain ⟨c, b1, h1, rest⟩ := Update.bind_ok.1 h
    obtain ⟨n, b2, h2, h3⟩ := Update.bind_ok.1 rest
    obtain ⟨id, guard, hc, rfl⟩ := resolveGuard_ok.1 h1
    obtain ⟨y, py, roomy, rfl, hy⟩ := resolve_ok.1 h2
    have e := (connect_denoted (x := .control id) .control known (.control hc) hy).1
      (Update.drop_ok.1 h3)
    subst e
    exact .edge (.control guard py) nofun roomy (.control hc) hy
  · cases h with
    | @edge _ _ x y m n hedge _ roomy hx hy =>
      cases hedge with
      | @control _ id _ guard py =>
        cases hx with
        | @control _ c hc =>
          have h1 : resolveGuard issued edge.1 b = .ok c b :=
            resolveGuard_ok.2 ⟨id, guard, hc, rfl⟩
          have h2 : resolve issued edge.2 b = .ok n (b.note y) :=
            resolve_ok.2 ⟨y, py, roomy, rfl, hy⟩
          have h3 := Update.drop_ok.2
            ((connect_denoted (x := .control id) .control known (.control hc) hy).2 rfl)
          exact Update.bind_ok.2 ⟨c, _, h1, Update.bind_ok.2 ⟨n, _, h2, h3⟩⟩
    | mark hmark => cases hmark

/-- A source is marked as its statement says. -/
lemma markSource_ok {name} (known : Issued.Known issued b.registry) :
    (∃ n, Body.markSource name b = .ok n b') ↔ Performs issued b (.source name) b' := by
  have origin : ∀ r, Denotes r issued (.boundary .source) (.boundary .source) := fun _ =>
    .boundary nofun
  refine ⟨fun h => ?_, fun h => ?_⟩
  · obtain ⟨n', h⟩ := h
    obtain ⟨n, b1, h1, rest⟩ := Update.bind_ok.1 h
    obtain ⟨a, b2, h2, h3⟩ := Update.bind_ok.1 rest
    obtain ⟨room, rfl, hy⟩ := var_ok.1 h1
    have e := (connect_denoted (x := .boundary .source) (y := .var name) .data known
      (origin _) hy).1 ⟨a, h2⟩
    subst e
    cases h3
    exact .edge .source nofun room (origin _) hy
  · cases h with
    | @edge _ _ x y m n hedge _ room hx hy =>
      cases hedge with
      | source =>
        cases hx with
        | boundary =>
          have h1 : Body.var name b = .ok n (b.note (.var name)) := var_ok.2 ⟨room, rfl, hy⟩
          obtain ⟨a, h2⟩ := (connect_denoted (x := .boundary .source) (y := .var name) .data
            known (origin _) hy).2 rfl
          exact ⟨n, Update.bind_ok.2 ⟨n, _, h1, Update.bind_ok.2 ⟨a, _, h2, rfl⟩⟩⟩
    | mark hmark => cases hmark

/-- A sink is marked as its statement says. -/
lemma markSink_ok {name} (known : Issued.Known issued b.registry) :
    (∃ n, Body.markSink name b = .ok n b') ↔ Performs issued b (.sink name) b' := by
  have target : ∀ r, Denotes r issued (.boundary .sink) (.boundary .sink) := fun _ =>
    .boundary nofun
  refine ⟨fun h => ?_, fun h => ?_⟩
  · obtain ⟨n', h⟩ := h
    obtain ⟨n, b1, h1, rest⟩ := Update.bind_ok.1 h
    obtain ⟨a, b2, h2, h3⟩ := Update.bind_ok.1 rest
    obtain ⟨room, rfl, hx⟩ := var_ok.1 h1
    have e := (connect_denoted (x := .var name) (y := .boundary .sink) .data known
      hx (target _)).1 ⟨a, h2⟩
    subst e
    cases h3
    exact .edge .sink room nofun hx (target _)
  · cases h with
    | @edge _ _ x y m n hedge room _ hx hy =>
      cases hedge with
      | sink =>
        cases hy with
        | boundary =>
          have h1 : Body.var name b = .ok m (b.note (.var name)) := var_ok.2 ⟨room, rfl, hx⟩
          obtain ⟨a, h2⟩ := (connect_denoted (x := .var name) (y := .boundary .sink) .data
            known hx (target _)).2 rfl
          exact ⟨m, Update.bind_ok.2 ⟨m, _, h1, Update.bind_ok.2 ⟨a, _, h2, rfl⟩⟩⟩
    | mark hmark => cases hmark

/-- A node that is denoted is marked once. -/
lemma markSensitive_ok {x n} (known : Issued.Known issued b.registry)
    (hx : Denotes b.registry issued x n) :
    Body.markSensitive n b = .ok ⟨⟩ b' ↔
      b' = { b with
        declared :=
          let nodes := b.declared.getD []
          some (if n ∈ nodes then nodes else nodes ++ [n]) } := by
  unfold Body.markSensitive
  simp only [hx.check known]
  refine ⟨fun h => ?_, fun h => ?_⟩
  · cases h
    rfl
  · subst h
    rfl

/-- A parameter is marked as its statement says. -/
lemma markParam_ok {index} (known : Issued.Known issued b.registry) :
    markParam index b = .ok ⟨⟩ b' ↔ Performs issued b (.param index) b' := by
  have known' := known.grows (b.registry.grows_note (.param index))
  refine ⟨fun h => ?_, fun h => ?_⟩
  · obtain ⟨n, b1, h1, h2⟩ := Update.bind_ok.1 h
    obtain ⟨room, rfl, hx⟩ := param_ok.1 h1
    have e := (markSensitive_ok known' hx).1 h2
    subst e
    exact .mark .param room hx
  · cases h with
    | edge hedge => cases hedge
    | @mark _ x n hmark room hx =>
      cases hmark with
      | param =>
        have h1 : Body.param index b = .ok n (b.note (.param index)) := param_ok.2 ⟨room, rfl, hx⟩
        exact Update.bind_ok.2 ⟨n, _, h1, (markSensitive_ok (b := b.note _) known' hx).2 rfl⟩

/-- A place is marked as its statement says. -/
lemma markLocal_ok {raw} (known : Issued.Known issued b.registry) :
    markLocal issued raw b = .ok ⟨⟩ b' ↔ Performs issued b (.place raw) b' := by
  refine ⟨fun h => ?_, fun h => ?_⟩
  · obtain ⟨n, b1, h1, h2⟩ := Update.bind_ok.1 h
    obtain ⟨x, px, room, rfl, hx⟩ := resolve_ok.1 h1
    have known' := known.grows (b.registry.grows_note x)
    have e := (markSensitive_ok known' hx).1 h2
    subst e
    exact .mark (.place px) room hx
  · cases h with
    | edge hedge => cases hedge
    | @mark _ x n hmark room hx =>
      cases hmark with
      | place px =>
        have known' := known.grows (b.registry.grows_note x)
        have h1 : resolve issued raw b = .ok n (b.note x) := resolve_ok.2 ⟨x, px, room, rfl, hx⟩
        exact Update.bind_ok.2 ⟨n, _, h1, (markSensitive_ok (b := b.note x) known' hx).2 rfl⟩

/-- Carrying out a statement succeeds exactly as `Performs` says. -/
lemma perform_ok {st} (known : Issued.Known issued b.registry) :
    Statement.perform issued st b = .ok ⟨⟩ b' ↔ Performs issued b st b' := by
  cases st with
  | data edge => exact addData_ok known
  | control edge => exact addControl_ok known
  | source name => exact Update.drop_ok.trans (markSource_ok known)
  | sink name => exact Update.drop_ok.trans (markSink_ok known)
  | param index => exact markParam_ok known
  | place raw => exact markLocal_ok known
  | known =>
    refine ⟨fun h => ?_, fun h => ?_⟩
    · cases h
      exact .known
    · cases h with
      | edge hedge => cases hedge
      | mark hmark => cases hmark
      | known => rfl

end Perform

end Facts

namespace BodyFacts

open Facts

/-- The statements of the facts, in the order in which they are carried out. -/
def statements (f : BodyFacts) : List Statement :=
  f.data.map .data ++ f.control.map .control ++
    if f.declaresSensitivity then
      .known :: ((f.sources.getD []).map .source ++ (f.sinks.getD []).map .sink ++
        (f.sensitiveParams.getD []).map .param ++ (f.sensitiveLocals.getD []).map .place)
    else []

/-- The statements of the facts, by what they are about. -/
lemma mem_statements {f : BodyFacts} {st} :
    st ∈ f.statements ↔
      match st with
      | .data edge => edge ∈ f.data
      | .control edge => edge ∈ f.control
      | .source name => ∃ names, f.sources = some names ∧ name ∈ names
      | .sink name => ∃ names, f.sinks = some names ∧ name ∈ names
      | .param index => ∃ indices, f.sensitiveParams = some indices ∧ index ∈ indices
      | .place raw => ∃ raws, f.sensitiveLocals = some raws ∧ raw ∈ raws
      | .known => f.declaresSensitivity = true := by
  have listed : ∀ {α : Type} (l : Option (List α)) (a : α),
      a ∈ l.getD [] ↔ ∃ items, l = some items ∧ a ∈ items := by
    intro α l a
    cases l with
    | none => simp
    | some items => simp
  unfold statements
  cases declares : f.declaresSensitivity with
  | true =>
    cases st with
    | known => simp
    | _ => simp [listed]
  | false =>
    unfold declaresSensitivity at declares
    simp only [Bool.or_eq_false_iff, Option.isSome_eq_false_iff,
      Option.isNone_iff_eq_none] at declares
    obtain ⟨⟨⟨sources, sinks⟩, params⟩, locals⟩ := declares
    cases st with
    | _ => simp [sources, sinks, params, locals]

/-- Carrying out facts is issuing their control nodes and carrying out their statements. -/
lemma replay_eq (f : BodyFacts) :
    f.replay =
      issueControls f.controls >>= fun issued => f.statements.forM (Statement.perform issued) := by
  unfold replay markAll statements
  congr 1
  funext issued
  cases f.declaresSensitivity with
  | false => simp [Statement.perform, List.forM_append, List.forM_map]
  | true => simp [Statement.perform, List.forM_append, List.forM_map]

/-- Carrying out facts is a chain of transitions, one for each statement. -/
lemma replay_ok {f : BodyFacts} {b b'} (none : b.registry.controls = []) :
    f.replay b = .ok ⟨⟩ b' ↔
      ∃ issued b1, issueControls f.controls b = .ok issued b1 ∧
        Chain (Performs issued) b1 f.statements b' := by
  rw [replay_eq, Update.bind_ok]
  refine exists_congr fun issued => exists_congr fun b1 => and_congr_right fun h => ?_
  obtain ⟨-, issues, -⟩ := issueControls_ok none h
  exact Update.forM_ok (I := fun b => Issued.Known issued b.registry)
    (fun known h => known.grows h.grows) perform_ok issues.issuing.known

/-- Facts make a body if they can be carried out on a new one. -/
lemma toBody_ok {f : BodyFacts} {unit b} :
    f.toBody unit = .ok b ↔ f.replay (Body.new unit f.name) = .ok ⟨⟩ b := by
  unfold toBody
  cases f.replay (Body.new unit f.name) with
  | ok a b' =>
    refine ⟨fun h => ?_, fun h => ?_⟩
    · cases h
      rfl
    · cases h
      rfl
  | error e b' => exact ⟨nofun, nofun⟩

end BodyFacts

end InfoFlow
