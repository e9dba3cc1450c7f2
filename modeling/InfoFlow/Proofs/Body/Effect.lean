import InfoFlow.Body.Operation
import InfoFlow.Proofs.Facts.Denotation

/-!
# What operations do

`Operation.Effect` says everything that an operation can do to a body, one case for each operation:
what has to hold, what the answer is and what the body is afterwards. `Operation.perform_ok` says
that an operation that is not refused does exactly this. `Operation.Refused` says when and why an
operation is refused, and `Operation.perform_error` that it is refused just then and does nothing.
-/

namespace InfoFlow

namespace Registry

variable {r r' : Registry} {n : Node}

/-- A node stays usable as long as slots are only added. -/
lemma check_mono (unit : r'.unit = r.unit) (vars : r.vars.length ≤ r'.vars.length)
    (params : r.params ⊆ r'.params) (controls : r.controls.length ≤ r'.controls.length)
    (h : r.check n = .ok ()) : r'.check n = .ok () := by
  cases n with
  | boundary p =>
    cases p with
    | param index =>
      unfold check at h ⊢
      simp only at h ⊢
      split at h
      case isTrue mem => exact if_pos (params mem)
      case isFalse => cases h
    | _ => rfl
  | var id =>
    unfold check knowsVar at h ⊢
    simp only at h ⊢
    split at h
    case isTrue known =>
      rw [Bool.and_eq_true, decide_eq_true_eq, decide_eq_true_eq] at known
      refine if_pos ?_
      rw [Bool.and_eq_true, decide_eq_true_eq, decide_eq_true_eq, unit]
      exact ⟨known.1, Nat.lt_of_lt_of_le known.2 vars⟩
    case isFalse => cases h
  | control id =>
    unfold check knowsControl at h ⊢
    simp only at h ⊢
    split at h
    case isTrue known =>
      rw [Bool.and_eq_true, decide_eq_true_eq, decide_eq_true_eq] at known
      refine if_pos ?_
      rw [Bool.and_eq_true, decide_eq_true_eq, decide_eq_true_eq, unit]
      exact ⟨known.1, Nat.lt_of_lt_of_le known.2 controls⟩
    case isFalse => cases h

/-- What can be used stays usable while the registry grows. -/
lemma Grows.check (grows : Grows r r') (h : r.check n = .ok ()) : r'.check n = .ok () :=
  check_mono grows.unit grows.vars.length_le grows.params (Nat.le_of_eq (by rw [grows.controls])) h

/-- A variable that is asked for takes nothing away. -/
lemma var_grows {name} (h : Registry.var name r = .ok n r') : Grows r r' := by
  obtain ⟨-, rfl, -⟩ := var_ok.1 h
  exact grows_note r _

/-- A parameter that is asked for takes nothing away. -/
lemma param_grows {index} (h : Registry.param index r = .ok n r') : Grows r r' := by
  obtain ⟨rfl, -⟩ := param_ok.1 h
  exact grows_note r _

/-- A variable that was asked for can be used. -/
lemma var_check {name} (h : Registry.var name r = .ok n r') : r'.check n = .ok () := by
  obtain ⟨-, -, id, found, rfl⟩ := var_ok.1 h
  exact var?_check found

/-- A control node gets the next slot. -/
lemma control_ok {parent branch id} :
    Registry.control parent branch r = .ok id r' ↔
      r.checkParent parent = .ok () ∧ r.controls.length < slotLimit ∧
        id = ⟨r.unit, r.controls.length⟩ ∧
        r' = { r with controls := r.controls ++ [⟨parent, branch⟩] } := by
  unfold Registry.control
  cases hparent : r.checkParent parent with
  | error e =>
    refine ⟨fun h => ?_, fun h => ?_⟩
    · cases h
    · cases h.1
  | ok =>
    simp only
    split
    case isTrue lt =>
      refine ⟨fun h => ?_, fun h => ?_⟩
      · cases h
        exact ⟨trivial, lt, rfl, rfl⟩
      · obtain ⟨-, -, rfl, rfl⟩ := h
        rfl
    case isFalse full =>
      refine ⟨fun h => ?_, fun h => absurd h.2.1 full⟩
      cases h

/-- A variable is refused only if its name is new and there is no slot for it. -/
lemma var_refused {name e} :
    Registry.var name r = .error e r' ↔
      name ∉ r.vars ∧ slotLimit ≤ r.vars.length ∧ e = .registryFull .var ∧ r' = r := by
  refine ⟨var_error, fun h => ?_⟩
  obtain ⟨fresh, full, rfl, rfl⟩ := h
  cases run : Registry.var name r' with
  | ok n r1 => exact absurd ((var_ok.1 run).1 name rfl fresh) (Nat.not_lt.2 full)
  | error e r1 =>
    obtain ⟨-, -, rfl, rfl⟩ := var_error run
    rfl

/-- A parameter is refused only for a negative position. -/
lemma param_refused {index e} :
    Registry.param index r = .error e r' ↔
      index.toInt < 0 ∧ e = .negativeParamIndex index ∧ r' = r := by
  refine ⟨param_error, fun h => ?_⟩
  obtain ⟨negative, rfl, rfl⟩ := h
  cases run : Registry.param index r' with
  | ok n r1 =>
    obtain ⟨-, p, hp, -⟩ := param_ok.1 run
    exact absurd (ParamIndex.ofInt64_isOk.1 ⟨p, hp⟩) (Int.not_le.2 negative)
  | error e r1 =>
    obtain ⟨-, rfl, rfl⟩ := param_error run
    rfl

/-- A control node is refused if its parent cannot be used or there is no slot for it. -/
lemma control_refused {parent branch e} :
    Registry.control parent branch r = .error e r' ↔
      (r.checkParent parent = .error e ∨ r.checkParent parent = .ok () ∧
        slotLimit ≤ r.controls.length ∧ e = .registryFull .control) ∧ r' = r := by
  unfold Registry.control
  cases r.checkParent parent with
  | error e' =>
    refine ⟨fun h => ?_, fun h => ?_⟩
    · cases h
      exact ⟨.inl rfl, rfl⟩
    · obtain ⟨dangling | full, rfl⟩ := h
      · cases dangling
        rfl
      · cases full.1
  | ok =>
    simp only
    split
    case isTrue lt =>
      refine ⟨fun h => ?_, fun h => ?_⟩
      · cases h
      · obtain ⟨dangling | full, -⟩ := h
        · cases dangling
        · exact absurd lt (Nat.not_lt.2 full.2.1)
    case isFalse full =>
      refine ⟨fun h => ?_, fun h => ?_⟩
      · cases h
        exact ⟨.inr ⟨trivial, Nat.le_of_not_lt full, rfl⟩, rfl⟩
      · obtain ⟨dangling | ⟨-, -, rfl⟩, rfl⟩ := h
        · cases dangling
        · rfl

/-- A new control node takes nothing away. -/
lemma control_check {parent branch id} (h : Registry.control parent branch r = .ok id r')
    (hn : r.check n = .ok ()) : r'.check n = .ok () := by
  obtain ⟨-, -, -, rfl⟩ := control_ok.1 h
  refine check_mono (r := r) rfl (Nat.le_refl _) (List.Subset.refl _) ?_ hn
  rw [List.length_append]
  exact Nat.le_add_right _ _

end Registry

namespace Operation

/-- What an operation that is not refused answers and leaves. -/
inductive Effect (b : Body) : Operation → Answer → Body → Prop where
  | var {name n r} :
    Registry.var name b.registry = .ok n r →
    Effect b (.var name) (.node n) { b with registry := r }
  | param {index n r} :
    Registry.param index b.registry = .ok n r →
    Effect b (.param index) (.node n) { b with registry := r }
  | control {parent branch id r} :
    Registry.control parent branch b.registry = .ok id r →
    Effect b (.control parent branch) (.node (.control id)) { b with registry := r }
  | dataEdge {source target} :
    b.registry.check source = .ok () →
    b.registry.check target = .ok () →
    Effect b (.dataEdge source target) (.edge (!b.graph.contains ⟨source, target, .data⟩))
      { b with graph := b.graph.insert ⟨source, target, .data⟩ }
  | controlEdge {guard target} :
    b.registry.check (.control guard) = .ok () →
    b.registry.check target = .ok () →
    Effect b (.controlEdge guard target)
      (.edge (!b.graph.contains ⟨.control guard, target, .control⟩))
      { b with graph := b.graph.insert ⟨.control guard, target, .control⟩ }
  | markSource {name n r} :
    Registry.var name b.registry = .ok n r →
    Effect b (.markSource name) (.node n) { b with
      registry := r
      graph := b.graph.insert ⟨.boundary .source, n, .data⟩
      declared := some (b.declared.getD []) }
  | markSink {name n r} :
    Registry.var name b.registry = .ok n r →
    Effect b (.markSink name) (.node n) { b with
      registry := r
      graph := b.graph.insert ⟨n, .boundary .sink, .data⟩
      declared := some (b.declared.getD []) }
  | markSensitive {n} :
    b.registry.check n = .ok () →
    Effect b (.markSensitive n) .done { b with
      declared := some (if n ∈ b.declared.getD [] then b.declared.getD []
        else b.declared.getD [] ++ [n]) }
  | markKnown :
    Effect b .markKnown .done { b with declared := some (b.declared.getD []) }

variable {α : Type} {b b' : Body} {a : Answer} {e : Refusal}

/-- An answer is given if there is a node for it. -/
lemma answer_ok {x : Update Body α} {f : α → Answer} :
    (do return f (← x) : Update Body Answer) b = .ok a b' ↔ ∃ n, x b = .ok n b' ∧ a = f n := by
  rw [Update.bind_ok]
  refine ⟨fun h => ?_, fun h => ?_⟩
  · obtain ⟨n, b1, first, last⟩ := h
    obtain ⟨rfl, rfl⟩ := Update.pure_ok.1 last
    exact ⟨n, first, rfl⟩
  · obtain ⟨n, first, rfl⟩ := h
    exact ⟨n, b', first, rfl⟩

/-- An answer is refused if its node is, and for the same reason. -/
lemma answer_error {x : Update Body α} {f : α → Answer} :
    (do return f (← x) : Update Body Answer) b = .error e b' ↔ x b = .error e b' := by
  rw [Update.bind_error]
  refine ⟨fun h => ?_, .inl⟩
  obtain h | ⟨n, b1, -, h⟩ := h
  · exact h
  · cases h

section Annotations

-- annotated sources and annotated sinks differ in the edge only, which never fails to be usable
variable {name : String} {source target : Node → Node}

/-- An annotated variable can be used, so the edge for it is added. -/
lemma annotate_ok {n}
    (usable : ∀ {r m}, Registry.check r m = .ok () →
      r.check (source m) = .ok () ∧ r.check (target m) = .ok ()) :
    (do
      let n ← Body.var name
      let _ ← Body.addData (source n) (target n)
      Body.markKnown
      return n : Update Body Node) b = .ok n b' ↔
      ∃ r, Registry.var name b.registry = .ok n r ∧ b' = { b with
        registry := r
        graph := b.graph.insert ⟨source n, target n, .data⟩
        declared := some (b.declared.getD []) } := by
  rw [Update.bind_ok]
  refine ⟨fun h => ?_, fun h => ?_⟩
  · obtain ⟨m, b1, first, h⟩ := h
    obtain ⟨r, hr, rfl⟩ := Body.onRegistry_ok.1 first
    obtain ⟨isNew, b2, second, h⟩ := Update.bind_ok.1 h
    obtain ⟨-, -, -, rfl⟩ := Body.connect_ok.1 second
    obtain ⟨⟨⟩, b3, third, last⟩ := Update.bind_ok.1 h
    cases third
    obtain ⟨rfl, rfl⟩ := Update.pure_ok.1 last
    exact ⟨r, hr, rfl⟩
  · obtain ⟨r, hr, rfl⟩ := h
    obtain ⟨hs, ht⟩ := usable (Registry.var_check hr)
    refine ⟨n, { b with registry := r }, Body.onRegistry_ok.2 ⟨r, hr, rfl⟩, ?_⟩
    exact Update.bind_ok.2 ⟨_, _, Body.connect_ok.2 ⟨hs, ht, rfl, rfl⟩,
      Update.bind_ok.2 ⟨⟨⟩, _, rfl, rfl⟩⟩

/-- An annotation is refused only if the variable is. -/
lemma annotate_error
    (usable : ∀ {r m}, Registry.check r m = .ok () →
      r.check (source m) = .ok () ∧ r.check (target m) = .ok ()) :
    (do
      let n ← Body.var name
      let _ ← Body.addData (source n) (target n)
      Body.markKnown
      return n : Update Body Node) b = .error e b' ↔ Body.var name b = .error e b' := by
  rw [Update.bind_error]
  refine ⟨fun h => ?_, .inl⟩
  obtain first | ⟨n, b1, first, h⟩ := h
  · exact first
  · obtain ⟨r, hr, rfl⟩ := Body.onRegistry_ok.1 first
    obtain second | ⟨isNew, b2, -, h⟩ := Update.bind_error.1 h
    · exact absurd (usable (Registry.var_check hr)) (Body.connect_error second).2
    · cases h

end Annotations

/-- The edge that marks a source joins nodes that can be used. -/
lemma markSource_usable {r : Registry} {n} (h : r.check n = .ok ()) :
    r.check (.boundary .source) = .ok () ∧ r.check n = .ok () :=
  ⟨rfl, h⟩

/-- The edge that marks a sink joins nodes that can be used. -/
lemma markSink_usable {r : Registry} {n} (h : r.check n = .ok ()) :
    r.check n = .ok () ∧ r.check (.boundary .sink) = .ok () :=
  ⟨h, rfl⟩

/-- An operation that is not refused has its effect. -/
lemma perform_ok {op : Operation} : op.perform b = .ok a b' ↔ Effect b op a b' := by
  cases op with
  | var name =>
    unfold perform Body.var
    simp only [answer_ok, Body.onRegistry_ok]
    refine ⟨fun h => ?_, fun h => ?_⟩
    · obtain ⟨n, ⟨r, hr, rfl⟩, rfl⟩ := h
      exact .var hr
    · cases h with
      | var hr => exact ⟨_, ⟨_, hr, rfl⟩, rfl⟩
  | param index =>
    unfold perform Body.param
    simp only [answer_ok, Body.onRegistry_ok]
    refine ⟨fun h => ?_, fun h => ?_⟩
    · obtain ⟨n, ⟨r, hr, rfl⟩, rfl⟩ := h
      exact .param hr
    · cases h with
      | param hr => exact ⟨_, ⟨_, hr, rfl⟩, rfl⟩
  | control parent branch =>
    unfold perform Body.control
    simp only [answer_ok, Body.onRegistry_ok]
    refine ⟨fun h => ?_, fun h => ?_⟩
    · obtain ⟨id, ⟨r, hr, rfl⟩, rfl⟩ := h
      exact .control hr
    · cases h with
      | control hr => exact ⟨_, ⟨_, hr, rfl⟩, rfl⟩
  | dataEdge source target =>
    unfold perform Body.addData
    simp only [answer_ok, Body.connect_ok]
    refine ⟨fun h => ?_, fun h => ?_⟩
    · obtain ⟨isNew, ⟨hs, ht, rfl, rfl⟩, rfl⟩ := h
      exact .dataEdge hs ht
    · cases h with
      | dataEdge hs ht => exact ⟨_, ⟨hs, ht, rfl, rfl⟩, rfl⟩
  | controlEdge guard target =>
    unfold perform Body.addControl
    simp only [answer_ok, Body.connect_ok]
    refine ⟨fun h => ?_, fun h => ?_⟩
    · obtain ⟨isNew, ⟨hs, ht, rfl, rfl⟩, rfl⟩ := h
      exact .controlEdge hs ht
    · cases h with
      | controlEdge hs ht => exact ⟨_, ⟨hs, ht, rfl, rfl⟩, rfl⟩
  | markSource name =>
    unfold perform Body.markSource
    simp only [answer_ok, annotate_ok markSource_usable]
    refine ⟨fun h => ?_, fun h => ?_⟩
    · obtain ⟨n, ⟨r, hr, rfl⟩, rfl⟩ := h
      exact .markSource hr
    · cases h with
      | markSource hr => exact ⟨_, ⟨_, hr, rfl⟩, rfl⟩
  | markSink name =>
    unfold perform Body.markSink
    simp only [answer_ok, annotate_ok markSink_usable]
    refine ⟨fun h => ?_, fun h => ?_⟩
    · obtain ⟨n, ⟨r, hr, rfl⟩, rfl⟩ := h
      exact .markSink hr
    · cases h with
      | markSink hr => exact ⟨_, ⟨_, hr, rfl⟩, rfl⟩
  | markSensitive n =>
    unfold perform
    rw [Update.bind_ok]
    unfold Body.markSensitive
    cases hn : b.registry.check n with
    | error e =>
      refine ⟨fun h => ?_, fun h => ?_⟩
      · obtain ⟨_, _, first, -⟩ := h
        cases first
      · cases h with
        | markSensitive hn' =>
          rw [hn] at hn'
          cases hn'
    | ok =>
      refine ⟨fun h => ?_, fun h => ?_⟩
      · obtain ⟨_, _, first, last⟩ := h
        cases first
        cases last
        exact .markSensitive hn
      · cases h with
        | markSensitive => exact ⟨⟨⟩, _, rfl, rfl⟩
  | markKnown =>
    refine ⟨fun h => ?_, fun h => ?_⟩
    · cases h
      exact .markKnown
    · cases h
      rfl

/-- When an operation is refused, and why. -/
inductive Refused (b : Body) : Operation → Refusal → Prop where
  | var {name} :
    name ∉ b.registry.vars →
    Registry.slotLimit ≤ b.registry.vars.length →
    Refused b (.var name) (.registryFull .var)
  | param {index} :
    index.toInt < 0 →
    Refused b (.param index) (.negativeParamIndex index)
  | parent {parent branch e} :
    b.registry.checkParent parent = .error e →
    Refused b (.control parent branch) e
  | control {parent branch} :
    b.registry.checkParent parent = .ok () →
    Registry.slotLimit ≤ b.registry.controls.length →
    Refused b (.control parent branch) (.registryFull .control)
  | dataSource {source target e} :
    b.registry.check source = .error e →
    Refused b (.dataEdge source target) e
  | dataTarget {source target e} :
    b.registry.check source = .ok () →
    b.registry.check target = .error e →
    Refused b (.dataEdge source target) e
  | guard {guard target e} :
    b.registry.check (.control guard) = .error e →
    Refused b (.controlEdge guard target) e
  | guarded {guard target e} :
    b.registry.check (.control guard) = .ok () →
    b.registry.check target = .error e →
    Refused b (.controlEdge guard target) e
  | markSource {name e} :
    Refused b (.var name) e →
    Refused b (.markSource name) e
  | markSink {name e} :
    Refused b (.var name) e →
    Refused b (.markSink name) e
  | markSensitive {n e} :
    b.registry.check n = .error e →
    Refused b (.markSensitive n) e

/-- A body refuses a variable if its registry does. -/
lemma var_refused {name} :
    Body.var name b = .error e b' ↔ Refused b (.var name) e ∧ b' = b := by
  unfold Body.var
  simp only [Body.onRegistry_error, Registry.var_refused]
  refine ⟨fun h => ?_, fun h => ?_⟩
  · obtain ⟨r, ⟨fresh, full, rfl, rfl⟩, rfl⟩ := h
    exact ⟨.var fresh full, rfl⟩
  · obtain ⟨refused, rfl⟩ := h
    cases refused with
    | var fresh full => exact ⟨_, ⟨fresh, full, rfl, rfl⟩, rfl⟩

/-- An edge is refused if one of its ends cannot be used, and its source is looked at first. -/
lemma connect_refused {edge : Edge} :
    Body.onGraph (fun r => Graph.connect r edge) b = .error e b' ↔
      (b.registry.check edge.source = .error e ∨ b.registry.check edge.source = .ok () ∧
        b.registry.check edge.target = .error e) ∧ b' = b := by
  unfold Body.onGraph Graph.connect
  cases hs : b.registry.check edge.source with
  | error err =>
    simp only [hs]
    refine ⟨fun h => ?_, fun h => ?_⟩
    · cases h
      exact ⟨.inl rfl, rfl⟩
    · obtain ⟨same | ⟨same, -⟩, rfl⟩ := h
      · cases same
        rfl
      · cases same
  | ok =>
    cases ht : b.registry.check edge.target with
    | error err =>
      simp only [hs, ht]
      refine ⟨fun h => ?_, fun h => ?_⟩
      · cases h
        exact ⟨.inr ⟨trivial, rfl⟩, rfl⟩
      · obtain ⟨same | ⟨-, same⟩, rfl⟩ := h
        · cases same
        · cases same
          rfl
    | ok =>
      simp only [hs, ht]
      refine ⟨nofun, fun h => ?_⟩
      obtain ⟨same | ⟨-, same⟩, -⟩ := h
      · cases same
      · cases same

/-- An operation is refused just when there is a reason to, and then it does nothing. -/
lemma perform_error {op : Operation} : op.perform b = .error e b' ↔ Refused b op e ∧ b' = b := by
  cases op with
  | var name =>
    unfold perform
    rw [answer_error, var_refused]
  | param index =>
    unfold perform Body.param
    simp only [answer_error, Body.onRegistry_error, Registry.param_refused]
    refine ⟨fun h => ?_, fun h => ?_⟩
    · obtain ⟨r, ⟨negative, rfl, rfl⟩, rfl⟩ := h
      exact ⟨.param negative, rfl⟩
    · obtain ⟨refused, rfl⟩ := h
      cases refused with
      | param negative => exact ⟨_, ⟨negative, rfl, rfl⟩, rfl⟩
  | control parent branch =>
    unfold perform Body.control
    simp only [answer_error, Body.onRegistry_error, Registry.control_refused]
    refine ⟨fun h => ?_, fun h => ?_⟩
    · obtain ⟨r, ⟨dangling | ⟨usable, full, rfl⟩, rfl⟩, rfl⟩ := h
      · exact ⟨.parent dangling, rfl⟩
      · exact ⟨.control usable full, rfl⟩
    · obtain ⟨refused, rfl⟩ := h
      cases refused with
      | parent dangling => exact ⟨_, ⟨.inl dangling, rfl⟩, rfl⟩
      | control usable full => exact ⟨_, ⟨.inr ⟨usable, full, rfl⟩, rfl⟩, rfl⟩
  | dataEdge source target =>
    unfold perform Body.addData
    rw [answer_error, connect_refused]
    refine and_congr_left fun _ => ⟨fun h => ?_, fun h => ?_⟩
    · obtain hs | ⟨hs, ht⟩ := h
      · exact .dataSource hs
      · exact .dataTarget hs ht
    · cases h with
      | dataSource hs => exact .inl hs
      | dataTarget hs ht => exact .inr ⟨hs, ht⟩
  | controlEdge guard target =>
    unfold perform Body.addControl
    rw [answer_error, connect_refused]
    refine and_congr_left fun _ => ⟨fun h => ?_, fun h => ?_⟩
    · obtain hs | ⟨hs, ht⟩ := h
      · exact .guard hs
      · exact .guarded hs ht
    · cases h with
      | guard hs => exact .inl hs
      | guarded hs ht => exact .inr ⟨hs, ht⟩
  | markSource name =>
    unfold perform Body.markSource
    rw [answer_error, annotate_error markSource_usable, var_refused]
    refine and_congr_left fun _ => ⟨.markSource, fun h => ?_⟩
    cases h with
    | markSource refused => exact refused
  | markSink name =>
    unfold perform Body.markSink
    rw [answer_error, annotate_error markSink_usable, var_refused]
    refine and_congr_left fun _ => ⟨.markSink, fun h => ?_⟩
    cases h with
    | markSink refused => exact refused
  | markSensitive n =>
    unfold perform
    rw [Update.bind_error]
    unfold Body.markSensitive
    cases hn : b.registry.check n with
    | error err =>
      refine ⟨fun h => ?_, fun h => ?_⟩
      · obtain first | ⟨_, _, first, -⟩ := h
        · cases first
          exact ⟨.markSensitive hn, rfl⟩
        · cases first
      · obtain ⟨refused, rfl⟩ := h
        cases refused with
        | markSensitive hn' =>
          rw [hn] at hn'
          cases hn'
          exact .inl rfl
    | ok =>
      refine ⟨fun h => ?_, fun h => ?_⟩
      · obtain first | ⟨_, _, -, last⟩ := h
        · cases first
        · cases last
      · cases h.1 with
        | markSensitive hn' =>
          rw [hn] at hn'
          cases hn'
  | markKnown =>
    refine ⟨nofun, fun h => ?_⟩
    cases h.1

/-- How an operation is carried out: it has its effect, or nothing happens. -/
lemma run_cases (op : Operation) (b : Body) :
    (∃ a b', op.run b = (.ok a, b') ∧ Effect b op a b') ∨ ∃ e, op.run b = (.error e, b) := by
  unfold run
  cases h : op.perform b with
  | ok a b' => exact .inl ⟨a, b', rfl, perform_ok.1 h⟩
  | error e b' =>
    obtain ⟨-, rfl⟩ := perform_error.1 h
    exact .inr ⟨e, rfl⟩

/-- An operation is answered if and only if it has an effect, and that is how it leaves the body. -/
lemma run_ok {op : Operation} : op.run b = (.ok a, b') ↔ Effect b op a b' := by
  rw [← perform_ok]
  unfold run
  cases op.perform b with
  | ok a' b1 => simp
  | error e b1 => simp

/-- An operation is refused for one of the reasons for it, and then it leaves the body as it was. -/
lemma run_error {op : Operation} : op.run b = (.error e, b') ↔ Refused b op e ∧ b' = b := by
  rw [← perform_error]
  unfold run
  cases op.perform b with
  | ok a b1 => simp
  | error e' b1 => simp

end Operation

end InfoFlow
