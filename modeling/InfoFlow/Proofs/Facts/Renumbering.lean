import InfoFlow.Proofs.Facts.Depiction
import InfoFlow.Proofs.Registry.Stability

/-!
# Renumbered bodies

The number of a body is in all of its variables and control nodes. If numbers are replaced
one to one, then every step that makes a body of its facts is made in the same way
(`Facts.Performs.renumber`, `Facts.issue_renumber`), so the facts make the renumbered body
(`BodyFacts.toBody_renumber`). The text of a node that can be used does not show the number
(`Registry.display_renumber`).

Only steps that succeed are carried over: a refusal may well tell the number.
-/

namespace InfoFlow

/-- A variable of the body with another number. -/
def VarId.renumber (π : Nat → Nat) (id : VarId) : VarId :=
  ⟨π id.unit, id.slot⟩

/-- A control node of the body with another number. -/
def ControlId.renumber (π : Nat → Nat) (id : ControlId) : ControlId :=
  ⟨π id.unit, id.slot⟩

/-- The node of the body that has the number `π unit` in place of `unit`. -/
def Node.renumber (π : Nat → Nat) : Node → Node
  | .boundary p => .boundary p
  | .var id => .var (id.renumber π)
  | .control id => .control (id.renumber π)

/-- An entry of the body with another number. -/
def ControlInfo.renumber (π : Nat → Nat) (info : ControlInfo) : ControlInfo :=
  ⟨info.parent.map (ControlId.renumber π), info.branch⟩

/-- A table whose variables carry another number. -/
def VarTable.renumber (π : Nat → Nat) (t : VarTable) : VarTable :=
  { t with locals := t.locals.map fun entry => (entry.1, entry.2.renumber π) }

/-- A variable is found under its new number. -/
lemma VarTable.lookup_renumber (π : Nat → Nat) (t : VarTable) (name : String) :
    (t.renumber π).locals.lookup name = (t.locals.lookup name).map (VarId.renumber π) :=
  lookup_map_snd t.locals

/-- Tables that are inverse to each other stay so. -/
lemma VarTable.Inverse.renumber {t : VarTable} {unit} (h : t.Inverse unit) (π : Nat → Nat) :
    (t.renumber π).Inverse (π unit) := by
  intro name id'
  rw [t.lookup_renumber, Option.map_eq_some_iff]
  constructor
  · rintro ⟨id, found, rfl⟩
    obtain ⟨own, slot⟩ := (h name id).1 found
    exact ⟨congrArg π own, slot⟩
  · rintro ⟨own, slot⟩
    refine ⟨⟨unit, id'.slot⟩, (h name _).2 ⟨rfl, slot⟩, ?_⟩
    rw [VarId.renumber, ← own]

/-- A registry of the body with another number. -/
def Registry.renumber (π : Nat → Nat) (r : Registry) : Registry where
  toVarTable := r.toVarTable.renumber π
  unit := π r.unit
  params := r.params
  controls := r.controls.map (ControlInfo.renumber π)
  inverse := r.inverse.renumber π

section Nodes

variable {π : Nat → Nat}

/-- Bodies with different numbers have different nodes. -/
lemma Node.renumber_injective (inj : Function.Injective π) :
    Function.Injective (Node.renumber π) := by
  intro m n e
  cases m with
  | boundary p =>
    cases n with
    | boundary q => exact e
    | _ => cases e
  | var id =>
    cases n with
    | var id' =>
      obtain ⟨unit, slot⟩ := VarId.mk.inj (Node.var.inj e)
      exact congrArg Node.var (congr (congrArg VarId.mk (inj unit)) slot)
    | _ => cases e
  | control id =>
    cases n with
    | control id' =>
      obtain ⟨unit, slot⟩ := ControlId.mk.inj (Node.control.inj e)
      exact congrArg Node.control (congr (congrArg ControlId.mk (inj unit)) slot)
    | _ => cases e

/-- Boundary nodes carry no number. -/
lemma Node.boundary?_renumber (n : Node) : (n.renumber π).boundary? = n.boundary? := by
  cases n with
  | _ => rfl

namespace Registry

variable {r : Registry}

/-- A name is answered with the renumbered variable. -/
lemma var?_renumber (name : String) :
    (r.renumber π).var? name = (r.var? name).map (VarId.renumber π) :=
  r.lookup_renumber π name

/-- A new variable is renumbered like the others. -/
lemma push_renumber {name} (fresh : r.var? name = none)
    (fresh' : (r.renumber π).var? name = none) :
    (r.push name fresh).renumber π = (r.renumber π).push name fresh' := by
  simp only [renumber, push, VarTable.renumber, VarTable.push, List.map_append]
  rfl

/-- A control node has the renumbered entry. -/
lemma entry?_renumber (inj : Function.Injective π) (id : ControlId) :
    Registry.entry? (r.renumber π) (id.renumber π) =
      (r.entry? id).map (ControlInfo.renumber π) := by
  have same : (id.renumber π).unit = (r.renumber π).unit ↔ id.unit = r.unit := inj.eq_iff
  unfold entry?
  by_cases own : id.unit = r.unit
  · rw [if_pos own, if_pos (same.2 own)]
    exact List.getElem?_map
  · rw [if_neg own, if_neg (fun own' => own (same.1 own'))]
    rfl

/-- Branches are the same in the body with another number. -/
lemma pathWithin_renumber (inj : Function.Injective π) (steps : Nat) (id : ControlId) :
    (r.renumber π).pathWithin steps (id.renumber π) = r.pathWithin steps id := by
  induction steps generalizing id with
  | zero => rfl
  | succ steps ih =>
    unfold pathWithin
    rw [entry?_renumber inj]
    cases r.entry? id with
    | none => rfl
    | some info =>
      obtain ⟨parent, branch⟩ := info
      cases parent with
      | none => rfl
      | some parent =>
        show (r.renumber π).pathWithin steps (parent.renumber π) ++ [branch] = _
        rw [ih]

/-- What can be used can be used in the body with another number. -/
lemma check_renumber {n} (known : r.check n = .ok ()) :
    (r.renumber π).check (n.renumber π) = .ok () := by
  cases n with
  | boundary p =>
    cases p with
    | param index => exact check_param.2 (check_param.1 known)
    | _ => rfl
  | var id =>
    obtain ⟨own, lt⟩ := check_var.1 known
    exact check_var.2 ⟨congrArg π own, lt⟩
  | control id =>
    obtain ⟨own, lt⟩ := check_control.1 known
    refine check_control.2 ⟨congrArg π own, ?_⟩
    show id.slot < (r.controls.map _).length
    rw [List.length_map]
    exact lt

/-- The text of a node that can be used does not show the number of its body. -/
lemma display_renumber (inj : Function.Injective π) {n} (known : r.check n = .ok ()) :
    (r.renumber π).display (n.renumber π) = r.display n := by
  cases n with
  | boundary p => rfl
  | var id =>
    obtain ⟨own, lt⟩ := check_var.1 known
    have own' : (id.renumber π).unit = (r.renumber π).unit := congrArg π own
    have slot : r.vars[id.slot]? = some r.vars[id.slot] := List.getElem?_eq_getElem lt
    have slot' : (r.renumber π).vars[(id.renumber π).slot]? = some r.vars[id.slot] := slot
    unfold Node.renumber display
    simp only [if_pos own, if_pos own', slot, slot']
  | control id =>
    obtain ⟨info, entry⟩ := entry?_isSome.2 known
    have path : (r.renumber π).branchPath (id.renumber π) = r.branchPath id := by
      unfold branchPath
      rw [pathWithin_renumber inj]
      show r.pathWithin ((r.controls.map _).length + 1) id = _
      rw [List.length_map]
    unfold Node.renumber display
    simp only [entry?_renumber inj, entry, Option.map_some, path]

/-- What a reference adds is renumbered like the rest. -/
lemma note_renumber (x : Reference) : (r.note x).renumber π = (r.renumber π).note x := by
  cases x with
  | boundary p => rfl
  | control id => rfl
  | var name =>
    by_cases mem : name ∈ r.vars
    · rw [note_old mem, note_old (show name ∈ (r.renumber π).vars from mem)]
    · have fresh : (r.renumber π).var? name = none := var?_eq_none.2 mem
      rw [note_new (var?_eq_none.2 mem), note_new fresh, push_renumber]
  | param index =>
    unfold note
    simp only
    cases ParamIndex.ofInt64 index with
    | error e => rfl
    | ok p =>
      simp only
      by_cases mem : p ∈ r.params
      · rw [if_pos mem, if_pos (show p ∈ (r.renumber π).params from mem)]
      · rw [if_neg mem, if_neg (show p ∉ (r.renumber π).params from mem)]
        rfl

/-- A control node is issued in the body with another number as well. -/
lemma control_renumber {parent branch id r'} (h : Registry.control parent branch r = .ok id r') :
    Registry.control (parent.map (ControlId.renumber π)) branch (r.renumber π) =
      .ok (id.renumber π) (r'.renumber π) := by
  obtain ⟨known, lt, rfl, rfl⟩ := control_ok.1 h
  have length : (r.renumber π).controls.length = r.controls.length := List.length_map _
  refine control_ok.2 ⟨?_, ?_, ?_, ?_⟩
  · cases parent with
    | none => rfl
    | some id => exact check_renumber (n := .control id) known
  · rw [length]
    exact lt
  · rw [length]
    rfl
  · unfold renumber
    rw [List.map_append]
    rfl

end Registry

end Nodes

/-- An edge of the body with another number. -/
def Edge.renumber (π : Nat → Nat) (e : Edge) : Edge :=
  ⟨e.source.renumber π, e.target.renumber π, e.kind⟩

/-- A graph of the body with another number. -/
def Graph.renumber (π : Nat → Nat) (g : Graph) : Graph :=
  .ofList (g.edges.map (Edge.renumber π))

/-- The body with the number `π unit` in place of `unit`. -/
def Body.renumber (π : Nat → Nat) (b : Body) : Body where
  name := b.name
  registry := b.registry.renumber π
  graph := b.graph.renumber π
  declared := b.declared.map (List.map (Node.renumber π))

/-- Issued control nodes of the body with another number. -/
def Facts.Issued.renumber (π : Nat → Nat) (issued : Facts.Issued) : Facts.Issued :=
  issued.map fun entry => (entry.1, entry.2.renumber π)

section Bodies

variable {π : Nat → Nat}

/-- Bodies with different numbers have different edges. -/
lemma Edge.renumber_injective (inj : Function.Injective π) :
    Function.Injective (Edge.renumber π) := by
  intro e e' same
  obtain ⟨source, target, kind⟩ := e
  obtain ⟨source', target', kind'⟩ := e'
  obtain ⟨hs, ht, rfl⟩ := Edge.mk.inj same
  cases Node.renumber_injective inj hs
  cases Node.renumber_injective inj ht
  rfl

/-- The edges of a renumbered graph are its renumbered edges. -/
lemma Graph.edges_renumber (inj : Function.Injective π) (g : Graph) :
    (g.renumber π).edges = g.edges.map (Edge.renumber π) :=
  edges_ofList_of_nodup (g.coherent.distinct.map (Edge.renumber_injective inj))

/-- An edge is inserted in the body with another number as well. -/
lemma Graph.insert_renumber (inj : Function.Injective π) (g : Graph) (e : Edge) :
    (g.insert e).renumber π = (g.renumber π).insert (e.renumber π) := by
  apply ext_edges
  simp only [edges_renumber inj, edges_insert,
    List.mem_map_of_injective (Edge.renumber_injective inj)]
  split
  case isTrue => rfl
  case isFalse =>
    rw [List.map_append]
    rfl

namespace Facts

/-- An id has the renumbered control node. -/
lemma Issued.get?_renumber (issued : Issued) (id : String) :
    (issued.renumber π).get? id = (issued.get? id).map (ControlId.renumber π) := by
  unfold get? renumber
  rw [List.find?_map, Option.map_map, Option.map_map]
  rfl

/-- A reference denotes the renumbered node. -/
lemma Denotes.renumber {r issued x n} (h : Denotes r issued x n) :
    Denotes (r.renumber π) (issued.renumber π) x (n.renumber π) := by
  cases h with
  | boundary hp => exact .boundary hp
  | param hi mem => exact .param hi mem
  | control hc =>
    apply Denotes.control
    rw [Issued.get?_renumber, hc]
    rfl
  | var hv =>
    apply Denotes.var
    rw [Registry.var?_renumber, hv]
    rfl

/-- What a statement declares is renumbered like the rest. -/
lemma declared_renumber (st : Statement) (nodes : Option (List Node)) :
    (st.declared nodes).map (List.map (Node.renumber π)) =
      st.declared (nodes.map (List.map (Node.renumber π))) := by
  unfold Statement.declared
  cases st.declares with
  | false => rfl
  | true =>
    cases nodes with
    | none => rfl
    | some nodes => rfl

/-- Without a declaration there is nothing to renumber. -/
lemma getD_renumber (nodes : Option (List Node)) :
    (nodes.map (List.map (Node.renumber π))).getD [] =
      (nodes.getD []).map (Node.renumber π) := by
  cases nodes with
  | none => rfl
  | some nodes => rfl

/-- A mark is added in the body with another number as well. -/
lemma mark_renumber (inj : Function.Injective π) (nodes : List Node) (n : Node) :
    (if n ∈ nodes then nodes else nodes ++ [n]).map (Node.renumber π) =
      if n.renumber π ∈ nodes.map (Node.renumber π) then nodes.map (Node.renumber π)
      else nodes.map (Node.renumber π) ++ [n.renumber π] := by
  simp only [List.mem_map_of_injective (Node.renumber_injective inj)]
  split
  case isTrue => rfl
  case isFalse => exact List.map_append

/-- A statement does the same to the body with another number. -/
lemma Performs.renumber (inj : Function.Injective π) {issued b st b'}
    (h : Performs issued b st b') :
    Performs (issued.renumber π) (b.renumber π) st (b'.renumber π) := by
  cases h with
  | @edge _ kind x y m n hedge roomx roomy hx hy =>
    have hx' := hx.renumber (π := π)
    have hy' := hy.renumber (π := π)
    have roomy' : ((b.registry.note x).renumber π).Room y := roomy
    rw [Registry.note_renumber] at hx' roomy'
    rw [Registry.note_renumber, Registry.note_renumber] at hy'
    have performs := Performs.edge (b := b.renumber π) hedge roomx roomy' hx' hy'
    unfold Body.renumber
    simp only [Registry.note_renumber, Graph.insert_renumber inj, declared_renumber]
    exact performs
  | @mark _ x n hmark room hx =>
    have hx' := hx.renumber (π := π)
    rw [Registry.note_renumber] at hx'
    have performs := Performs.mark (b := b.renumber π) hmark room hx'
    unfold Body.renumber
    simp only [Registry.note_renumber, Option.map_some, mark_renumber inj, ← getD_renumber]
    exact performs
  | known =>
    unfold Body.renumber
    simp only [Option.map_some, ← getD_renumber]
    exact Performs.known (b := b.renumber π)

/-- Statements do the same to the body with another number. -/
lemma chain_renumber (inj : Function.Injective π) {issued b sts b'}
    (h : Chain (Performs issued) b sts b') :
    Chain (Performs (issued.renumber π)) (b.renumber π) sts (b'.renumber π) := by
  induction h with
  | nil => exact .nil
  | cons first _ ih => exact .cons (first.renumber inj) ih

/-- A control node that was issued is also issued to the body with another number. -/
lemma issue_renumber {issued c b issued' b'} (h : issue issued c b = .ok issued' b') :
    issue (issued.renumber π) c (b.renumber π) = .ok (issued'.renumber π) (b'.renumber π) := by
  have parent : c.parent.bind (issued.renumber π).get? =
      (c.parent.bind issued.get?).map (ControlId.renumber π) := by
    cases c.parent with
    | none => rfl
    | some id => exact Issued.get?_renumber issued id
  unfold issue at h ⊢
  rw [Update.bind_ok] at h ⊢
  obtain ⟨id, b1, first, last⟩ := h
  obtain ⟨rfl, rfl⟩ := Update.pure_ok.1 last
  obtain ⟨r, hr, rfl⟩ := Body.onRegistry_ok.1 first
  have asked : Body.control ((c.parent.bind issued.get?).map (ControlId.renumber π)) c.branch
      (b.renumber π) = .ok (id.renumber π) (Body.renumber π { b with registry := r }) :=
    Body.onRegistry_ok.2 ⟨r.renumber π, Registry.control_renumber hr, rfl⟩
  rw [parent]
  exact ⟨id.renumber π, _, asked, Update.pure_ok.2 ⟨List.map_append, rfl⟩⟩

/-- A chain that was issued is also issued to the body with another number. -/
lemma issueChain_renumber {issued chain b issued' b'}
    (h : issueChain issued chain b = .ok issued' b') :
    issueChain (issued.renumber π) chain (b.renumber π) =
      .ok (issued'.renumber π) (b'.renumber π) := by
  have missing : (fun c : ControlDecl => ((issued.renumber π).get? c.id).isNone) =
      fun c => (issued.get? c.id).isNone := by
    funext c
    rw [Issued.get?_renumber, Option.isNone_map]
  unfold issueChain at h ⊢
  rw [missing]
  exact Update.foldlM_map (f := issue) (φ := Body.renumber π) (ψ := Issued.renumber π)
    issue_renumber h

/-- All control nodes that were issued are also issued to the body with another number. -/
lemma issueControls_renumber {controls b issued b'} (h : issueControls controls b = .ok issued b') :
    issueControls controls (b.renumber π) = .ok (issued.renumber π) (b'.renumber π) := by
  cases hchains : chains controls with
  | error e =>
    rw [issueControls_refused hchains] at h
    cases h
  | ok chains =>
    rw [issueControls_eq hchains] at h ⊢
    exact Update.foldlM_map (f := issueChain) (φ := Body.renumber π) (ψ := Issued.renumber π)
      issueChain_renumber h

end Facts

namespace BodyFacts

open Facts

variable {f : BodyFacts} {unit : Nat} {b : Body}

/-- The facts make the renumbered body of the body with the other number. -/
lemma toBody_renumber (inj : Function.Injective π) (h : f.toBody unit = .ok b) :
    f.toBody (π unit) = .ok (b.renumber π) := by
  have start : (Body.new unit f.name).renumber π = Body.new (π unit) f.name := rfl
  rw [toBody_ok] at h ⊢
  obtain ⟨issued, b1, first, chain⟩ := (replay_ok rfl).1 h
  have first' := issueControls_renumber (π := π) first
  rw [start] at first'
  exact (replay_ok rfl).2 ⟨_, _, first', chain_renumber inj chain⟩

/-- The nodes in the body of facts can be used in it. -/
lemma toBody_check (h : f.toBody unit = .ok b) :
    (∀ e ∈ b.graph.edges, b.registry.check e.source = .ok () ∧ b.registry.check e.target = .ok ()) ∧
      ∀ n ∈ b.declared.getD [], b.registry.check n = .ok () := by
  obtain ⟨issued, b1, first, chain⟩ := (replay_ok rfl).1 (toBody_ok.1 h)
  obtain ⟨-, issues, -⟩ := issueControls_ok rfl first
  have depicts : Depicts issued f.statements b := issues.same.depicts.run chain
  have known : Issued.Known issued b.registry :=
    chain.keeps (I := fun b => Issued.Known issued b.registry)
      (fun known step => known.grows step.grows) issues.issuing.known
  refine ⟨fun e mem => ?_, fun n mem => ?_⟩
  · obtain ⟨_, _, _, _, _, hm, hn⟩ := depicts.edges.1 mem
    exact ⟨hm.check known, hn.check known⟩
  · obtain ⟨_, _, _, _, hn⟩ := depicts.marks.1 mem
    exact hn.check known

end BodyFacts

end Bodies

end InfoFlow
