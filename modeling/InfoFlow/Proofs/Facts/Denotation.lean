import InfoFlow.Facts.Body
import InfoFlow.Proofs.Update

/-!
# What references denote

A reference string is read as a `Reference`, and a reference denotes a node of the body.
`Facts.Denotes` is this relation: it depends on the registry, where variables and parameters are
looked up, and on the control nodes that were issued. It maps each reference to at most one node
and, as long as no control node was issued twice, each node to at most one reference. It only grows
with the registry.

`Facts.resolve_ok` says what resolving a reference string does: the reference is registered
(`Registry.note`), and the answer is the node that it denotes from then on.
-/

namespace InfoFlow

/-- Different numbers are different positions. -/
lemma ParamIndex.ofInt64_inj {i j : Int64} {p} (hi : ofInt64 i = .ok p) (hj : ofInt64 j = .ok p) :
    i = j := by
  unfold ofInt64 at hi hj
  split at hi
  case isFalse => cases hi
  case isTrue le =>
    split at hj
    case isFalse => cases hj
    case isTrue le' =>
      cases hi
      have e := congrArg ParamIndex.val (Except.ok.inj hj)
      simp only at e
      exact Int64.toInt_inj.1 (by omega)

/-- A number is a position unless it is negative. -/
lemma ParamIndex.ofInt64_isOk {i : Int64} : (∃ p, ofInt64 i = .ok p) ↔ 0 ≤ i.toInt := by
  unfold ofInt64
  constructor
  · rintro ⟨p, h⟩
    split at h
    case isTrue le => exact le
    case isFalse => cases h
  · intro le
    rw [if_pos le]
    exact ⟨_, rfl⟩

namespace Registry

/-- A variable has the name that stands in its slot. -/
lemma var?_slot {r : Registry} {name id} (h : r.var? name = some id) :
    id.unit = r.unit ∧ r.vars[id.slot]? = some name :=
  (r.inverse name id).1 h

/-- A node in a slot is the one that its name is answered with. -/
lemma var?_of_slot {r : Registry} {name id} (own : id.unit = r.unit)
    (slot : r.vars[id.slot]? = some name) : r.var? name = some id :=
  (r.inverse name id).2 ⟨own, slot⟩

/-- The names in the slots are those that are answered. -/
lemma var?_isSome {r : Registry} {name} : (∃ id, r.var? name = some id) ↔ name ∈ r.vars := by
  refine ⟨fun ⟨id, found⟩ => List.mem_of_getElem? (var?_slot found).2, fun mem => ?_⟩
  obtain ⟨slot, hslot⟩ := List.mem_iff_getElem?.1 mem
  exact ⟨⟨r.unit, slot⟩, var?_of_slot rfl hslot⟩

/-- A name is new if it stands in no slot. -/
lemma var?_eq_none {r : Registry} {name} : r.var? name = none ↔ name ∉ r.vars := by
  rw [← var?_isSome, Option.eq_none_iff_forall_ne_some, not_exists]

/-- No name stands in two slots. -/
lemma nodup_vars (r : Registry) : r.vars.Nodup := by
  rw [List.nodup_iff_getElem?_ne_getElem?]
  intro i j lt len same
  -- the table by names has one answer for a name, so two slots with it are the same
  have slot : r.vars[i]? = some r.vars[i] := List.getElem?_eq_getElem (Nat.lt_trans lt len)
  have first : r.var? r.vars[i] = some ⟨r.unit, i⟩ := var?_of_slot rfl slot
  have second : r.var? r.vars[i] = some ⟨r.unit, j⟩ := var?_of_slot rfl (same ▸ slot)
  rw [first] at second
  cases second
  exact Nat.lt_irrefl _ lt

/-- A variable that was issued can be used. -/
lemma var?_check {r : Registry} {name id} (h : r.var? name = some id) :
    r.check (.var id) = .ok () := by
  obtain ⟨hunit, hslot⟩ := var?_slot h
  obtain ⟨lt, -⟩ := List.getElem?_eq_some_iff.1 hslot
  unfold check
  refine if_pos ?_
  unfold knowsVar
  simp [hunit, lt]

/-- `r'` has all nodes of `r`, in the same slots, and no other control nodes. -/
structure Grows (r r' : Registry) : Prop where
  unit : r'.unit = r.unit
  vars : r.vars <+: r'.vars
  params : r.params ⊆ r'.params
  controls : r'.controls = r.controls

/-- A registry grows by nothing. -/
lemma Grows.refl (r : Registry) : Grows r r :=
  ⟨rfl, List.prefix_refl _, List.Subset.refl _, rfl⟩

/-- Growth upon growth is growth. -/
lemma Grows.trans {r r' r'' : Registry} (h1 : Grows r r') (h2 : Grows r' r'') : Grows r r'' where
  unit := h2.unit.trans h1.unit
  vars := h1.vars.trans h2.vars
  params := fun _ hp => h2.params (h1.params hp)
  controls := h2.controls.trans h1.controls

/-- The registry in which a reference is registered, variables and parameters at the end. -/
def note (r : Registry) : Reference → Registry
  | .var name => if fresh : r.var? name = none then r.push name fresh else r
  | .param index =>
    match ParamIndex.ofInt64 index with
    | .error _ => r
    | .ok p => if p ∈ r.params then r else { r with params := r.params ++ [p] }
  | _ => r

/-- A name that was registered is not registered again. -/
lemma note_old {r : Registry} {name} (mem : name ∈ r.vars) : r.note (.var name) = r :=
  dif_neg fun fresh => var?_eq_none.1 fresh mem

/-- A new name is registered at the end. -/
lemma note_new {r : Registry} {name} (fresh : r.var? name = none) :
    r.note (.var name) = r.push name fresh :=
  dif_pos fresh

/-- There is a slot for the reference. -/
def Room (r : Registry) (x : Reference) : Prop :=
  ∀ name, x = .var name → name ∉ r.vars → r.vars.length < slotLimit

/-- Registering a reference keeps everything that is registered. -/
lemma grows_note (r : Registry) (x : Reference) : Grows r (r.note x) := by
  cases x with
  | boundary p => exact .refl r
  | control id => exact .refl r
  | var name =>
    by_cases fresh : r.var? name = none
    · rw [note_new fresh]
      exact ⟨rfl, List.prefix_append _ _, List.Subset.refl _, rfl⟩
    · rw [note, dif_neg fresh]
      exact .refl r
  | param index =>
    unfold note
    simp only
    split
    case h_1 => exact .refl r
    case h_2 =>
      split
      case isTrue => exact .refl r
      case isFalse =>
        exact ⟨rfl, List.prefix_refl _, List.subset_append_left _ _, rfl⟩

/-- The variables are those that were there, and the one that is registered. -/
lemma vars_note {r : Registry} {name} :
    (r.note (.var name)).vars = if name ∈ r.vars then r.vars else r.vars ++ [name] := by
  by_cases mem : name ∈ r.vars
  · rw [note_old mem, if_pos mem]
  · rw [note_new (var?_eq_none.2 mem), if_neg mem]
    rfl

/-- A reference that is not a variable leaves the variables as they are. -/
lemma vars_note_param {r : Registry} {index} : (r.note (.param index)).vars = r.vars := by
  unfold note
  simp only
  split
  case h_1 => rfl
  case h_2 => split <;> rfl

/-- The variables are those that were there, and the one that is registered. -/
lemma mem_vars_note {r : Registry} {x name} :
    name ∈ (r.note x).vars ↔ name ∈ r.vars ∨ x = .var name := by
  cases x with
  | boundary p => simp [note]
  | control id => simp [note]
  | var name' =>
    rw [vars_note, Reference.var.injEq]
    split
    case isTrue mem =>
      constructor
      · exact .inl
      · rintro (h | rfl)
        · exact h
        · exact mem
    case isFalse => rw [List.mem_append, List.mem_singleton, eq_comm (a := name)]
  | param index => simp [vars_note_param]

/-- The parameters are those that were there, and the one that is registered. -/
lemma mem_params_note {r : Registry} {x p} :
    p ∈ (r.note x).params ↔
      p ∈ r.params ∨ ∃ index, x = .param index ∧ ParamIndex.ofInt64 index = .ok p := by
  cases x with
  | boundary p => simp [note]
  | control id => simp [note]
  | var name =>
    have same : (r.note (.var name)).params = r.params := by
      unfold note
      simp only
      split <;> rfl
    simp [same]
  | param index =>
    unfold note
    cases hp : ParamIndex.ofInt64 index with
    | error e => simp [hp]
    | ok q =>
      simp only [Reference.param.injEq, exists_eq_left', hp, Except.ok.injEq]
      split
      case isTrue mem =>
        constructor
        · exact .inl
        · rintro (h | rfl)
          · exact h
          · exact mem
      case isFalse => rw [List.mem_append, List.mem_singleton, eq_comm (a := p)]

/-- No parameter is registered twice, and the variables fit into their slots. -/
structure Tidy (r : Registry) : Prop where
  params : r.params.Nodup
  fits : r.vars.length ≤ slotLimit

/-- Registering a reference for which there is a slot keeps the registry tidy. -/
lemma Tidy.note {r : Registry} {x} (tidy : r.Tidy) (room : r.Room x) : (r.note x).Tidy := by
  cases x with
  | boundary p => exact tidy
  | control id => exact tidy
  | var name =>
    by_cases mem : name ∈ r.vars
    · rw [note_old mem]
      exact tidy
    · rw [note_new (var?_eq_none.2 mem)]
      refine ⟨tidy.params, ?_⟩
      show (r.vars ++ [name]).length ≤ slotLimit
      rw [List.length_append]
      exact room name rfl mem
  | param index =>
    refine ⟨?_, by rw [vars_note_param]; exact tidy.fits⟩
    unfold Registry.note
    simp only
    split
    case h_1 => exact tidy.params
    case h_2 =>
      split
      case isTrue => exact tidy.params
      case isFalse fresh => exact nodup_snoc tidy.params fresh

/-- A variable is still found in a larger registry. -/
lemma Grows.var? {r r' : Registry} (grows : Grows r r') {name id} (h : r.var? name = some id) :
    r'.var? name = some id := by
  obtain ⟨own, slot⟩ := var?_slot h
  exact var?_of_slot (own.trans grows.unit.symm) (getElem?_mono grows.vars slot)

/-- Asking for a variable registers it, if there is a slot for it. -/
lemma var_ok {r : Registry} {name n r'} :
    Registry.var name r = .ok n r' ↔
      r.Room (.var name) ∧ r' = r.note (.var name) ∧
        ∃ id, r'.var? name = some id ∧ n = .var id := by
  unfold Registry.var
  split
  case h_1 id found =>
    -- a known name keeps its slot and needs no room
    have mem := var?_isSome.1 ⟨id, found⟩
    rw [note_old mem]
    constructor
    · intro h
      cases h
      refine ⟨?_, rfl, id, found, rfl⟩
      rintro _ ⟨⟩ fresh
      exact absurd mem fresh
    · rintro ⟨-, rfl, id', found', rfl⟩
      rw [found] at found'
      cases found'
      rfl
  case h_2 fresh =>
    -- a new name gets the slot behind the last one
    have issued : (r.push name fresh).var? name = some ⟨r.unit, r.vars.length⟩ :=
      var?_of_slot rfl List.getElem?_concat_length
    rw [note_new fresh]
    split
    case isTrue lt =>
      constructor
      · intro h
        cases h
        refine ⟨?_, rfl, _, issued, rfl⟩
        rintro _ ⟨⟩ _
        exact lt
      · rintro ⟨-, rfl, id, found', rfl⟩
        rw [issued] at found'
        cases found'
        rfl
    case isFalse full =>
      constructor
      · intro h
        cases h
      · rintro ⟨room, -⟩
        exact absurd (room name rfl (var?_eq_none.1 fresh)) full

/-- Asking for a variable is refused only if there is no slot for it. -/
lemma var_error {r : Registry} {name e r'} (h : Registry.var name r = .error e r') :
    name ∉ r.vars ∧ slotLimit ≤ r.vars.length ∧ e = .registryFull .var ∧ r' = r := by
  unfold Registry.var at h
  split at h
  case h_1 => cases h
  case h_2 fresh =>
    split at h
    case isTrue => cases h
    case isFalse full =>
      cases h
      exact ⟨var?_eq_none.1 fresh, Nat.le_of_not_lt full, rfl, rfl⟩

/-- Asking for a parameter registers it, if its position is not negative. -/
lemma param_ok {r : Registry} {index n r'} :
    Registry.param index r = .ok n r' ↔
      r' = r.note (.param index) ∧
        ∃ p, ParamIndex.ofInt64 index = .ok p ∧ n = .boundary (.param p) := by
  unfold Registry.param Registry.note
  cases hp : ParamIndex.ofInt64 index with
  | error e =>
    constructor
    · intro h
      cases h
    · rintro ⟨-, p, h, -⟩
      cases h
  | ok p =>
    simp only [hp]
    split
    all_goals
      constructor
      · intro h
        cases h
        exact ⟨rfl, p, rfl, rfl⟩
      · rintro ⟨rfl, _, ⟨⟩, rfl⟩
        rfl

/-- A parameter is refused for a negative position, and nothing changes. -/
lemma param_error {r : Registry} {index e r'} (h : Registry.param index r = .error e r') :
    index.toInt < 0 ∧ e = .negativeParamIndex index ∧ r' = r := by
  unfold Registry.param ParamIndex.ofInt64 at h
  by_cases le : 0 ≤ index.toInt
  · simp only [if_pos le] at h
    split at h
    · cases h
    · cases h
  · simp only [if_neg le] at h
    cases h
    exact ⟨Int.not_le.1 le, rfl, rfl⟩

end Registry

namespace Body

/-- The body in which a reference is registered. -/
def note (b : Body) (x : Reference) : Body :=
  { b with registry := b.registry.note x }

/-- A body changes its registry as the registry would change itself. -/
lemma onRegistry_ok {α : Type} {change : Update Registry α} {b a b'} :
    onRegistry change b = .ok a b' ↔
      ∃ r, change b.registry = .ok a r ∧ b' = { b with registry := r } := by
  unfold onRegistry
  cases change b.registry with
  | ok a' r' =>
    constructor
    · intro h
      cases h
      exact ⟨r', rfl, rfl⟩
    · rintro ⟨_, ⟨⟩, rfl⟩
      rfl
  | error e r' =>
    constructor
    · intro h
      cases h
    · rintro ⟨_, h, -⟩
      cases h

/-- A body refuses what its registry refuses. -/
lemma onRegistry_error {α : Type} {change : Update Registry α} {b e b'} :
    onRegistry change b = .error e b' ↔
      ∃ r, change b.registry = .error e r ∧ b' = { b with registry := r } := by
  unfold onRegistry
  cases change b.registry with
  | ok a r =>
    refine ⟨nofun, fun h => ?_⟩
    obtain ⟨_, h, -⟩ := h
    cases h
  | error e' r =>
    refine ⟨fun h => ?_, fun h => ?_⟩
    · cases h
      exact ⟨r, rfl, rfl⟩
    · obtain ⟨_, h, rfl⟩ := h
      cases h
      rfl

/-- An edge can be added if both of its ends can be used. -/
lemma connect_ok {edge isNew b b'} :
    onGraph (fun r => Graph.connect r edge) b = .ok isNew b' ↔
      b.registry.check edge.source = .ok () ∧ b.registry.check edge.target = .ok () ∧
        isNew = !b.graph.contains edge ∧ b' = { b with graph := b.graph.insert edge } := by
  unfold onGraph Graph.connect
  cases hs : b.registry.check edge.source with
  | error err =>
    simp only [hs]
    exact ⟨nofun, nofun⟩
  | ok =>
    cases ht : b.registry.check edge.target with
    | error err =>
      simp only [hs, ht]
      exact ⟨nofun, nofun⟩
    | ok =>
      simp only [hs, ht, FlowGraph.add_isNew]
      refine ⟨fun h => ?_, fun h => ?_⟩
      · cases h
        exact ⟨trivial, trivial, rfl, rfl⟩
      · obtain ⟨-, -, rfl, rfl⟩ := h
        rfl

/-- An edge is refused if one of its ends cannot be used, and nothing changes. -/
lemma connect_error {edge b e b'}
    (h : onGraph (fun r => Graph.connect r edge) b = .error e b') :
    b' = b ∧ ¬ (b.registry.check edge.source = .ok () ∧ b.registry.check edge.target = .ok ()) := by
  unfold onGraph Graph.connect at h
  cases hs : b.registry.check edge.source with
  | error err =>
    simp only [hs] at h
    cases h
    exact ⟨rfl, nofun⟩
  | ok =>
    cases ht : b.registry.check edge.target with
    | error err =>
      simp only [hs, ht] at h
      cases h
      exact ⟨rfl, nofun⟩
    | ok =>
      simp only [hs, ht] at h
      cases h

end Body

/-- The name of a boundary node is never read as a parameter. -/
lemma Boundary.ofName?_ne_param {raw p} (h : ofName? raw = some p) (index) : p ≠ .param index := by
  rintro rfl
  unfold ofName? at h
  split at h
  · cases h
  split at h
  · cases h
  split at h
  · cases h
  split at h
  · cases h
  split at h
  · cases h
  split at h
  · cases h
  · cases h

/-- No parameter is written like a boundary node of another kind. -/
lemma Reference.parse_boundary {raw p} (h : parse raw = .ok (.boundary p)) (index) :
    p ≠ .param index := by
  unfold parse at h
  split at h
  case h_1 q hq =>
    cases h
    exact Boundary.ofName?_ne_param hq index
  case h_2 =>
    split at h
    · cases h
    · split at h
      · cases h
      · split at h
        · cases h
        · cases h

namespace Facts

/-- The node that a reference denotes. -/
inductive Denotes (r : Registry) (issued : Issued) : Reference → Node → Prop where
  | boundary {p} :
    (∀ index, p ≠ .param index) →
    Denotes r issued (.boundary p) (.boundary p)
  | param {index p} :
    ParamIndex.ofInt64 index = .ok p →
    p ∈ r.params →
    Denotes r issued (.param index) (.boundary (.param p))
  | control {id c} :
    issued.get? id = some c →
    Denotes r issued (.control id) (.control c)
  | var {name id} :
    r.var? name = some id →
    Denotes r issued (.var name) (.var id)

/-- A reference denotes at most one node. -/
lemma Denotes.unique {r issued x n m} (hn : Denotes r issued x n) (hm : Denotes r issued x m) :
    n = m := by
  cases hn with
  | boundary => cases hm; rfl
  | param hp =>
    cases hm with
    | param hq =>
      rw [hp] at hq
      cases hq
      rfl
  | control hc =>
    cases hm with
    | control hd =>
      rw [hc] at hd
      cases hd
      rfl
  | var hv =>
    cases hm with
    | var hw =>
      rw [hv] at hw
      cases hw
      rfl

/-- No control node was issued for two ids. -/
def Issued.Distinct (issued : Issued) : Prop :=
  ∀ id id' c, issued.get? id = some c → issued.get? id' = some c → id = id'

/-- A node is denoted by at most one reference. -/
lemma Denotes.injective {r issued x y n} (distinct : Issued.Distinct issued)
    (hx : Denotes r issued x n) (hy : Denotes r issued y n) : x = y := by
  cases hx with
  | boundary hp =>
    cases hy with
    | boundary => rfl
    | param => exact absurd rfl (hp _)
  | param hi =>
    cases hy with
    | boundary hp => exact absurd rfl (hp _)
    | param hj => rw [ParamIndex.ofInt64_inj hi hj]
  | control hc =>
    cases hy with
    | control hd => rw [distinct _ _ _ hc hd]
  | var hv =>
    cases hy with
    | var hw =>
      have e := (Registry.var?_slot hv).2
      rw [(Registry.var?_slot hw).2] at e
      rw [Option.some.inj e]

/-- What a reference denotes stays when the registry grows. -/
lemma Denotes.grows {r r' issued x n} (h : Denotes r issued x n) (grows : r.Grows r') :
    Denotes r' issued x n := by
  cases h with
  | boundary hp => exact .boundary hp
  | param hi mem => exact .param hi (grows.params mem)
  | control hc => exact .control hc
  | var hv => exact .var (grows.var? hv)

/-- The issued control nodes can be used in the body. -/
def Issued.Known (issued : Issued) (r : Registry) : Prop :=
  ∀ id c, issued.get? id = some c → r.knowsControl c

/-- Control nodes that can be used stay usable while the registry grows. -/
lemma Issued.Known.grows {issued r r'} (known : Issued.Known issued r)
    (grows : Registry.Grows r r') : Issued.Known issued r' := by
  intro id c hc
  have h := known id c hc
  unfold Registry.knowsControl at h ⊢
  rw [grows.unit, grows.controls]
  exact h

/-- A node that is denoted can be used in the body. -/
lemma Denotes.check {r issued x n} (h : Denotes r issued x n) (known : Issued.Known issued r) :
    r.check n = .ok () := by
  cases h with
  | @boundary p hp =>
    unfold Registry.check
    cases p with
    | param index => exact absurd rfl (hp index)
    | _ => rfl
  | param _ mem =>
    unfold Registry.check
    exact if_pos mem
  | control hc =>
    unfold Registry.check
    exact if_pos (known _ _ hc)
  | var hv => exact Registry.var?_check hv

/-- The references that denote a node once they are registered: positions are not negative, and
control nodes are declared. -/
inductive Resolvable (declared : String → Prop) : Reference → Prop where
  | boundary {p} :
    (∀ index, p ≠ .param index) →
    Resolvable declared (.boundary p)
  | param {index} :
    0 ≤ index.toInt →
    Resolvable declared (.param index)
  | control {id} :
    declared id →
    Resolvable declared (.control id)
  | var {name} :
    Resolvable declared (.var name)

/-- A reference that denotes something can be resolved. -/
lemma Denotes.resolvable {r issued x n} (h : Denotes r issued x n) :
    Resolvable (fun id => ∃ c, issued.get? id = some c) x := by
  cases h with
  | boundary hp => exact .boundary hp
  | param hi => exact .param (ParamIndex.ofInt64_isOk.1 ⟨_, hi⟩)
  | control hc => exact .control ⟨_, hc⟩
  | var => exact .var

/-- A resolvable reference denotes a node once it is registered. -/
lemma Resolvable.denotes {issued x} (r : Registry)
    (h : Resolvable (fun id => ∃ c, Issued.get? issued id = some c) x) :
    ∃ n, Denotes (r.note x) issued x n := by
  cases h with
  | boundary hp => exact ⟨_, .boundary hp⟩
  | param hi =>
    obtain ⟨p, hp⟩ := ParamIndex.ofInt64_isOk.2 hi
    exact ⟨_, .param hp (Registry.mem_params_note.2 (.inr ⟨_, rfl, hp⟩))⟩
  | control hc =>
    obtain ⟨c, hc⟩ := hc
    exact ⟨_, .control hc⟩
  | var =>
    obtain ⟨id, hid⟩ := Registry.var?_isSome.2 (Registry.mem_vars_note.2 (.inr rfl))
    exact ⟨_, .var hid⟩

/-- Asking for a variable registers it and answers with the node that it denotes. -/
lemma var_ok {issued name b n b'} :
    Body.var name b = .ok n b' ↔
      b.registry.Room (.var name) ∧ b' = b.note (.var name) ∧
        Denotes b'.registry issued (.var name) n := by
  unfold Body.var
  rw [Body.onRegistry_ok]
  simp only [Registry.var_ok]
  refine ⟨fun h => ?_, fun h => ?_⟩
  · obtain ⟨r', ⟨room, rfl, id, hid, rfl⟩, rfl⟩ := h
    exact ⟨room, rfl, .var hid⟩
  · obtain ⟨room, rfl, denotes⟩ := h
    cases denotes with
    | var hid => exact ⟨_, ⟨room, rfl, _, hid, rfl⟩, rfl⟩

/-- Asking for a parameter registers it and answers with the node that it denotes. -/
lemma param_ok {issued index b n b'} :
    Body.param index b = .ok n b' ↔
      b.registry.Room (.param index) ∧ b' = b.note (.param index) ∧
        Denotes b'.registry issued (.param index) n := by
  unfold Body.param
  rw [Body.onRegistry_ok]
  simp only [Registry.param_ok]
  refine ⟨fun h => ?_, fun h => ?_⟩
  · obtain ⟨r', ⟨rfl, p, hp, rfl⟩, rfl⟩ := h
    exact ⟨nofun, rfl, .param hp (Registry.mem_params_note.2 (.inr ⟨_, rfl, hp⟩))⟩
  · obtain ⟨-, rfl, denotes⟩ := h
    cases denotes with
    | param hp _ => exact ⟨_, ⟨rfl, _, hp, rfl⟩, rfl⟩

/-- Resolving a reference string registers what it is read as and answers with what that denotes. -/
lemma resolve_ok {issued raw b n b'} :
    resolve issued raw b = .ok n b' ↔
      ∃ x, Reference.parse raw = .ok x ∧ b.registry.Room x ∧ b' = b.note x ∧
        Denotes b'.registry issued x n := by
  unfold resolve
  cases hparse : Reference.parse raw with
  | error e =>
    constructor
    · intro h
      cases h
    · rintro ⟨x, h, -⟩
      cases h
  | ok x =>
    simp only [Except.ok.injEq, exists_eq_left']
    cases x with
    | boundary p =>
      rw [Update.pure_ok]
      constructor
      · rintro ⟨rfl, rfl⟩
        exact ⟨nofun, rfl, .boundary (Reference.parse_boundary hparse)⟩
      · rintro ⟨-, rfl, ⟨⟩⟩
        exact ⟨rfl, rfl⟩
    | control id =>
      cases hc : issued.get? id with
      | none =>
        simp only [hc]
        constructor
        · intro h
          cases h
        · rintro ⟨-, -, h⟩
          cases h with
          | control hc' =>
            rw [hc] at hc'
            cases hc'
      | some c =>
        simp only [hc]
        constructor
        · intro h
          cases h
          exact ⟨nofun, rfl, .control hc⟩
        · rintro ⟨-, rfl, h⟩
          cases h with
          | control hc' =>
            rw [hc] at hc'
            cases hc'
            rfl
    | param index => exact param_ok
    | var name => exact var_ok

end Facts

end InfoFlow
