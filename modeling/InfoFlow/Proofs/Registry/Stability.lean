import InfoFlow.Proofs.Body.Effect

/-!
# What a registry keeps

A registry only grows: `Registry.Extends` is the order of growth. A control node is issued after the
one around it (`Registry.Layered`), so the walk from a control node outwards ends. `Registry.Walk`
is this walk, as a relation without a bound, and `Layered.walk_branchPath` says that the bounded one
goes just as far.

`Registry.Shows` is the text that a registry holds for a node of its own. Every node that can be
used has one (`Layered.shows`), it is the one that is displayed (`Shows.display`), and it stays when
the registry grows (`Shows.mono`).
-/

namespace InfoFlow.Registry

variable {r r' r'' : Registry} {n : Node}

/-- A variable can be used if it is of this body and in a slot. -/
lemma check_var {id} :
    r.check (.var id) = .ok () ↔ id.unit = r.unit ∧ id.slot < r.vars.length := by
  simp only [check, knowsVar, Bool.and_eq_true, decide_eq_true_eq]
  split <;> simp_all

/-- A control node can be used if it is of this body and in a slot. -/
lemma check_control {id} :
    r.check (.control id) = .ok () ↔ id.unit = r.unit ∧ id.slot < r.controls.length := by
  simp only [check, knowsControl, Bool.and_eq_true, decide_eq_true_eq]
  split <;> simp_all

/-- A parameter can be used if it was asked for. -/
lemma check_param {p} : r.check (.boundary (.param p)) = .ok () ↔ p ∈ r.params := by
  simp only [check]
  split <;> simp_all

/-- All other boundary nodes can be used. -/
lemma check_boundary {p : Boundary} (h : ∀ index, p ≠ .param index) :
    r.check (.boundary p) = .ok () := by
  cases p with
  | param index => exact absurd rfl (h index)
  | _ => rfl

/-- The control nodes with an entry are those that can be used. -/
lemma entry?_isSome {id} : (∃ info, r.entry? id = some info) ↔ r.check (.control id) = .ok () := by
  rw [check_control]
  unfold entry?
  split
  case isTrue own => simp [own, ← Option.isSome_iff_exists]
  case isFalse foreign => simp [foreign]

/-- `r'` has all nodes of `r`, in the same slots. -/
structure Extends (r r' : Registry) : Prop where
  unit : r'.unit = r.unit
  vars : r.vars <+: r'.vars
  params : r.params ⊆ r'.params
  controls : r.controls <+: r'.controls

lemma Extends.refl (r : Registry) : Extends r r :=
  ⟨rfl, List.prefix_refl _, List.Subset.refl _, List.prefix_refl _⟩

/-- An extension of an extension is one. -/
lemma Extends.trans (h : Extends r r') (h' : Extends r' r'') : Extends r r'' where
  unit := h'.unit.trans h.unit
  vars := h.vars.trans h'.vars
  params := List.Subset.trans h.params h'.params
  controls := h.controls.trans h'.controls

/-- Growth without new control nodes is an extension. -/
lemma Grows.toExtends (h : Grows r r') : Extends r r' :=
  ⟨h.unit, h.vars, h.params, h.controls ▸ List.prefix_refl _⟩

/-- A new control node is an extension. -/
lemma control_extends {parent branch id} (h : Registry.control parent branch r = .ok id r') :
    Extends r r' := by
  obtain ⟨-, -, -, rfl⟩ := control_ok.1 h
  exact ⟨rfl, List.prefix_refl _, List.Subset.refl _, List.prefix_append _ _⟩

/-- What can be used stays usable. -/
lemma Extends.check (h : Extends r r') (hn : r.check n = .ok ()) : r'.check n = .ok () :=
  check_mono h.unit h.vars.length_le h.params h.controls.length_le hn

/-- A name keeps its variable. -/
lemma Extends.var? (h : Extends r r') {name id} (found : r.var? name = some id) :
    r'.var? name = some id := by
  obtain ⟨own, slot⟩ := var?_slot found
  exact var?_of_slot (own.trans h.unit.symm) (getElem?_mono h.vars slot)

/-- A control node keeps its entry. -/
lemma Extends.entry? (h : Extends r r') {id info} (found : r.entry? id = some info) :
    r'.entry? id = some info := by
  unfold Registry.entry? at found ⊢
  rw [Option.ite_none_right_eq_some] at found ⊢
  rw [h.unit]
  exact ⟨found.1, getElem?_mono h.controls found.2⟩

/-- The branches on the way from the outermost control node to `id`. -/
inductive Walk (r : Registry) : ControlId → List Int64 → Prop where
  | root {id branch} :
    r.entry? id = some ⟨none, branch⟩ →
    Walk r id [branch]
  | inner {id parent branch path} :
    r.entry? id = some ⟨some parent, branch⟩ →
    Walk r parent path →
    Walk r id (path ++ [branch])

/-- A walk stays the same while the registry grows. -/
lemma Walk.mono {id path} (walk : Walk r id path) (h : Extends r r') : Walk r' id path := by
  induction walk with
  | root entry => exact .root (h.entry? entry)
  | inner entry _ ih => exact .inner (h.entry? entry) ih

/-- The bounded walk goes all the way, if as many steps are allowed as there are branches. -/
lemma Walk.pathWithin {id path} (walk : Walk r id path) {steps} (enough : path.length ≤ steps) :
    r.pathWithin steps id = path := by
  induction walk generalizing steps with
  | root entry =>
    cases steps with
    | zero => simp at enough
    | succ steps => simp only [Registry.pathWithin, entry]
  | inner entry _ ih =>
    rw [List.length_append, List.length_singleton] at enough
    cases steps with
    | zero => omega
    | succ steps =>
      simp only [Registry.pathWithin, entry]
      rw [ih (by omega)]

/-- There is only one walk from a control node. -/
lemma Walk.unique {id path path'} (walk : Walk r id path) (walk' : Walk r id path') :
    path = path' := by
  have far := walk.pathWithin (Nat.le_max_left path.length path'.length)
  have far' := walk'.pathWithin (Nat.le_max_right path.length path'.length)
  exact far.symm.trans far'

/-- The control node around another one was issued by the same registry and before it. -/
def Layered (r : Registry) : Prop :=
  ∀ (slot : Nat) parent branch, r.controls[slot]? = some ⟨some parent, branch⟩ →
    parent.unit = r.unit ∧ parent.slot < slot

lemma Layered.empty (unit : Nat) : Layered (.empty unit) :=
  nofun

/-- Whether control nodes are in layers depends on them alone. -/
lemma Layered.of_controls (h : Layered r) (unit : r'.unit = r.unit)
    (controls : r'.controls = r.controls) : Layered r' := by
  unfold Layered
  rw [unit, controls]
  exact h

/-- A new control node is in a layer of its own. -/
lemma Layered.control (h : Layered r) {parent branch id}
    (run : Registry.control parent branch r = .ok id r') : Layered r' := by
  obtain ⟨known, -, -, rfl⟩ := control_ok.1 run
  intro slot outer branch' found
  rcases Nat.lt_trichotomy slot r.controls.length with lt | rfl | gt
  · rw [List.getElem?_append_left lt] at found
    exact h slot outer branch' found
  · rw [List.getElem?_concat_length] at found
    cases found
    exact check_control.1 known
  · have beyond : (r.controls ++ [ControlInfo.mk parent branch]).length ≤ slot := by
      rw [List.length_append]
      exact gt
    rw [List.getElem?_eq_none beyond] at found
    cases found

/-- The walk from a control node outwards ends after as many steps as its slot allows. -/
lemma Layered.walk (h : Layered r) {id} (known : r.check (.control id) = .ok ()) :
    ∃ path, Walk r id path ∧ path.length ≤ id.slot + 1 := by
  obtain ⟨unit, slot⟩ := id
  induction slot using Nat.strongRecOn generalizing unit with
  | _ slot ih =>
    obtain ⟨⟨parent, branch⟩, entry⟩ := entry?_isSome.2 known
    cases parent with
    | none => exact ⟨[branch], .root entry, by simp⟩
    | some parent =>
      obtain ⟨own, lt⟩ := check_control.1 known
      have slots : r.controls[slot]? = some ⟨some parent, branch⟩ := by
        rw [Registry.entry?, if_pos own] at entry
        exact entry
      obtain ⟨unit', below⟩ := h _ _ _ slots
      have known' : r.check (.control parent) = .ok () :=
        check_control.2 ⟨unit', Nat.lt_trans below lt⟩
      obtain ⟨path, walk, le⟩ := ih parent.slot below parent.unit known'
      refine ⟨path ++ [branch], .inner entry walk, ?_⟩
      rw [List.length_append]
      exact Nat.succ_le_succ (Nat.le_trans le below)

/-- Every walk is short enough for the bound on it. -/
lemma Layered.length_le (h : Layered r) {id path} (walk : Walk r id path) :
    path.length ≤ r.controls.length := by
  have known : r.check (.control id) = .ok () := by
    cases walk with
    | root entry => exact entry?_isSome.1 ⟨_, entry⟩
    | inner entry => exact entry?_isSome.1 ⟨_, entry⟩
  obtain ⟨path', walk', le⟩ := h.walk known
  rw [walk.unique walk']
  have lt := (check_control.1 known).2
  omega

/-- The branches of a control node are those of the walk from it. -/
lemma Layered.branchPath_eq (h : Layered r) {id path} (walk : Walk r id path) :
    r.branchPath id = path :=
  walk.pathWithin (Nat.le_succ_of_le (h.length_le walk))

/-- The branches of every control node that can be used are those of a walk. -/
lemma Layered.walk_branchPath (h : Layered r) {id} (known : r.check (.control id) = .ok ()) :
    Walk r id (r.branchPath id) := by
  obtain ⟨path, walk, -⟩ := h.walk known
  rw [h.branchPath_eq walk]
  exact walk

/-- The text of a control node depends on the control nodes of the registry only. -/
lemma display_control (unit : r'.unit = r.unit) (controls : r'.controls = r.controls)
    (id : ControlId) : r'.display (.control id) = r.display (.control id) := by
  have entry : r'.entry? = r.entry? := by
    funext id
    unfold entry?
    rw [unit, controls]
  have path : ∀ steps, r'.pathWithin steps = r.pathWithin steps := by
    intro steps
    funext id
    induction steps generalizing id with
    | zero => rfl
    | succ steps ih =>
      unfold pathWithin
      simp only [entry, ih]
  unfold display branchPath
  simp only [entry, path, controls]

/-- The text that a registry holds for a node: the name of a variable that it issued, or the
branches around a control node that it issued. -/
inductive Shows (r : Registry) : Node → String → Prop where
  | boundary {p} :
    Shows r (.boundary p) p.name
  | var {id name} :
    id.unit = r.unit →
    r.vars[id.slot]? = some name →
    Shows r (.var id) name
  | control {id path} :
    Walk r id path →
    Shows r (.control id)
      ("<control " ++ ".".intercalate (path.map fun b => toString b.toInt) ++ ">")

/-- Everything that can be used has a text. -/
lemma Layered.shows (h : Layered r) (known : r.check n = .ok ()) : ∃ text, Shows r n text := by
  cases n with
  | boundary p => exact ⟨_, .boundary⟩
  | var id =>
    obtain ⟨own, lt⟩ := check_var.1 known
    exact ⟨_, .var own (List.getElem?_eq_getElem lt)⟩
  | control id => exact ⟨_, .control (h.walk_branchPath known)⟩

/-- The text that is shown is the one that a node has. -/
lemma Shows.display {text} (shows : Shows r n text) (h : Layered r) : r.display n = text := by
  cases shows with
  | boundary => rfl
  | var own slot =>
    unfold Registry.display
    simp only [if_pos own, slot]
  | @control id path walk =>
    have entry : ∃ info, r.entry? id = some info := by
      cases walk with
      | root entry => exact ⟨_, entry⟩
      | inner entry => exact ⟨_, entry⟩
    obtain ⟨info, entry⟩ := entry
    unfold Registry.display
    simp only [entry, h.branchPath_eq walk]

/-- A node keeps its text. -/
lemma Shows.mono {text} (shows : Shows r n text) (h : Extends r r') : Shows r' n text := by
  cases shows with
  | boundary => exact .boundary
  | var own slot =>
    rw [← h.unit] at own
    exact .var own (getElem?_mono h.vars slot)
  | control walk => exact .control (walk.mono h)

end InfoFlow.Registry
