import InfoFlow.Proofs.Registry.Stability

/-!
# Requests and the nodes they are answered with

`Registry.log` lists the requests that were not refused, with their answers. A registry `Accounts`
for a log if it answers the same requests in the same way (`Registry.Answers`) and holds what was
asked for, names once and control nodes each time; `Accounts.step` and `Accounts.run` say that this
is kept by one request and by all.

The main result is `Registry.after_identifies`: after any requests, equal names and only they have
equal nodes, every control node is new, the nodes of the log and only they can be used, and neither
that nor their texts ever change.
-/

namespace InfoFlow

/-- A request to a registry. -/
inductive Request where
  | var (name : String)
  | param (index : Int64)
  | control (parent : Option ControlId) (branch : Int64)
  deriving DecidableEq, Repr

namespace Request

/-- Carries out a request. -/
def perform : Request → Update Registry Node
  | .var name => Registry.var name
  | .param index => Registry.param index
  | .control parent branch => do return .control (← Registry.control parent branch)

/-- The answer to a request, or why it was refused, and the registry afterwards. -/
def run (q : Request) (r : Registry) : Except Refusal Node × Registry :=
  match q.perform r with
  | .ok n r => (.ok n, r)
  | .error e r => (.error e, r)

/-- The name of the variable that is asked for. -/
def name? : Request → Option String
  | .var name => some name
  | _ => none

/-- What is to be known of the control node that is asked for. -/
def info? : Request → Option ControlInfo
  | .control parent branch => some ⟨parent, branch⟩
  | _ => none

end Request

namespace Registry

/-- The registry after some requests, those that were refused included. -/
def after (r : Registry) (requests : List Request) : Registry :=
  requests.foldl (fun r q => (q.run r).2) r

/-- The requests that were not refused, with their answers. -/
def log (r : Registry) : List Request → List (Request × Node)
  | [] => []
  | q :: requests =>
    match q.run r with
    | (.ok n, r') => (q, n) :: r'.log requests
    | (.error _, r') => r'.log requests

/-- What a registry answers to a request for a node that it has: the variable of that name, the
parameter at that position, or a control node of that kind. -/
inductive Answers (r : Registry) : Request → Node → Prop where
  | var {name id} :
    r.var? name = some id →
    Answers r (.var name) (.var id)
  | param {index p} :
    ParamIndex.ofInt64 index = .ok p →
    p ∈ r.params →
    Answers r (.param index) (.boundary (.param p))
  | control {parent branch id} :
    r.entry? id = some ⟨parent, branch⟩ →
    Answers r (.control parent branch) (.control id)

variable {r r' : Registry} {q : Request} {n : Node}

/-- Answers stay right while the registry grows. -/
lemma Answers.mono (h : Answers r q n) (grows : Extends r r') : Answers r' q n := by
  cases h with
  | var found => exact .var (grows.var? found)
  | param hp mem => exact .param hp (grows.params mem)
  | control entry => exact .control (grows.entry? entry)

/-- What is answered can be used. -/
lemma Answers.check (h : Answers r q n) : r.check n = .ok () := by
  cases h with
  | var found => exact var?_check found
  | param _ mem => exact check_param.2 mem
  | control entry => exact entry?_isSome.1 ⟨_, entry⟩

end Registry

namespace Request

/-- What a request that is not refused answers and leaves. -/
inductive Effect (r : Registry) : Request → Node → Registry → Prop where
  | var {name n r'} :
    Registry.var name r = .ok n r' →
    Effect r (.var name) n r'
  | param {index n r'} :
    Registry.param index r = .ok n r' →
    Effect r (.param index) n r'
  | control {parent branch id r'} :
    Registry.control parent branch r = .ok id r' →
    Effect r (.control parent branch) (.control id) r'

variable {r r' : Registry} {q : Request} {n : Node} {e : Refusal}

/-- A request is answered if and only if it has an effect, and that is how it leaves the registry.
-/
lemma perform_ok : q.perform r = .ok n r' ↔ Effect r q n r' := by
  cases q with
  | var name => exact ⟨.var, fun h => by cases h with | var h => exact h⟩
  | param index => exact ⟨.param, fun h => by cases h with | param h => exact h⟩
  | control parent branch =>
    unfold perform
    rw [Update.bind_ok]
    refine ⟨fun h => ?_, fun h => ?_⟩
    · obtain ⟨id, r1, first, last⟩ := h
      obtain ⟨rfl, rfl⟩ := Update.pure_ok.1 last
      exact .control first
    · cases h with
      | control first => exact ⟨_, _, first, rfl⟩

/-- A request that is refused leaves the registry as it was. -/
lemma perform_error (h : q.perform r = .error e r') : r' = r := by
  cases q with
  | var name => exact (Registry.var_error h).2.2.2
  | param index => exact (Registry.param_error h).2.2
  | control parent branch =>
    obtain first | ⟨_, _, -, last⟩ := Update.bind_error.1 h
    · exact (Registry.control_refused.1 first).2
    · cases last

/-- How a request is carried out: it has its effect, or nothing happens. -/
lemma run_cases (q : Request) (r : Registry) :
    (∃ n r', q.run r = (.ok n, r') ∧ Effect r q n r') ∨ ∃ e, q.run r = (.error e, r) := by
  unfold run
  cases h : q.perform r with
  | ok n r' => exact .inl ⟨n, r', rfl, perform_ok.1 h⟩
  | error e r' =>
    cases perform_error h
    exact .inr ⟨e, rfl⟩

namespace Effect

/-- A request takes nothing away. -/
lemma toExtends (h : Effect r q n r') : r.Extends r' := by
  cases h with
  | var h => exact (Registry.var_grows h).toExtends
  | param h => exact (Registry.param_grows h).toExtends
  | control h => exact Registry.control_extends h

/-- A request is answered from now on as it was. -/
lemma answers (h : Effect r q n r') : r'.Answers q n := by
  cases h with
  | var h =>
    obtain ⟨-, -, id, found, rfl⟩ := Registry.var_ok.1 h
    exact .var found
  | param h =>
    obtain ⟨rfl, p, hp, rfl⟩ := Registry.param_ok.1 h
    exact .param hp (Registry.mem_params_note.2 (.inr ⟨_, rfl, hp⟩))
  | control h =>
    obtain ⟨-, -, rfl, rfl⟩ := Registry.control_ok.1 h
    apply Registry.Answers.control
    simp [Registry.entry?]

/-- Requests put control nodes only below others that are there. -/
lemma layered (h : Effect r q n r') (layered : r.Layered) : r'.Layered := by
  cases h with
  | var h => exact layered.of_controls (Registry.var_grows h).unit (Registry.var_grows h).controls
  | param h =>
    exact layered.of_controls (Registry.param_grows h).unit (Registry.param_grows h).controls
  | control h => exact layered.control h

/-- A name is kept once, in both tables. -/
lemma table (h : Effect r q n r') :
    r'.toVarTable = match q.name? with
      | none => r.toVarTable
      | some name => if name ∈ r.vars then r.toVarTable else r.toVarTable.push r.unit name := by
  cases h with
  | @var name _ _ h =>
    obtain ⟨-, rfl, -⟩ := Registry.var_ok.1 h
    simp only [name?]
    split
    case isTrue mem => rw [Registry.note_old mem]
    case isFalse mem => rw [Registry.note_new (Registry.var?_eq_none.2 mem), Registry.push]
  | @param index _ _ h =>
    obtain ⟨rfl, p, hp, -⟩ := Registry.param_ok.1 h
    simp only [Registry.note, name?, hp]
    split
    case isTrue => rfl
    case isFalse => rfl
  | control h =>
    obtain ⟨-, -, -, rfl⟩ := Registry.control_ok.1 h
    rfl

/-- The parameters after a request are the old ones and the one that was asked for. -/
lemma mem_params (h : Effect r q n r') {p} :
    p ∈ r'.params ↔
      p ∈ r.params ∨ ∃ index, q = .param index ∧ ParamIndex.ofInt64 index = .ok p := by
  cases h with
  | var h =>
    obtain ⟨-, rfl, -⟩ := Registry.var_ok.1 h
    simp [Registry.mem_params_note]
  | param h =>
    obtain ⟨rfl, -⟩ := Registry.param_ok.1 h
    simp [Registry.mem_params_note]
  | control h =>
    obtain ⟨-, -, -, rfl⟩ := Registry.control_ok.1 h
    simp

/-- Every request for a control node takes the next slot. -/
lemma controls (h : Effect r q n r') :
    r'.controls = r.controls ++ q.info?.toList ∧
      ∀ info, q.info? = some info → n = .control ⟨r.unit, r.controls.length⟩ := by
  cases h with
  | var h => exact ⟨by simp [(Registry.var_grows h).controls, info?], nofun⟩
  | param h => exact ⟨by simp [(Registry.param_grows h).controls, info?], nofun⟩
  | control h =>
    obtain ⟨-, -, rfl, rfl⟩ := Registry.control_ok.1 h
    exact ⟨rfl, fun _ _ => rfl⟩

/-- There are never more nodes than slots. -/
lemma fits (h : Effect r q n r') (vars : r.vars.length ≤ Registry.slotLimit)
    (controls : r.controls.length ≤ Registry.slotLimit) :
    r'.vars.length ≤ Registry.slotLimit ∧ r'.controls.length ≤ Registry.slotLimit := by
  cases h with
  | @var name _ _ h =>
    rw [(Registry.var_grows h).controls]
    obtain ⟨room, rfl, -⟩ := Registry.var_ok.1 h
    refine ⟨?_, controls⟩
    rw [Registry.vars_note]
    split
    case isTrue => exact vars
    case isFalse fresh =>
      rw [List.length_append]
      exact room name rfl fresh
  | param h =>
    rw [(Registry.param_grows h).controls, (Effect.param h).table]
    exact ⟨vars, controls⟩
  | control h =>
    obtain ⟨-, lt, -, rfl⟩ := Registry.control_ok.1 h
    refine ⟨vars, ?_⟩
    rw [List.length_append]
    exact lt

end Effect

end Request

/-- The names of the variables that were asked for, each once. -/
def namesOf (log : List (Request × Node)) : List String :=
  (log.filterMap fun entry => entry.1.name?).eraseDups

/-- A name that was not asked for before is the last one. -/
lemma namesOf_snoc {log : List (Request × Node)} {q n} :
    namesOf (log ++ [(q, n)]) = match q.name? with
      | none => namesOf log
      | some name => if name ∈ namesOf log then namesOf log else namesOf log ++ [name] := by
  rw [namesOf, namesOf, filterMap_snoc]
  cases q.name? with
  | none => simp
  | some name => simp only [Option.toList_some, eraseDups_snoc, List.mem_eraseDups]

/-- The control nodes that were asked for. -/
def controlsOf (log : List (Request × Node)) : List (ControlInfo × Node) :=
  log.filterMap fun entry => entry.1.info?.map fun info => (info, entry.2)

/-- The registry holds what was asked for and answers it as before. -/
structure Accounts (log : List (Request × Node)) (r : Registry) : Prop where
  answers : ∀ q n, (q, n) ∈ log → r.Answers q n
  fresh : log.Pairwise fun earlier later => later.1.info?.isSome = true → later.2 ≠ earlier.2
  vars : r.vars = namesOf log
  locals : r.locals = (namesOf log).mapIdx fun slot name => (name, ⟨r.unit, slot⟩)
  params : ∀ p, p ∈ r.params ↔
    ∃ index n, (.param index, n) ∈ log ∧ ParamIndex.ofInt64 index = .ok p
  controls : controlsOf log =
    r.controls.mapIdx fun slot info => (info, .control ⟨r.unit, slot⟩)
  layered : r.Layered
  vars_le : r.vars.length ≤ Registry.slotLimit
  controls_le : r.controls.length ≤ Registry.slotLimit

namespace Accounts

variable {log : List (Request × Node)} {r r' : Registry}

/-- An empty registry accounts for the empty log. -/
lemma empty (unit : Nat) : Accounts [] (.empty unit) where
  answers := nofun
  fresh := .nil
  vars := rfl
  locals := rfl
  params := by simp [Registry.empty]
  controls := rfl
  layered := .empty unit
  vars_le := Nat.zero_le _
  controls_le := Nat.zero_le _

/-- One more request. -/
lemma step (h : Accounts log r) {q n} (effect : Request.Effect r q n r') :
    Accounts (log ++ [(q, n)]) r' where
  answers := by
    intro q' n' mem
    rcases List.mem_append.1 mem with old | new
    · exact (h.answers q' n' old).mono effect.toExtends
    · cases List.mem_singleton.1 new
      exact effect.answers
  fresh := by
    rw [List.pairwise_append]
    refine ⟨h.fresh, List.pairwise_singleton .., ?_⟩
    rintro ⟨q', n'⟩ old entry new asks
    cases List.mem_singleton.1 new
    obtain ⟨info, hinfo⟩ := Option.isSome_iff_exists.1 asks
    -- the next slot is not in use
    rintro rfl
    have known := (h.answers q' n old).check
    rw [effect.controls.2 info hinfo, Registry.check_control] at known
    exact absurd known.2 (Nat.lt_irrefl _)
  vars := by
    rw [effect.table, namesOf_snoc]
    cases q.name? with
    | none => exact h.vars
    | some name =>
      simp only [← h.vars]
      split
      case isTrue => rfl
      case isFalse => rfl
  locals := by
    rw [effect.table, namesOf_snoc, effect.toExtends.unit]
    cases q.name? with
    | none => exact h.locals
    | some name =>
      simp only [← h.vars]
      split
      case isTrue => rw [h.locals, h.vars]
      case isFalse =>
        -- the slot of the new name is the number of the old ones
        rw [List.mapIdx_concat, VarTable.push, h.locals, h.vars]
  params := by
    intro p
    rw [effect.mem_params, h.params]
    refine ⟨fun mem => ?_, fun mem => ?_⟩
    · rcases mem with ⟨index, n', old, hp⟩ | ⟨index, rfl, hp⟩
      · exact ⟨index, n', List.mem_append_left _ old, hp⟩
      · exact ⟨index, n, by simp, hp⟩
    · obtain ⟨index, n', mem, hp⟩ := mem
      rcases List.mem_append.1 mem with old | new
      · exact .inl ⟨index, n', old, hp⟩
      · cases List.mem_singleton.1 new
        exact .inr ⟨index, rfl, hp⟩
  controls := by
    obtain ⟨controls, slot⟩ := effect.controls
    rw [controls, controlsOf, List.filterMap_append, List.mapIdx_append, effect.toExtends.unit]
    congr 1
    · exact h.controls
    · cases hinfo : q.info? with
      | none => simp [hinfo]
      | some info => simp [hinfo, slot info hinfo]
  layered := effect.layered h.layered
  vars_le := (effect.fits h.vars_le h.controls_le).1
  controls_le := (effect.fits h.vars_le h.controls_le).2

/-- All requests. -/
lemma run (h : Accounts log r) (requests : List Request) :
    Accounts (log ++ r.log requests) (r.after requests) := by
  induction requests generalizing log r with
  | nil =>
    show Accounts (log ++ []) r
    rw [List.append_nil]
    exact h
  | cons q requests ih =>
    have after : r.after (q :: requests) = (q.run r).2.after requests := rfl
    rw [after]
    unfold Registry.log
    rcases q.run_cases r with ⟨n, r', run, effect⟩ | ⟨e, run⟩
    · rw [run]
      have rest := ih (h.step effect)
      rw [List.append_assoc] at rest
      exact rest
    · rw [run]
      exact ih h

/-- The log lists exactly what the registry answers. -/
lemma mem_iff (h : Accounts log r) {q n} : (q, n) ∈ log ↔ r.Answers q n := by
  refine ⟨h.answers q n, fun answers => ?_⟩
  cases answers with
  | @var name id found =>
    have mem := Registry.var?_isSome.1 ⟨id, found⟩
    rw [h.vars, namesOf, List.mem_eraseDups, List.mem_filterMap] at mem
    obtain ⟨⟨q, n⟩, mem, hname⟩ := mem
    cases q with
    | var name' =>
      cases hname
      cases h.answers _ _ mem with
      | var found' =>
        rw [found] at found'
        cases found'
        exact mem
    | _ => cases hname
  | @param index p hp mem =>
    obtain ⟨index', n, mem, hp'⟩ := (h.params p).1 mem
    cases ParamIndex.ofInt64_inj hp hp'
    cases h.answers _ _ mem with
    | param hp' =>
      rw [hp] at hp'
      cases hp'
      exact mem
  | @control parent branch id entry =>
    rw [Registry.entry?, Option.ite_none_right_eq_some] at entry
    obtain ⟨own, slot⟩ := entry
    have mem : (⟨parent, branch⟩, .control id) ∈ controlsOf log := by
      rw [h.controls, List.mem_mapIdx]
      obtain ⟨lt, slot⟩ := List.getElem?_eq_some_iff.1 slot
      exact ⟨id.slot, lt, by rw [slot, ← own]⟩
    obtain ⟨⟨q, n⟩, mem, hinfo⟩ := List.mem_filterMap.1 mem
    cases q with
    | control parent' branch' =>
      cases hinfo
      exact mem
    | _ => cases hinfo

/-- The nodes of the log can be used, and no others but those that are the same everywhere. -/
lemma check_iff (h : Accounts log r) {n} :
    r.check n = .ok () ↔
      n ∈ log.map Prod.snd ∨ ∃ p, n = .boundary p ∧ ∀ index, p ≠ .param index := by
  refine ⟨fun known => ?_, fun known => ?_⟩
  · have issued : (∃ q, r.Answers q n) → n ∈ log.map Prod.snd := by
      rintro ⟨q, answers⟩
      exact List.mem_map.2 ⟨(q, n), h.mem_iff.2 answers, rfl⟩
    cases n with
    | boundary p =>
      cases p with
      | param p =>
        have mem := Registry.check_param.1 known
        obtain ⟨index, -, -, hp⟩ := (h.params p).1 mem
        exact .inl (issued ⟨_, .param hp mem⟩)
      | _ => exact .inr ⟨_, rfl, nofun⟩
    | var id =>
      obtain ⟨own, lt⟩ := Registry.check_var.1 known
      have found := Registry.var?_of_slot own (List.getElem?_eq_getElem lt)
      exact .inl (issued ⟨_, .var found⟩)
    | control id =>
      obtain ⟨⟨parent, branch⟩, entry⟩ := Registry.entry?_isSome.2 known
      exact .inl (issued ⟨_, .control entry⟩)
  · rcases known with mem | ⟨p, rfl, plain⟩
    · obtain ⟨⟨q, n⟩, entry, rfl⟩ := List.mem_map.1 mem
      exact (h.answers q n entry).check
    · exact Registry.check_boundary plain

/-- There are as many variables as names that were asked for. -/
lemma length_namesOf (h : Accounts log r) : (namesOf log).length = r.vars.length := by
  rw [h.vars]

/-- There are as many control nodes as were asked for. -/
lemma length_controlsOf (h : Accounts log r) : (controlsOf log).length = r.controls.length := by
  rw [h.controls, List.length_mapIdx]

end Accounts

namespace Accounts

variable {log : List (Request × Node)} {r : Registry}

/-- A variable is refused only if it is new and all slots are taken by the log. -/
lemma var_refused (h : Accounts log r) {name e r'} :
    Registry.var name r = .error e r' ↔
      (∀ n, (.var name, n) ∉ log) ∧ (namesOf log).length = Registry.slotLimit ∧
        e = .registryFull .var ∧ r' = r := by
  have unknown : (∀ n, (.var name, n) ∉ log) ↔ name ∉ r.vars := by
    rw [← Registry.var?_isSome, not_exists]
    refine ⟨fun none id found => none _ (h.mem_iff.2 (.var found)), fun none n mem => ?_⟩
    cases h.answers _ _ mem with
    | var found => exact none _ found
  have full : Registry.slotLimit ≤ r.vars.length ↔ r.vars.length = Registry.slotLimit :=
    ⟨Nat.le_antisymm h.vars_le, fun e => Nat.le_of_eq e.symm⟩
  rw [Registry.var_refused, unknown, h.length_namesOf, full]

/-- A control node is refused if its parent cannot be used, or if all slots are taken by the log. -/
lemma control_refused (h : Accounts log r) {parent branch e r'} :
    Registry.control parent branch r = .error e r' ↔
      (r.checkParent parent = .error e ∨ r.checkParent parent = .ok () ∧
        (controlsOf log).length = Registry.slotLimit ∧ e = .registryFull .control) ∧ r' = r := by
  have full : Registry.slotLimit ≤ r.controls.length ↔ r.controls.length = Registry.slotLimit :=
    ⟨Nat.le_antisymm h.controls_le, fun e => Nat.le_of_eq e.symm⟩
  rw [Registry.control_refused, h.length_controlsOf, full]

end Accounts

end InfoFlow
