import InfoFlow.Proofs.Facts.Depiction
import InfoFlow.Proofs.Facts.Items
import InfoFlow.Proofs.Facts.Nesting

/-!
# Why facts are refused

Facts are refused for what they say, and the number of the body does not matter:
`BodyFacts.refusal?` computes the refusal from the facts alone, and `BodyFacts.toBody_error` says
that making the body is refused in exactly this way. An update `Facts.Follows` items if it is
refused as the first of them is and registers their variables otherwise; `Follows.bind` puts
sequences together, and `perform_follows` and `performAll_follows` are the step and the run.

The main result is `BodyFacts.toBody_sound`: facts make a body if and only if they are well nested
and all of their items are sound, and otherwise the first item that is not sound is reported.
-/

namespace InfoFlow

open Facts

namespace Facts

/-- The items of a statement, in the order in which they are resolved. -/
def Statement.items : Statement → List Item
  | .data edge => [.place edge.1, .place edge.2]
  | .control edge => [.guard edge.1, .place edge.2]
  | .source name => [.var name]
  | .sink name => [.var name]
  | .param index => [.param index]
  | .place raw => [.place raw]
  | .known => []

variable {α β : Type} {ids : List String} {items items' : List Item} {b : Body}

/-- The update is refused as the first refused item is, and registers the variables of the items if
none is. -/
structure Follows (ids : List String) (items : List Item) (x : Update Body α) (b : Body) :
    Prop where
  ok : ∀ {a b'}, x b = .ok a b' → refusal? ids b.registry.vars items = none ∧
    b'.registry.vars = items.foldl Item.note b.registry.vars
  error : ∀ {e b'}, x b = .error e b' → refusal? ids b.registry.vars items = some e

/-- Updates that follow items can be put one after the other, and so can the items. -/
lemma Follows.bind {x : Update Body α} {f : α → Update Body β} (hx : Follows ids items x b)
    (hf : ∀ a b', x b = .ok a b' → Follows ids items' (f a) b') :
    Follows ids (items ++ items') (x >>= f) b where
  ok := by
    intro a b' h
    obtain ⟨a1, b1, first, second⟩ := Update.bind_ok.1 h
    obtain ⟨passed, vars⟩ := hx.ok first
    obtain ⟨passed', vars'⟩ := (hf a1 b1 first).ok second
    rw [vars] at passed' vars'
    rw [refusal?_append, passed, Option.none_or, List.foldl_append]
    exact ⟨passed', vars'⟩
  error := by
    intro e b' h
    rw [refusal?_append]
    obtain first | ⟨a1, b1, first, second⟩ := Update.bind_error.1 h
    · rw [hx.error first]
      rfl
    · obtain ⟨passed, vars⟩ := hx.ok first
      rw [passed, Option.none_or, ← vars]
      exact (hf a1 b1 first).error second

/-- An update that succeeds and leaves the variables alone follows no items. -/
lemma Follows.nil {x : Update Body α} {a b'} (h : x b = .ok a b')
    (same : b'.registry.vars = b.registry.vars) : Follows ids [] x b where
  ok := by
    intro a1 b1 h'
    rw [h] at h'
    cases h'
    exact ⟨rfl, same⟩
  error := by
    intro e b1 h'
    rw [h] at h'
    cases h'

section Item

variable {item : Item}

/-- A refusal follows an item with that offence. -/
lemma Follows.refused {e} (h : item.offence? ids b.registry.vars = some e) :
    Follows ids [item] (throw e : Update Body α) b where
  ok := nofun
  error := by
    rintro _ _ ⟨⟩
    rw [refusal?, Item.refusal?, h]
    rfl

/-- A sound item that names no variable is passed over. -/
lemma Follows.passed {x : Update Body α} {a b'} (h : x b = .ok a b')
    (same : b'.registry.vars = b.registry.vars)
    (sound : item.offence? ids b.registry.vars = none) (nameless : item.name? = none) :
    Follows ids [item] x b where
  ok := by
    intro a1 b1 h'
    rw [h] at h'
    cases h'
    refine ⟨?_, ?_⟩
    · rw [refusal?, Item.refusal?, sound, nameless]
      rfl
    · rw [List.foldl_cons, Item.note, nameless]
      exact same
  error := by
    intro e b1 h'
    rw [h] at h'
    cases h'

/-- Asking for a variable follows an item that is sound and has its name. -/
lemma var_follows {name} (sound : item.offence? ids b.registry.vars = none)
    (hname : item.name? = some name) : Follows ids [item] (Body.var name) b where
  ok := by
    intro n b' h
    obtain ⟨room, rfl, -⟩ := (@var_ok [] name b n b').1 h
    have fits : name ∈ b.registry.vars ∨ b.registry.vars.length < Registry.slotLimit :=
      Classical.or_iff_not_imp_left.2 fun fresh => room name rfl fresh
    refine ⟨?_, ?_⟩
    · rw [refusal?, Item.refusal?, sound, hname]
      simp only [if_pos fits]
      rfl
    · rw [List.foldl_cons, List.foldl_nil, Item.note, hname]
      exact Registry.vars_note
  error := by
    intro e b' h
    obtain ⟨r, hr, rfl⟩ := Body.onRegistry_error.1 h
    obtain ⟨fresh, full, rfl, rfl⟩ := Registry.var_error hr
    have none : ¬ (name ∈ b.registry.vars ∨ b.registry.vars.length < Registry.slotLimit) := by
      rintro (mem | lt)
      · exact fresh mem
      · exact Nat.not_lt_of_le full lt
    rw [refusal?, Item.refusal?, sound, hname]
    simp only [if_neg none]
    rfl

/-- Asking for a parameter follows an item that is sound unless the position is negative. -/
lemma param_follows {index} (nameless : item.name? = none)
    (negative : item.offence? ids b.registry.vars =
      if index.toInt < 0 then some (.negativeParamIndex index) else none) :
    Follows ids [item] (Body.param index) b where
  ok := by
    intro n b' h
    obtain ⟨-, rfl, denotes⟩ := (@param_ok [] index b n b').1 h
    have vars : (b.note (.param index)).registry.vars = b.registry.vars :=
      Registry.vars_note_param
    cases denotes with
    | param hp _ =>
      have le := ParamIndex.ofInt64_isOk.1 ⟨_, hp⟩
      rw [if_neg (Int.not_lt.2 le)] at negative
      refine (Follows.passed h vars negative nameless).ok h
  error := by
    intro e b' h
    obtain ⟨r, hr, rfl⟩ := Body.onRegistry_error.1 h
    obtain ⟨lt, rfl, rfl⟩ := Registry.param_error hr
    rw [if_pos lt] at negative
    rw [refusal?, Item.refusal?, negative]
    rfl

end Item

section Issued

variable {issued : Issued}

/-- The control nodes that can be looked up are those with the given ids. -/
def Issued.Serves (issued : Issued) (ids : List String) : Prop :=
  ∀ id, (∃ c, issued.get? id = some c) ↔ id ∈ ids

/-- The ids that are not served have no control node. -/
lemma Issued.Serves.none {id} (serves : Issued.Serves issued ids) :
    issued.get? id = none ↔ id ∉ ids := by
  rw [← serves, ← Option.isSome_iff_exists, Option.not_isSome_iff_eq_none]

/-- Resolving a reference follows its place. -/
lemma resolve_follows (serves : Issued.Serves issued ids) (raw : String) (b : Body) :
    Follows ids [.place raw] (resolve issued raw) b := by
  unfold resolve
  cases hparse : Reference.parse raw with
  | error e =>
    cases Reference.parse_iff.1 hparse with
    | overflow =>
      apply Follows.refused
      simp only [Item.offence?, hparse]
  | ok x =>
    cases x with
    | boundary p =>
      apply Follows.passed rfl rfl
      · simp only [Item.offence?, hparse]
      · simp only [Item.name?, hparse]
    | param index =>
      apply param_follows
      · simp only [Item.name?, hparse]
      · simp only [Item.offence?, hparse]
    | control id =>
      cases found : issued.get? id with
      | some c =>
        have mem := (serves id).1 ⟨c, found⟩
        simp only [found]
        apply Follows.passed rfl rfl
        · simp only [Item.offence?, hparse, if_pos mem]
        · simp only [Item.name?, hparse]
      | none =>
        have fresh := serves.none.1 found
        simp only [found]
        apply Follows.refused
        simp only [Item.offence?, hparse, if_neg fresh]
    | var name =>
      apply var_follows
      · simp only [Item.offence?, hparse]
      · simp only [Item.name?, hparse]

/-- Looking up a control node follows a guard that is sound if the id is declared. -/
lemma controlNamed_follows {raw id} (serves : Issued.Serves issued ids)
    (offence : (Item.guard raw).offence? ids b.registry.vars =
      if id ∈ ids then none else some (.unregisteredNode ("#" ++ id))) :
    Follows ids [.guard raw] (controlNamed issued id) b := by
  unfold controlNamed
  cases found : issued.get? id with
  | some c =>
    rw [if_pos ((serves id).1 ⟨c, found⟩)] at offence
    exact Follows.passed rfl rfl offence rfl
  | none =>
    rw [if_neg (serves.none.1 found)] at offence
    exact Follows.refused offence

/-- Resolving a guard follows it. -/
lemma resolveGuard_follows (serves : Issued.Serves issued ids) (raw : String) (b : Body) :
    Follows ids [.guard raw] (resolveGuard issued raw) b := by
  unfold resolveGuard
  cases hparse : Reference.parse raw with
  | error e =>
    cases Reference.parse_iff.1 hparse with
    | overflow =>
      apply Follows.refused
      simp only [Item.offence?, hparse]
  | ok x =>
    cases x with
    | boundary p =>
      apply Follows.refused
      simp only [Item.offence?, hparse]
    | param index =>
      apply Follows.refused
      simp only [Item.offence?, hparse]
    | control id =>
      apply controlNamed_follows serves
      simp only [Item.offence?, hparse]
    | var name =>
      -- a variable of that name only matters if there is no such control node
      have choice : ∀ y : Update Body ControlId,
          y = (if (issued.get? name).isNone && (b.registry.var? name).isSome then
            throw (.notAControlNode raw) else controlNamed issued name) →
          Follows ids [.guard raw] y b := by
        rintro _ rfl
        by_cases mem : name ∈ ids
        · obtain ⟨c, found⟩ := (serves name).2 mem
          rw [found, if_neg (by simp)]
          apply controlNamed_follows serves
          simp only [Item.offence?, hparse, if_pos mem]
        · by_cases old : name ∈ b.registry.vars
          · rw [if_pos (by
              rw [serves.none.2 mem, Bool.and_eq_true, Option.isSome_iff_exists]
              exact ⟨rfl, Registry.var?_isSome.2 old⟩)]
            apply Follows.refused
            simp only [Item.offence?, hparse, if_neg mem, if_pos old]
          · rw [if_neg (by
              rw [Bool.and_eq_true, Option.isSome_iff_exists, Registry.var?_isSome]
              exact fun h => old h.2)]
            apply controlNamed_follows serves
            simp only [Item.offence?, hparse, if_neg mem, if_neg old]
      exact ⟨(choice _ rfl).ok, (choice _ rfl).error⟩

end Issued

section Perform

variable {issued : Issued}

/-- An edge between nodes that are denoted follows no item: there is nothing left to refuse. -/
lemma connect_follows {x y m n} (kind : EdgeKind) (known : Issued.Known issued b.registry)
    (hx : Denotes (b.registry.note x) issued x m)
    (hy : Denotes ((b.registry.note x).note y) issued y n) :
    Follows ids [] (Body.onGraph fun r => Graph.connect r ⟨m, n, kind⟩) ((b.note x).note y) := by
  obtain ⟨a, h⟩ := (connect_denoted kind known hx hy).2 rfl
  exact .nil h rfl

/-- Adding a data edge follows its two places. -/
lemma addData_follows (known : Issued.Known issued b.registry)
    (serves : Issued.Serves issued ids) (edge : String × String) :
    Follows ids [.place edge.1, .place edge.2] (addData issued edge) b := by
  refine (resolve_follows serves edge.1 b).bind fun m b1 h1 => ?_
  refine (resolve_follows serves edge.2 b1).bind fun n b2 h2 => ?_
  obtain ⟨x, -, -, rfl, hx⟩ := resolve_ok.1 h1
  obtain ⟨y, -, -, rfl, hy⟩ := resolve_ok.1 h2
  exact (connect_follows .data known hx hy).bind fun _ _ _ => .nil rfl rfl

/-- Adding a control edge follows its guard and its place. -/
lemma addControl_follows (known : Issued.Known issued b.registry)
    (serves : Issued.Serves issued ids) (edge : String × String) :
    Follows ids [.guard edge.1, .place edge.2] (addControl issued edge) b := by
  refine (resolveGuard_follows serves edge.1 b).bind fun c b1 h1 => ?_
  refine (resolve_follows serves edge.2 b1).bind fun n b2 h2 => ?_
  obtain ⟨id, -, hc, rfl⟩ := resolveGuard_ok.1 h1
  obtain ⟨y, -, -, rfl, hy⟩ := resolve_ok.1 h2
  exact (connect_follows (x := .control id) .control known (.control hc) hy).bind
    fun _ _ _ => .nil rfl rfl

/-- Marking a source follows its name. -/
lemma markSource_follows (known : Issued.Known issued b.registry) (name : String) :
    Follows ids [.var name] (Body.markSource name) b := by
  refine (var_follows rfl rfl).bind fun n b1 h1 => ?_
  obtain ⟨-, rfl, hy⟩ := (@var_ok issued name b n b1).1 h1
  exact (connect_follows (x := .boundary .source) (y := .var name) .data known
    (.boundary nofun) hy).bind fun _ _ _ => .nil rfl rfl

/-- Marking a sink follows its name. -/
lemma markSink_follows (known : Issued.Known issued b.registry) (name : String) :
    Follows ids [.var name] (Body.markSink name) b := by
  refine (var_follows rfl rfl).bind fun n b1 h1 => ?_
  obtain ⟨-, rfl, hx⟩ := (@var_ok issued name b n b1).1 h1
  exact (connect_follows (x := .var name) (y := .boundary .sink) .data known
    hx (.boundary nofun)).bind fun _ _ _ => .nil rfl rfl

/-- Marking a node that is denoted follows no item: there is nothing left to refuse. -/
lemma markSensitive_follows {x n} (known : Issued.Known issued b.registry)
    (hx : Denotes b.registry issued x n) : Follows ids [] (Body.markSensitive n) b :=
  .nil ((markSensitive_ok known hx).2 rfl) rfl

/-- Carrying out a statement follows its items. -/
lemma perform_follows (known : Issued.Known issued b.registry)
    (serves : Issued.Serves issued ids) (st : Statement) :
    Follows ids st.items (st.perform issued) b := by
  cases st with
  | data edge => exact addData_follows known serves edge
  | control edge => exact addControl_follows known serves edge
  | source name => exact (markSource_follows known name).bind fun _ _ _ => .nil rfl rfl
  | sink name => exact (markSink_follows known name).bind fun _ _ _ => .nil rfl rfl
  | param index =>
    have first : Follows ids [.param index] (Body.param index) b := param_follows rfl rfl
    refine first.bind fun n b1 h => ?_
    obtain ⟨-, rfl, hx⟩ := (@param_ok issued index b n b1).1 h
    exact markSensitive_follows (known.grows (b.registry.grows_note (.param index))) hx
  | place raw =>
    refine (resolve_follows serves raw b).bind fun n b1 h => ?_
    obtain ⟨x, -, -, rfl, hx⟩ := resolve_ok.1 h
    exact markSensitive_follows (known.grows (b.registry.grows_note x)) hx
  | known => exact .nil rfl rfl

/-- Carrying out statements follows their items, one after the other. -/
lemma performAll_follows (known : Issued.Known issued b.registry)
    (serves : Issued.Serves issued ids) (sts : List Statement) :
    Follows ids (sts.flatMap Statement.items) (sts.forM (Statement.perform issued)) b := by
  induction sts generalizing b with
  | nil => exact .nil rfl rfl
  | cons st sts ih =>
    rw [List.flatMap_cons]
    refine (perform_follows known serves st).bind fun _ b1 h => ?_
    exact ih (known.grows ((perform_ok known).1 h).grows)

end Perform

section Slots

variable {controls : List ControlDecl} {issued : Issued} {b' : Body} {e : Refusal}

/-- A control node is only refused for want of a slot. -/
lemma issue_error {c} (issuing : Issuing controls b.registry issued)
    (h : issue issued c b = .error e b') : e = .registryFull .control := by
  obtain h | ⟨_, _, -, h⟩ := Update.bind_error.1 h
  · obtain ⟨r, hr, -⟩ := Body.onRegistry_error.1 h
    unfold Registry.control at hr
    rw [issuing.checkParent] at hr
    simp only at hr
    split at hr
    · cases hr
    · cases hr
      rfl
  · cases h

/-- Pending declarations can be refused only because there are no slots left. -/
lemma Pending.error {cs} (pending : Pending controls issued cs)
    (issuing : Issuing controls b.registry issued)
    (h : cs.foldlM Facts.issue issued b = .error e b') : e = .registryFull .control := by
  induction cs generalizing issued b with
  | nil => cases h
  | cons c cs ih =>
    rw [List.foldlM_cons] at h
    obtain h | ⟨issued1, b1, first, rest⟩ := Update.bind_error.1 h
    · exact issue_error issuing h
    · obtain ⟨lt, rfl, rfl⟩ := (issue_ok issuing).1 first
      exact ih (pending.tail _) (pending.issue issuing lt).issuing rest

/-- Chains are only refused for want of a slot. -/
lemma issueChains_error {cs chains}
    (outward : List.Forall₂ (fun c chain => Outward controls (ControlDecl.id c) chain) cs chains)
    (issuing : Issuing controls b.registry issued)
    (h : chains.foldlM issueChain issued b = .error e b') : e = .registryFull .control := by
  induction outward generalizing issued b with
  | nil => cases h
  | cons hchain _ ih =>
    rw [List.foldlM_cons] at h
    obtain h | ⟨issued1, b1, first, rest⟩ := Update.bind_error.1 h
    · exact (hchain.pending issued).error issuing h
    · exact ih (issueChain_issues hchain issuing first).issuing rest

/-- Control nodes that are nested are only refused for want of a slot. -/
lemma issueControls_error (none : b.registry.controls = []) (nested : Nested controls)
    (h : issueControls controls b = .error e b') : e = .registryFull .control := by
  obtain ⟨cs, outward⟩ := exists_forall₂.2 nested.ends
  rw [issueControls_eq (chains_ok.2 ⟨nested.nodup, outward⟩)] at h
  exact issueChains_error outward (.nil none) h

end Slots

/-- Where the chains do not end, the facts are to blame. -/
lemma chains_ofFacts {controls e} (h : chains controls = .error e) : e.OfFacts := by
  unfold chains at h
  split at h
  · cases h
    trivial
  · obtain ⟨-, c, -, -, -, hc⟩ := mapM_error.1 h
    cases hchain : chain controls c.id with
    | ok chain =>
      rw [hchain] at hc
      cases hc
    | error fault =>
      rw [hchain] at hc
      cases hc
      cases fault <;> trivial

end Facts

namespace BodyFacts

variable {f : BodyFacts} {unit : Nat}

/-- The items of the facts are those of their statements, in order. -/
lemma items_eq (f : BodyFacts) : f.items = f.statements.flatMap Statement.items := by
  unfold items statements
  cases declares : f.declaresSensitivity with
  | true =>
    simp [List.flatMap_map, Statement.items, ← List.map_eq_flatMap]
  | false =>
    unfold declaresSensitivity at declares
    simp only [Bool.or_eq_false_iff, Option.isSome_eq_false_iff,
      Option.isNone_iff_eq_none] at declares
    obtain ⟨⟨⟨sources, sinks⟩, params⟩, locals⟩ := declares
    simp [List.flatMap_map, Statement.items, sources, sinks, params, locals]

/-- Why the facts are refused, if they are. -/
def refusal? (f : BodyFacts) : Option Refusal :=
  match chains f.controls with
  | .error e => some e
  | .ok _ =>
    if f.controls.length ≤ Registry.slotLimit then
      Facts.refusal? (f.controls.map ControlDecl.id) [] f.items
    else some (.registryFull .control)

/-- Carrying out facts on a new body is refused as they say. -/
lemma replay_refusal? (f : BodyFacts) (unit : Nat) :
    f.refusal? = match f.replay (Body.new unit f.name) with
      | .ok _ _ => none
      | .error e _ => some e := by
  rw [replay_eq]
  unfold refusal?
  cases hchains : chains f.controls with
  | error e =>
    rw [Update.bind_error.2 (.inl (issueControls_refused hchains _))]
  | ok cs =>
    obtain ⟨nodup, outward⟩ := chains_ok.1 hchains
    have nested : Nested f.controls := ⟨nodup, exists_forall₂.1 ⟨cs, outward⟩⟩
    simp only
    split
    case isTrue fits =>
      obtain ⟨issued, b, first⟩ := issueControls_total (b := Body.new unit f.name) rfl nested fits
      obtain ⟨-, issues, -⟩ := issueControls_ok rfl first
      have serves : Issued.Serves issued (f.controls.map ControlDecl.id) := fun id =>
        iff_of_eq (congrFun issues.declared id)
      have follows := performAll_follows issues.issuing.known serves f.statements
      have vars : b.registry.vars = [] := by
        obtain ⟨infos, e⟩ := issues.same
        simp only at e
        rw [e]
        rfl
      rw [items_eq, ← vars]
      cases run : f.statements.forM (Statement.perform issued) b with
      | ok a b' =>
        rw [Update.bind_ok.2 ⟨issued, b, first, run⟩]
        exact (follows.ok run).1
      | error e b' =>
        rw [Update.bind_error.2 (.inr ⟨issued, b, first, run⟩)]
        exact follows.error run
    case isFalse full =>
      cases first : issueControls f.controls (Body.new unit f.name) with
      | ok issued b =>
        obtain ⟨-, issues, length⟩ := issueControls_ok rfl first
        exact absurd (length ▸ issues.issuing.fits) full
      | error e b =>
        rw [Update.bind_error.2 (.inl first), issueControls_error rfl nested first]

/-- Facts are refused as they say, whatever number the body gets. -/
lemma toBody_error {e} : f.toBody unit = .error e ↔ f.refusal? = some e := by
  rw [replay_refusal? f unit]
  unfold toBody
  cases f.replay (Body.new unit f.name) with
  | ok a b => simp
  | error e b => simp

/-- A body is made from facts if and only if nothing is to be refused. -/
lemma toBody_exists : (∃ b, f.toBody unit = .ok b) ↔ f.refusal? = none := by
  rw [replay_refusal? f unit]
  unfold toBody
  cases f.replay (Body.new unit f.name) with
  | ok a b => simp
  | error e b => simp

/-- Facts that fit into slots are refused if and only if they are not well nested, or for their
items. -/
lemma refusal?_wellNested (nested : WellNested f.controls)
    (fits : f.controls.length ≤ Registry.slotLimit) :
    f.refusal? = Facts.refusal? (f.controls.map ControlDecl.id) [] f.items := by
  unfold refusal?
  cases hchains : chains f.controls with
  | error e =>
    have ok := isOk_chains.2 nested
    rw [hchains] at ok
    cases ok
  | ok cs => simp only [if_pos fits]

/-- Facts that a body is made from declare a forest. -/
lemma wellNested_of_toBody {b} (h : f.toBody unit = .ok b) : WellNested f.controls := by
  obtain ⟨issued, b1, first, -⟩ := (replay_ok rfl).1 (toBody_ok.1 h)
  exact (issueControls_ok rfl first).1.wellNested

/-- With slots enough, the facts are to blame for every refusal. -/
lemma refusal?_ofFacts (controls : f.controls.length ≤ Registry.slotLimit) (vars : Fits f.items) {e}
    (h : f.refusal? = some e) : e.OfFacts := by
  cases hchains : chains f.controls with
  | error e' =>
    unfold refusal? at h
    rw [hchains] at h
    cases h
    exact chains_ofFacts hchains
  | ok cs =>
    have nested : WellNested f.controls := isOk_chains.1 (by rw [hchains]; rfl)
    rw [refusal?_wellNested nested controls, refusal?_eq_some vars] at h
    obtain ⟨before, item, after, -, -, offence⟩ := h
    exact Item.offence?_ofFacts offence

/-- Facts make a body if and only if their control nodes are well nested and all of their items are
sound. If the control nodes are well nested, the refusal is that of the first item that is not
sound; it may depend on the variables named before. No node is ever taken for one of another
body. -/
theorem toBody_sound (f : BodyFacts) (unit : Nat)
    (controls : f.controls.length ≤ Registry.slotLimit) (vars : Fits f.items) :
    ((∃ b, f.toBody unit = .ok b) ↔ WellNested f.controls ∧
      ∀ item ∈ f.items, item.Sound (f.controls.map ControlDecl.id)) ∧
    (WellNested f.controls → ∀ e, f.toBody unit = .error e ↔
      ∃ before item after, f.items = before ++ item :: after ∧
        (∀ i ∈ before, i.Sound (f.controls.map ControlDecl.id)) ∧
        item.offence? (f.controls.map ControlDecl.id) (before.filterMap Item.name?) = some e) ∧
    ∀ e, f.toBody unit = .error e → e.OfFacts := by
  refine ⟨⟨fun h => ?_, fun h => ?_⟩, fun nested e => ?_, fun e h => ?_⟩
  · obtain ⟨b, built⟩ := h
    have nested := wellNested_of_toBody built
    refine ⟨nested, ?_⟩
    rw [← refusal?_eq_none vars, ← refusal?_wellNested nested controls]
    exact toBody_exists.1 ⟨b, built⟩
  · rw [toBody_exists, refusal?_wellNested h.1 controls, refusal?_eq_none vars]
    exact h.2
  · rw [toBody_error, refusal?_wellNested nested controls, refusal?_eq_some vars]
  · exact refusal?_ofFacts controls vars (toBody_error.1 h)

/-- A scanner in which a variable guards a control edge, after a control node that is named without
its mark. -/
def scanner : BodyFacts where
  name := "scan"
  controls := [⟨"body", some "loop", 1⟩, ⟨"loop", none, 0⟩]
  data := [("param0", "i"), ("i", "#body"), ("loop", "this")]
  control := [("loop", "x"), ("i", "<return>"), ("gone", "x")]
  sources := none
  sinks := some ["#none"]
  sensitiveParams := some [-1]
  sensitiveLocals := none

/-- The first item of `scanner` that is not sound decides, although later ones are not sound either;
without its last two control edges and its sensitive parameter it makes a body. -/
theorem scanner_toBody_sound :
    scanner.toBody 1 = .error (.notAControlNode "i") ∧
      ∃ b, { scanner with control := [("loop", "x")], sensitiveParams := none }.toBody 1 =
        .ok b := by
  refine ⟨?_, ?_⟩
  · refine ((toBody_sound scanner 1 (by decide) (by decide +kernel)).2.1 (by decide) _).2 ?_
    refine ⟨[.place "param0", .place "i", .place "i", .place "#body", .place "loop", .place "this",
      .guard "loop", .place "x"], .guard "i", _, rfl, ?_, ?_⟩
    · decide +kernel
    · decide +kernel
  · refine (toBody_sound _ 1 (by decide) (by decide +kernel)).1.2 ⟨by decide, ?_⟩
    decide +kernel

end BodyFacts

end InfoFlow
