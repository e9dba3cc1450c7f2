import InfoFlow.Proofs.Facts.Nesting

/-!
# What is wrong with declarations of control nodes

From a declared id a chain of ids leads outwards, each inside the next one. `Facts.Leads` says what
can be wrong with it, by reachability alone: it leads to an id that is not declared, or to one that
is inside itself. Where ids are distinct the chain cannot branch, so at most one of the two is the
case and the undeclared id is determined (`Facts.Leads.unique`).

Looking for a chain fails in exactly this way, if one step more is allowed than there are
declarations (`Facts.chainWithin_error`): a walk that is still under way then has come back to an
id. `Facts.Diagnosis` is the refusal that declarations deserve, and
`Facts.issueControls_diagnosis` says that issuing them is refused just so.
-/

namespace InfoFlow.Facts

open Relation

/-- What is wrong with the chain from `id` outwards. -/
inductive Leads (controls : List ControlDecl) (id : String) : ChainFault → Prop where
  | undeclared {outer} :
    ReflTransGen (Inside controls) id outer →
    outer ∉ controls.map ControlDecl.id →
    Leads controls id (.undeclared outer)
  | cyclic {outer} :
    ReflTransGen (Inside controls) id outer →
    TransGen (Inside controls) outer outer →
    Leads controls id .cyclic

section Leads

variable {controls : List ControlDecl} {id : String}

/-- A declaration is inside one other at most. -/
lemma Inside.unique (nodup : (controls.map ControlDecl.id).Nodup) {outer outer'}
    (h : Inside controls id outer) (h' : Inside controls id outer') : outer = outer' := by
  obtain ⟨c, hc, hid, hparent⟩ := h
  obtain ⟨d, hd, hid', hparent'⟩ := h'
  have same := List.inj_on_of_nodup_map nodup hc hd (hid.trans hid'.symm)
  subst same
  rw [hparent] at hparent'
  exact Option.some.inj hparent'

/-- What is inside something is declared. -/
lemma Inside.declared {outer} (h : Inside controls id outer) :
    id ∈ controls.map ControlDecl.id := by
  obtain ⟨c, hc, rfl, -⟩ := h
  exact List.mem_map_of_mem hc

/-- What is outside of an id that is inside itself is inside itself. -/
lemma cyclic_outward (nodup : (controls.map ControlDecl.id).Nodup) {outer}
    (h : ReflTransGen (Inside controls) id outer) (cycle : TransGen (Inside controls) id id) :
    TransGen (Inside controls) outer outer := by
  induction h with
  | refl => exact cycle
  | tail _ last ih =>
    obtain ⟨next, first, rest⟩ := TransGen.head'_iff.1 ih
    have same := first.unique nodup last
    subst same
    exact TransGen.tail' rest last

/-- Nothing is outside of an undeclared id. -/
lemma undeclared_end {outer} (h : ReflTransGen (Inside controls) id outer)
    (missing : id ∉ controls.map ControlDecl.id) : outer = id := by
  cases ReflTransGen.cases_head h with
  | inl same => exact same.symm
  | inr step =>
    obtain ⟨next, first, -⟩ := step
    exact absurd first.declared missing

/-- Of two ids outside of another one, one is outside of the other. -/
lemma comparable (nodup : (controls.map ControlDecl.id).Nodup) {outer outer'}
    (h : ReflTransGen (Inside controls) id outer)
    (h' : ReflTransGen (Inside controls) id outer') :
    ReflTransGen (Inside controls) outer outer' ∨ ReflTransGen (Inside controls) outer' outer :=
  ReflTransGen.total_of_right_unique (fun _ _ _ => Inside.unique nodup) h h'

/-- A chain that leads to an undeclared id does not come back to an id. -/
lemma undeclared_not_cyclic (nodup : (controls.map ControlDecl.id).Nodup) {outer outer'}
    (h : ReflTransGen (Inside controls) id outer) (missing : outer ∉ controls.map ControlDecl.id)
    (h' : ReflTransGen (Inside controls) id outer') :
    ¬ TransGen (Inside controls) outer' outer' := by
  intro cycle
  have cycle' : TransGen (Inside controls) outer outer := by
    cases comparable nodup h h' with
    | inl further =>
      rw [undeclared_end further missing] at cycle
      exact cycle
    | inr further => exact cyclic_outward nodup further cycle
  obtain ⟨next, first, -⟩ := TransGen.head'_iff.1 cycle'
  exact missing first.declared

/-- An id leads to one fault at most. -/
lemma Leads.unique (nodup : (controls.map ControlDecl.id).Nodup) {fault fault'}
    (h : Leads controls id fault) (h' : Leads controls id fault') : fault = fault' := by
  cases h with
  | undeclared way missing =>
    cases h' with
    | undeclared way' missing' =>
      cases comparable nodup way way' with
      | inl further => rw [undeclared_end further missing]
      | inr further => rw [undeclared_end further missing']
    | cyclic way' cycle => exact absurd cycle (undeclared_not_cyclic nodup way missing way')
  | cyclic way cycle =>
    cases h' with
    | undeclared way' missing => exact absurd cycle (undeclared_not_cyclic nodup way' missing way)
    | cyclic => rfl

/-- An id leads to the faults of what it is inside of. -/
lemma Leads.inside {outer fault} (first : Inside controls id outer)
    (h : Leads controls outer fault) : Leads controls id fault := by
  cases h with
  | undeclared way missing => exact .undeclared (.head first way) missing
  | cyclic way cycle => exact .cyclic (.head first way) cycle

/-- Nothing is wrong with a chain that ends. -/
lemma Outward.not_leads (nodup : (controls.map ControlDecl.id).Nodup) {chain}
    (outward : Outward controls id chain) {fault} : ¬ Leads controls id fault := by
  -- every id on the way has a chain of its own
  have ends : ∀ outer, ReflTransGen (Inside controls) id outer →
      ∃ rest, Outward controls outer rest := by
    intro outer way
    induction way with
    | refl => exact ⟨chain, outward⟩
    | tail _ last ih =>
      obtain ⟨rest, outward'⟩ := ih
      obtain ⟨rest', outward'', -⟩ := last.outward nodup outward'
      exact ⟨rest', outward''⟩
  intro leads
  cases leads with
  | undeclared way missing =>
    obtain ⟨rest, outward'⟩ := ends _ way
    obtain ⟨c, found⟩ := outward'.found
    obtain ⟨hc, rfl⟩ := (find?_key nodup).1 found
    exact missing (List.mem_map_of_mem hc)
  | cyclic way cycle =>
    obtain ⟨rest, outward'⟩ := ends _ way
    obtain ⟨rest', outward'', lt⟩ := transGen_outward nodup cycle outward'
    rw [outward'.unique outward''] at lt
    exact Nat.lt_irrefl _ lt

end Leads

section Walks

variable {controls : List ControlDecl}

/-- The declaration that is found for an id says what it is inside of. -/
lemma inside_of_find? {id c parent} (found : controls.find? (·.id = id) = some c)
    (hparent : c.parent = some parent) : Inside controls id parent := by
  have hid : c.id = id := by simpa using List.find?_some found
  exact ⟨c, List.mem_of_find?_eq_some found, hid, hparent⟩

/-- A walk fails at an id that is not declared, or further outside. -/
lemma chainWithin_succ_error {steps id fault} :
    chainWithin controls (steps + 1) id = .error fault ↔
      (id ∉ controls.map ControlDecl.id ∧ fault = .undeclared id) ∨
      ∃ c parent, controls.find? (·.id = id) = some c ∧ c.parent = some parent ∧
        chainWithin controls steps parent = .error fault := by
  rw [chainWithin, ← find?_key_none]
  cases found : controls.find? (·.id = id) with
  | none => simp [eq_comm]
  | some c =>
    cases hparent : c.parent with
    | none => simp [hparent]
    | some parent =>
      cases hrest : chainWithin controls steps parent with
      | ok rest => simp [hparent, hrest]
      | error fault' => simp [hparent, hrest]

/-- A walk that stops at an undeclared id was led there. -/
lemma chainWithin_undeclared {steps id outer}
    (h : chainWithin controls steps id = .error (.undeclared outer)) :
    Leads controls id (.undeclared outer) := by
  induction steps generalizing id with
  | zero => cases h
  | succ steps ih =>
    obtain ⟨missing, same⟩ | ⟨c, parent, found, hparent, rest⟩ := chainWithin_succ_error.1 h
    · cases same
      exact .undeclared .refl missing
    · exact (ih rest).inside (inside_of_find? found hparent)

/-- A walk that is given up has passed as many declared ids as it may make steps. -/
lemma chainWithin_cyclic {steps id} (h : chainWithin controls steps id = .error .cyclic) :
    ∃ walk : List String, walk.length = steps ∧ (∀ x ∈ walk.head?, x = id) ∧
      walk.IsChain (Inside controls) ∧ walk ⊆ controls.map ControlDecl.id ∧
      ∀ x ∈ walk, ReflTransGen (Inside controls) id x := by
  induction steps generalizing id with
  | zero => exact ⟨[], rfl, nofun, .nil, List.nil_subset _, nofun⟩
  | succ steps ih =>
    obtain ⟨-, same⟩ | ⟨c, parent, found, hparent, rest⟩ := chainWithin_succ_error.1 h
    · cases same
    · have first := inside_of_find? found hparent
      obtain ⟨walk, length, head, chain, declared, way⟩ := ih rest
      refine ⟨id :: walk, by rw [List.length_cons, length], ?_, ?_, ?_, ?_⟩
      · rintro _ ⟨⟩
        rfl
      · refine List.isChain_cons.2 ⟨fun x hx => ?_, chain⟩
        rw [head x hx]
        exact first
      · exact List.cons_subset.2 ⟨first.declared, declared⟩
      · refine List.forall_mem_cons.2 ⟨.refl, fun x hx => ?_⟩
        exact .head first (way x hx)

/-- A walk over more ids than are declared comes back to one of them. -/
lemma exists_cycle {walk : List String} (chain : walk.IsChain (Inside controls))
    (declared : walk ⊆ controls.map ControlDecl.id) (long : controls.length < walk.length) :
    ∃ x ∈ walk, TransGen (Inside controls) x x := by
  by_contra none
  have outward : walk.Pairwise (TransGen (Inside controls)) :=
    (chain.imp fun _ _ => TransGen.single).pairwise
  have nodup : walk.Nodup := by
    refine outward.imp_of_mem fun {x y} hx _ way => ?_
    rintro rfl
    exact none ⟨x, hx, way⟩
  have le := (List.subperm_of_subset nodup declared).length_le
  rw [List.length_map] at le
  omega

/-- Looking for a chain tells what is wrong with it, if one step more is allowed than there are
declarations. -/
lemma chainWithin_error (nodup : (controls.map ControlDecl.id).Nodup) {steps}
    (enough : controls.length < steps) {id fault} :
    chainWithin controls steps id = .error fault ↔ Leads controls id fault := by
  have sound : ∀ fault, chainWithin controls steps id = .error fault →
      Leads controls id fault := by
    intro fault h
    cases fault with
    | undeclared outer => exact chainWithin_undeclared h
    | cyclic =>
      obtain ⟨walk, length, -, chain, declared, way⟩ := chainWithin_cyclic h
      obtain ⟨x, hx, cycle⟩ := exists_cycle chain declared (length ▸ enough)
      exact .cyclic (way x hx) cycle
  refine ⟨sound fault, fun leads => ?_⟩
  cases result : chainWithin controls steps id with
  | ok chain => exact absurd leads ((chainWithin_ok.1 result).1.not_leads nodup)
  | error fault' => rw [(sound fault' result).unique nodup leads]

/-- A walk fails for the fault that the id leads to. -/
lemma chain_error (nodup : (controls.map ControlDecl.id).Nodup) {id fault} :
    Facts.chain controls id = .error fault ↔ Leads controls id fault :=
  chainWithin_error nodup (Nat.lt_succ_self _)

/-- More steps do not change what is found. -/
lemma chainWithin_eq_chain (nodup : (controls.map ControlDecl.id).Nodup) {steps}
    (enough : controls.length < steps) (id : String) :
    chainWithin controls steps id = Facts.chain controls id := by
  cases result : Facts.chain controls id with
  | error fault => rw [chainWithin_error nodup enough, ← chain_error nodup, result]
  | ok chain =>
    have outward := chain_ok.1 result
    exact chainWithin_ok.2 ⟨outward, outward.length_le.trans enough.le⟩

/-- A chain ends if and only if nothing is wrong with it. -/
lemma outward_iff (nodup : (controls.map ControlDecl.id).Nodup) {id} :
    (∃ chain, Outward controls id chain) ↔ ∀ fault, ¬ Leads controls id fault := by
  refine ⟨fun h fault => ?_, fun h => ?_⟩
  · obtain ⟨chain, outward⟩ := h
    exact outward.not_leads nodup
  · cases result : Facts.chain controls id with
    | ok chain => exact ⟨chain, chain_ok.1 result⟩
    | error fault => exact absurd ((chain_error nodup).1 result) (h fault)

end Walks

/-- Why declarations cannot be carried out. A repeated id comes before all other faults, and of
faulty chains the first one counts. -/
inductive Diagnosis (controls : List ControlDecl) : Refusal → Prop where
  | duplicate {front c back} :
    controls = front ++ c :: back →
    (front.map ControlDecl.id).Nodup →
    c.id ∈ front.map ControlDecl.id →
    Diagnosis controls (.duplicateControl c.id)
  | undeclared {front c back outer} :
    (controls.map ControlDecl.id).Nodup →
    controls = front ++ c :: back →
    (∀ d ∈ front, ∀ fault, ¬ Leads controls d.id fault) →
    Leads controls c.id (.undeclared outer) →
    Diagnosis controls (.unregisteredNode ("#" ++ outer))
  | cyclic {front c back} :
    (controls.map ControlDecl.id).Nodup →
    controls = front ++ c :: back →
    (∀ d ∈ front, ∀ fault, ¬ Leads controls d.id fault) →
    Leads controls c.id .cyclic →
    Diagnosis controls (.cyclicControlChain ("#" ++ c.id))

section Refusals

variable {controls : List ControlDecl}

/-- The first declaration that repeats an earlier one is found. -/
lemma firstRepeated?_eq_some {seen id} :
    firstRepeated? seen controls = some id ↔
      ∃ front c back, controls = front ++ c :: back ∧ c.id = id ∧
        firstRepeated? seen front = none ∧ (c.id ∈ seen ∨ c.id ∈ front.map ControlDecl.id) := by
  induction controls generalizing seen with
  | nil => simp [firstRepeated?]
  | cons d controls ih =>
    rw [firstRepeated?]
    by_cases old : d.id ∈ seen
    · rw [if_pos old]
      refine ⟨fun h => ?_, fun h => ?_⟩
      · cases h
        exact ⟨[], d, controls, rfl, rfl, rfl, .inl old⟩
      · obtain ⟨front, c, back, split, rfl, passed, -⟩ := h
        cases front with
        | nil =>
          cases split
          rfl
        | cons d' front =>
          cases split
          exact absurd old ((firstRepeated?_eq_none.1 passed).1 d (List.mem_cons_self ..))
    · rw [if_neg old, ih]
      refine ⟨fun h => ?_, fun h => ?_⟩
      · obtain ⟨front, c, back, rfl, rfl, passed, repeated⟩ := h
        refine ⟨d :: front, c, back, rfl, rfl, ?_, ?_⟩
        · rw [firstRepeated?, if_neg old, passed]
        · rw [List.map_cons, List.mem_cons]
          rw [List.mem_cons] at repeated
          tauto
      · obtain ⟨front, c, back, split, rfl, passed, repeated⟩ := h
        cases front with
        | nil =>
          cases split
          exact absurd (repeated.resolve_right List.not_mem_nil) old
        | cons d' front =>
          cases split
          rw [firstRepeated?, if_neg old] at passed
          refine ⟨front, c, back, rfl, rfl, passed, ?_⟩
          rw [List.map_cons, List.mem_cons] at repeated
          rw [List.mem_cons]
          tauto

/-- An id is declared twice if and only if a first one is found that is. -/
lemma firstRepeated?_iff {id} :
    firstRepeated? [] controls = some id ↔
      ∃ front c back, controls = front ++ c :: back ∧ c.id = id ∧
        (front.map ControlDecl.id).Nodup ∧ c.id ∈ front.map ControlDecl.id := by
  simp [firstRepeated?_eq_some, firstRepeated?_eq_none]

/-- There is a first repeated id unless the ids are distinct. -/
lemma duplicate_iff : (∃ id, firstRepeated? [] controls = some id) ↔
    ¬ (controls.map ControlDecl.id).Nodup := by
  rw [← Option.isSome_iff_exists, ← Option.ne_none_iff_isSome, ne_eq, firstRepeated?_eq_none]
  simp

/-- What looking for the chain of one declaration comes to. -/
lemma chain_mapError (nodup : (controls.map ControlDecl.id).Nodup) (c : ControlDecl) :
    ((∃ chain, (Facts.chain controls c.id).mapError (ChainFault.toError c) = .ok chain) ↔
      ∀ fault, ¬ Leads controls c.id fault) ∧
    ∀ e, (Facts.chain controls c.id).mapError (ChainFault.toError c) = .error e ↔
      ∃ fault, Leads controls c.id fault ∧ fault.toError c = e := by
  rw [← outward_iff nodup]
  simp only [← chain_error nodup, ← chain_ok]
  cases Facts.chain controls c.id with
  | ok chain => simp [Except.mapError]
  | error fault => simp [Except.mapError]

/-- The chains are refused for a reason that there is, and this reason is given. -/
lemma chains_error {e} : chains controls = .error e ↔ Diagnosis controls e := by
  unfold chains
  cases repeated : firstRepeated? [] controls with
  | some id =>
    have distinct := duplicate_iff.1 ⟨id, repeated⟩
    refine ⟨fun h => ?_, fun h => ?_⟩
    · cases h
      obtain ⟨front, c, back, split, rfl, nodup, again⟩ := firstRepeated?_iff.1 repeated
      exact .duplicate split nodup again
    · cases h with
      | duplicate split nodup again =>
        rw [firstRepeated?_iff.2 ⟨_, _, _, split, rfl, nodup, again⟩, Option.some.injEq] at repeated
        rw [repeated]
      | undeclared nodup => exact absurd nodup distinct
      | cyclic nodup => exact absurd nodup distinct
  | none =>
    have nodup := (firstRepeated?_eq_none.1 repeated).2
    simp only [mapM_error, (chain_mapError nodup _).1, (chain_mapError nodup _).2]
    refine ⟨fun h => ?_, fun h => ?_⟩
    · obtain ⟨front, c, back, split, sound, fault, leads, rfl⟩ := h
      cases fault with
      | undeclared outer => exact .undeclared nodup split sound leads
      | cyclic => exact .cyclic nodup split sound leads
    · cases h with
      | duplicate split nodup' again =>
        rw [firstRepeated?_iff.2 ⟨_, _, _, split, rfl, nodup', again⟩] at repeated
        cases repeated
      | undeclared _ split sound leads => exact ⟨_, _, _, split, sound, _, leads, rfl⟩
      | cyclic _ split sound leads => exact ⟨_, _, _, split, sound, _, leads, rfl⟩

/-- Declarations that fit into slots are refused for the reason that there is, before any control
node is issued. -/
lemma issueControls_error_iff {b b' e} (none : b.registry.controls = [])
    (fits : controls.length ≤ Registry.slotLimit) :
    issueControls controls b = .error e b' ↔ Diagnosis controls e ∧ b' = b := by
  rw [← chains_error]
  cases found : chains controls with
  | error e' => simp [issueControls_refused found, eq_comm]
  | ok cs =>
    obtain ⟨issued, b1, run⟩ := issueChains_total (chains_ok.1 found).2 (.nil none) fits
    simp [issueControls_eq found, run]

end Refusals

/-- What is wrong with declarations of control nodes is told exactly, and before any control node is
issued. An id that is declared twice is told first; otherwise the first declaration with a faulty
chain decides, by the undeclared id that its chain leads to or by its own id if the chain has no
end. Declarations without such faults are carried out. No walk along a chain needs more steps than
it may make. Once all chains were found, the walk that issues control nodes looks up declared ids
only and needs no more steps either, whatever control nodes there are already; so issuing never
breaks down. -/
theorem issueControls_diagnosis (controls : List ControlDecl) (unit : Nat) (name : String)
    (fits : controls.length ≤ Registry.slotLimit) :
    (∀ e b, issueControls controls (Body.new unit name) = .error e b ↔
      Diagnosis controls e ∧ b = Body.new unit name) ∧
    ((∃ id b, issueControls controls (Body.new unit name) = .error (.duplicateControl id) b) ↔
      ¬ (controls.map ControlDecl.id).Nodup) ∧
    ((∃ issued b, issueControls controls (Body.new unit name) = .ok issued b) ↔
      (controls.map ControlDecl.id).Nodup ∧
        ∀ c ∈ controls, ∀ fault, ¬ Leads controls c.id fault) ∧
    ((controls.map ControlDecl.id).Nodup → ∀ id steps, controls.length < steps →
      chainWithin controls steps id = chain controls id) ∧
    (∀ cs, chains controls = .ok cs →
      (∀ present : Issued, ∀ c ∈ controls, ∃ pending, pending ⊆ controls ∧
        ∀ steps, controls.length < steps →
          gatherWithin controls present steps (some c.id) = .ok pending) ∧
      ∀ rest, rest ⊆ controls → ∀ (present : Issued) (b : Body) (crash : Crash),
        issueEach controls rest present b ≠ .error crash) := by
  refine ⟨fun e b => issueControls_error_iff rfl fits, ⟨fun h => ?_, fun h => ?_⟩,
    ⟨fun h => ?_, fun h => ?_⟩, fun nodup id steps enough => chainWithin_eq_chain nodup enough id,
    fun cs found => ⟨fun present c hc => ?_, fun rest sub => issueEach_ne_error found sub⟩⟩
  · obtain ⟨id, b, refused⟩ := h
    cases ((issueControls_error_iff rfl fits).1 refused).1 with
    | duplicate split nodup again =>
      exact duplicate_iff.1 ⟨_, firstRepeated?_iff.2 ⟨_, _, _, split, rfl, nodup, again⟩⟩
  · obtain ⟨id, repeated⟩ := duplicate_iff.2 h
    obtain ⟨front, c, back, split, rfl, nodup, again⟩ := firstRepeated?_iff.1 repeated
    exact ⟨c.id, _, (issueControls_error_iff rfl fits).2 ⟨.duplicate split nodup again, rfl⟩⟩
  · obtain ⟨issued, b, done⟩ := h
    have nested := (issueControls_ok rfl done).1
    exact ⟨nested.nodup, fun c hc => (outward_iff nested.nodup).1 (nested.ends c hc)⟩
  · exact issueControls_total rfl ⟨h.1, fun c hc => (outward_iff h.1).2 (h.2 c hc)⟩ fits
  · obtain ⟨chain, outward⟩ := exists_forall₂.1 ⟨cs, (chains_ok.1 found).2⟩ c hc
    exact ⟨_, List.Subset.trans (List.takeWhile_subset _) outward.declared,
      fun steps enough => outward.gather enough.le present⟩

/-- Declarations of which one leads into a cycle that it does not belong to, before one whose parent
is not declared. -/
def spiralControls : List ControlDecl :=
  [⟨"root", none, 0⟩, ⟨"tail", some "odd", 1⟩, ⟨"odd", some "even", 2⟩, ⟨"even", some "odd", 3⟩,
    ⟨"lost", some "gone", 4⟩]

/-- Had nobody looked at the chains, the walk that issues control nodes would break down. -/
example : gather spiralControls [] "lost" = .error (.panicked "gone") ∧
    gather spiralControls [] "tail" = .error .exhausted := by decide

/-- The declaration outside of the cycle is the one that is told. -/
theorem spiralControls_diagnosis :
    spiralControls.length ≤ Registry.slotLimit ∧
      issueControls spiralControls (Body.new 1 "spiral") =
        .error (.cyclicControlChain "#tail") (Body.new 1 "spiral") := by
  have fits : spiralControls.length ≤ Registry.slotLimit := by decide
  have nodup : (spiralControls.map ControlDecl.id).Nodup := by decide
  have tail : Inside spiralControls "tail" "odd" := ⟨⟨"tail", some "odd", 1⟩, by decide, rfl, rfl⟩
  have odd : Inside spiralControls "odd" "even" := ⟨⟨"odd", some "even", 2⟩, by decide, rfl, rfl⟩
  have even : Inside spiralControls "even" "odd" := ⟨⟨"even", some "odd", 3⟩, by decide, rfl, rfl⟩
  have sound : ∀ fault, ¬ Leads spiralControls "root" fault :=
    (outward_iff nodup).1 ⟨[⟨"root", none, 0⟩], .root (by decide) rfl⟩
  have diagnosis : Diagnosis spiralControls (.cyclicControlChain ("#" ++ "tail")) := by
    refine @Diagnosis.cyclic _ [⟨"root", none, 0⟩] ⟨"tail", some "odd", 1⟩ _ nodup rfl ?_
      (.cyclic (.single tail) (.tail (.single odd) even))
    intro d mem
    cases List.mem_singleton.1 mem
    exact sound
  exact ⟨fits, ((issueControls_diagnosis spiralControls 1 "spiral" fits).1 _ _).2 ⟨diagnosis, rfl⟩⟩

end InfoFlow.Facts
