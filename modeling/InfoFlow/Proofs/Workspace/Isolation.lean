import InfoFlow.Workspace
import InfoFlow.Proofs.Body.Ownership

/-!
# Isolation of bodies

Bodies that are worked on side by side do not get into each other's way, in whatever order the moves
on them are made and whatever nodes are passed around between them. `Tracks` is the invariant: every
body is what its own operations make of it alone, and the private nodes that were answered at a
place carry the number of the body there. If the bodies have different numbers, then they are
`Isolated` (`Workspace.after_isolated`).
-/

namespace InfoFlow

/-- A move in a workspace. -/
inductive Move where
  | add (unit : Nat) (name : String)
  | perform (place : Nat) (op : Operation)
  | consume (place : Nat)
  deriving DecidableEq, Repr

/-- The number and the name of the body that a move adds. -/
def Move.added? : Move → Option (Nat × String)
  | .add unit name => some (unit, name)
  | _ => none

namespace Workspace

/-- The workspace after a move. -/
def move (w : Workspace) : Move → Workspace
  | .add unit name => w.add unit name
  | .perform place op =>
    match w.perform place op with
    | .ok (_, w') => w'
    | .error _ => w
  | .consume place => w.consume place

/-- The operation of a move with its place and its answer, if it was carried out. -/
def reply? (w : Workspace) : Move → Option (Nat × Operation × Answer)
  | .perform place op =>
    match w.perform place op with
    | .ok (.ok a, _) => some (place, op, a)
    | _ => none
  | _ => none

/-- The workspace after some moves. -/
def after (w : Workspace) (moves : List Move) : Workspace :=
  moves.foldl move w

/-- The operations that were carried out in some moves, with their places and answers. -/
def log (w : Workspace) : List Move → List (Nat × Operation × Answer)
  | [] => []
  | m :: moves => (w.reply? m).toList ++ (w.move m).log moves

/-- What a move can do. -/
inductive Effect (w : Workspace) : Move → Option (Nat × Operation × Answer) → Workspace → Prop where
  | added {unit name} :
    Effect w (.add unit name) none (w.add unit name)
  | absent {place op absence} :
    w.body place = .error absence →
    Effect w (.perform place op) none w
  | refused {place op b e} :
    w.body place = .ok b →
    op.run b = (.error e, b) →
    Effect w (.perform place op) none w
  | answered {place op b a b'} :
    w.body place = .ok b →
    op.Effect b a b' →
    Effect w (.perform place op) (some (place, op, a)) (w.replace place (some b'))
  | consumed {place} :
    Effect w (.consume place) none (w.consume place)

variable {w : Workspace} {place : Nat} {b : Body}

/-- A body is found at its place, unless it was consumed. -/
lemma body_ok : w.body place = .ok b ↔ w.bodies[place]? = some (some b) := by
  unfold body
  split
  case h_1 none => exact ⟨nofun, fun h => by rw [none] at h; cases h⟩
  case h_2 gone => exact ⟨nofun, fun h => by rw [gone] at h; cases h⟩
  case h_3 b' found =>
    rw [found]
    exact ⟨fun h => by cases h; rfl, fun h => by cases h; rfl⟩

/-- A body that is replaced leaves the others as they are. -/
lemma body_replace_ne {other : Nat} {b'} (ne : place ≠ other) :
    (w.replace place b').body other = w.body other := by
  unfold body replace
  rw [List.getElem?_set_ne ne]

/-- A body replaced by itself changes nothing. -/
lemma replace_body (h : w.body place = .ok b) : w.replace place (some b) = w := by
  obtain ⟨lt, found⟩ := List.getElem?_eq_some_iff.1 (body_ok.1 h)
  show Workspace.mk (w.bodies.set place (some b)) = w
  rw [← found, List.set_getElem_self]

/-- An operation that the body at the place refuses changes nothing. -/
lemma perform_refused {op : Operation} {e} (h : w.body place = .ok b)
    (refused : op.run b = (.error e, b)) : w.perform place op = .ok (.error e, w) := by
  unfold perform
  simp only [h, refused, replace_body h]

/-- An operation on a body of the workspace has its effect there. -/
lemma perform_answered {op : Operation} {a b'} (h : w.body place = .ok b)
    (effect : op.Effect b a b') :
    w.perform place op = .ok (.ok a, w.replace place (some b')) := by
  unfold perform
  simp only [h, Operation.run_ok.2 effect]

/-- Every move has an effect. -/
lemma move_effect (w : Workspace) (m : Move) : w.Effect m (w.reply? m) (w.move m) := by
  cases m with
  | add unit name => exact .added
  | consume place => exact .consumed
  | perform place op =>
    unfold reply? move
    cases h : w.body place with
    | error absence =>
      have missing : w.perform place op = .error absence := by
        unfold perform
        simp only [h]
      simp only [missing]
      exact .absent h
    | ok b =>
      rcases op.run_cases b with ⟨a, b', -, effect⟩ | ⟨e, refused⟩
      · simp only [perform_answered h effect]
        exact .answered h effect
      · simp only [perform_refused h refused]
        exact .refused h refused

end Workspace

/-- The part of a log that belongs to a place. -/
def logAt (place : Nat) (log : List (Nat × Operation × Answer)) : List (Operation × Answer) :=
  log.filterMap fun entry => if entry.1 = place then some entry.2 else none

/-- The log of a place has the entries that were made there. -/
lemma mem_logAt {place log entry} : entry ∈ logAt place log ↔ (place, entry) ∈ log := by
  unfold logAt
  rw [List.mem_filterMap]
  refine ⟨fun h => ?_, fun h => ⟨_, h, if_pos rfl⟩⟩
  obtain ⟨⟨place', entry'⟩, mem, found⟩ := h
  obtain ⟨here, same⟩ := Option.ite_none_right_eq_some.1 found
  cases here
  cases same
  exact mem

/-- An entry at a place is added to its log. -/
lemma logAt_snoc {place log entry} :
    logAt place (log ++ [(place, entry)]) = logAt place log ++ [entry] := by
  unfold logAt
  rw [filterMap_snoc, if_pos rfl, Option.toList_some]

/-- An entry at another place is not. -/
lemma logAt_snoc_ne {place other log entry} (ne : other ≠ place) :
    logAt place (log ++ [(other, entry)]) = logAt place log := by
  unfold logAt
  rw [filterMap_snoc, if_neg ne, Option.toList_none, List.append_nil]

namespace Body

/-- The operations of the log lead from a new body to this one, with the answers in the log. -/
def Alone (unit : Nat) (name : String) (log : List (Operation × Answer)) (b : Body) : Prop :=
  (Body.new unit name).after (log.map Prod.fst) = b ∧
    (Body.new unit name).log (log.map Prod.fst) = log

/-- The log of a longer history is that of its parts. -/
lemma log_append (b : Body) (history later : List Operation) :
    b.log (history ++ later) = b.log history ++ (b.after history).log later := by
  induction history generalizing b with
  | nil => rfl
  | cons op history ih =>
    have after : b.after (op :: history) = (op.run b).2.after history := rfl
    rw [after, List.cons_append, log, log]
    rcases op.run_cases b with ⟨a, b', run, -⟩ | ⟨e, run⟩
    · rw [run]
      simp only [ih, List.cons_append]
    · rw [run]
      exact ih b

namespace Alone

variable {unit : Nat} {name : String} {log : List (Operation × Answer)} {b b' : Body}

/-- A body that is alone stays so after an operation. -/
lemma step (h : Alone unit name log b) {op : Operation} {a} (effect : op.Effect b a b') :
    Alone unit name (log ++ [(op, a)]) b' := by
  obtain ⟨after, same⟩ := h
  have run := Operation.run_ok.2 effect
  have last : b.log [op] = [(op, a)] := by
    unfold Body.log
    rw [run]
    rfl
  unfold Alone
  rw [List.map_append, List.map_singleton, log_append, same, after, last]
  refine ⟨?_, rfl⟩
  unfold Body.after at after ⊢
  rw [List.foldl_append, after, List.foldl_cons, run]
  rfl

/-- A body that is alone owns the nodes of its log. -/
lemma owns (h : Alone unit name log b) : Owns unit log b := by
  have owns := (Owns.new unit name).run (log.map Prod.fst)
  rw [h.1, h.2, List.nil_append] at owns
  exact owns

/-- A body that is alone uses only nodes that it can use. -/
lemma closed (h : Alone unit name log b) : b.Closed := by
  rw [← h.1]
  exact after_closed unit name _

end Alone

end Body

/-- The workspace has a place for each of the bodies that were added, and the log tells how they got
on. -/
structure Tracks (added : List (Nat × String)) (log : List (Nat × Operation × Answer))
    (w : Workspace) : Prop where
  length : w.bodies.length = added.length
  alone : ∀ place b, w.body place = .ok b →
    ∃ unit name, added[place]? = some (unit, name) ∧ b.Alone unit name (logAt place log)
  signed : ∀ place op a, (place, op, a) ∈ log → ∃ unit name, added[place]? = some (unit, name) ∧
    ∀ n, a = .node n → n.isPublic = false → n.unit? = some unit

namespace Tracks

variable {added : List (Nat × String)} {log : List (Nat × Operation × Answer)} {w w' : Workspace}

/-- An empty workspace tracks nothing. -/
lemma empty : Tracks [] [] Workspace.empty where
  length := rfl
  alone := fun _ _ found => nomatch found
  signed := fun _ _ _ mem => absurd mem List.not_mem_nil

/-- A new body is tracked. -/
lemma add (h : Tracks added log w) (unit : Nat) (name : String) :
    Tracks (added ++ [(unit, name)]) log (w.add unit name) where
  length := by
    show (w.bodies ++ [some (Body.new unit name)]).length = (added ++ [(unit, name)]).length
    rw [List.length_append, List.length_append, h.length]
    rfl
  alone := by
    intro place b found
    have slot : (w.bodies ++ [some (Body.new unit name)])[place]? = some (some b) :=
      Workspace.body_ok.1 found
    rcases Nat.lt_or_ge place w.bodies.length with lt | ge
    · rw [List.getElem?_append_left lt] at slot
      rw [List.getElem?_append_left (by rw [← h.length]; exact lt)]
      exact h.alone place b (Workspace.body_ok.2 slot)
    · rw [List.getElem?_append_right ge, List.getElem?_singleton,
        Option.ite_none_right_eq_some] at slot
      obtain ⟨last, slot⟩ := slot
      cases slot
      have here : place = added.length := by
        rw [← h.length]
        exact Nat.le_antisymm (Nat.le_of_sub_eq_zero last) ge
      subst here
      -- nothing was carried out at a place that did not exist
      have silent : logAt added.length log = [] := by
        refine List.eq_nil_iff_forall_not_mem.2 fun entry mem => ?_
        obtain ⟨_, _, place, -⟩ := h.signed _ _ _ (mem_logAt.1 mem)
        rw [List.getElem?_eq_none (Nat.le_refl _)] at place
        cases place
      refine ⟨unit, name, List.getElem?_concat_length, ?_⟩
      rw [silent]
      exact ⟨rfl, rfl⟩
  signed := by
    intro place op a mem
    obtain ⟨unit', name', found, signed⟩ := h.signed place op a mem
    exact ⟨unit', name', getElem?_mono (List.prefix_append _ _) found, signed⟩

/-- An answer is tracked at the place of the body. -/
lemma answer (h : Tracks added log w) {place b op a b'} (found : w.body place = .ok b)
    (effect : Operation.Effect b op a b') :
    Tracks added (log ++ [(place, op, a)]) (w.replace place (some b')) := by
  obtain ⟨unit, name, slot, alone⟩ := h.alone place b found
  have alone' := alone.step effect
  refine ⟨?_, fun other c hc => ?_, fun other op' a' mem => ?_⟩
  · rw [← h.length]
    exact List.length_set
  · by_cases here : place = other
    · subst here
      have c_eq : c = b' := by
        have lt := (List.getElem?_eq_some_iff.1 (Workspace.body_ok.1 found)).1
        have set : (w.bodies.set place (some b'))[place]? = some (some c) :=
          Workspace.body_ok.1 hc
        rw [List.getElem?_set_self lt] at set
        cases set
        rfl
      subst c_eq
      refine ⟨unit, name, slot, ?_⟩
      rw [logAt_snoc]
      exact alone'
    · rw [Workspace.body_replace_ne here] at hc
      rw [logAt_snoc_ne here]
      exact h.alone other c hc
  · rcases List.mem_append.1 mem with old | new
    · exact h.signed other op' a' old
    · cases List.mem_singleton.1 new
      refine ⟨unit, name, slot, fun n ha hidden => ?_⟩
      subst ha
      exact alone'.owns.answered_unit (List.mem_append_right _ (List.mem_singleton_self _)) hidden

/-- A body that is consumed leaves its log behind. -/
lemma consume (h : Tracks added log w) (place : Nat) : Tracks added log (w.consume place) := by
  refine ⟨?_, fun other b hb => ?_, h.signed⟩
  · rw [← h.length]
    exact List.length_set
  · have ne : place ≠ other := by
      rintro rfl
      have set : (w.bodies.set place none)[place]? = some (some b) := Workspace.body_ok.1 hb
      have lt := (List.getElem?_eq_some_iff.1 set).1
      rw [List.getElem?_set_self (by rw [← List.length_set]; exact lt)] at set
      cases set
    exact h.alone other b (Workspace.body_replace_ne ne ▸ hb)

/-- Every move is tracked. -/
lemma step (h : Tracks added log w) {m reply?} (effect : w.Effect m reply? w') :
    Tracks (added ++ m.added?.toList) (log ++ reply?.toList) w' := by
  have same : Tracks (added ++ []) (log ++ []) w := by
    rw [List.append_nil, List.append_nil]
    exact h
  cases effect with
  | added =>
    rw [Option.toList_none, List.append_nil]
    exact h.add _ _
  | absent => exact same
  | refused => exact same
  | answered found effect =>
    show Tracks (added ++ []) _ _
    rw [List.append_nil]
    exact h.answer found effect
  | consumed => exact same.consume _

/-- Moves are tracked, however many there are. -/
lemma run (h : Tracks added log w) (moves : List Move) :
    Tracks (added ++ moves.filterMap Move.added?) (log ++ w.log moves) (w.after moves) := by
  induction moves generalizing added log w with
  | nil =>
    show Tracks (added ++ []) (log ++ []) w
    rw [List.append_nil, List.append_nil]
    exact h
  | cons m moves ih =>
    have rest := ih (h.step (w.move_effect m))
    rw [List.append_assoc, ← filterMap_first, List.append_assoc] at rest
    exact rest

end Tracks

/-- The node was the answer to an operation at the place. -/
def IssuedAt (log : List (Nat × Operation × Answer)) (place : Nat) (n : Node) : Prop :=
  ∃ op, (place, op, .node n) ∈ log

/-- The bodies of a workspace do not share private nodes, and what a body knows is its own doing. -/
structure Isolated (log : List (Nat × Operation × Answer)) (w : Workspace) : Prop where
  alone : ∀ place b, w.body place = .ok b → ∃ unit name, b.Alone unit name (logAt place log)
  uses : ∀ place b n, w.body place = .ok b → b.Uses n → n.isPublic = false → IssuedAt log place n
  apart : ∀ place place' n, IssuedAt log place n → IssuedAt log place' n → n.isPublic = false →
    place = place'
  foreign : ∀ place b op n, w.body place = .ok b → n ∈ op.arguments → n.isPublic = false →
    ¬ IssuedAt log place n → ∃ e, w.perform place op = .ok (.error e, w)
  told : ∀ place b report, w.body place = .ok b → b.analyze = .ok report →
    ∃ seeds, b.seeds = .ok seeds ∧
      List.Forall₂ (Finding.Tells b.registry) (Taint.ofSeeds b.graph seeds).leaks report.findings

namespace Tracks

variable {added : List (Nat × String)} {log : List (Nat × Operation × Answer)} {w : Workspace}

/-- No node that is not public was issued at two places, as the bodies have different numbers. -/
lemma apart (h : Tracks added log w) (distinct : (added.map Prod.fst).Nodup) {place place' n}
    (issued : IssuedAt log place n) (issued' : IssuedAt log place' n)
    (hidden : n.isPublic = false) : place = place' := by
  obtain ⟨op, mem⟩ := issued
  obtain ⟨op', mem'⟩ := issued'
  obtain ⟨unit, name, slot, signed⟩ := h.signed _ _ _ mem
  obtain ⟨unit', name', slot', signed'⟩ := h.signed _ _ _ mem'
  have same : some unit = some unit' := by
    rw [← signed n rfl hidden, ← signed' n rfl hidden]
  have at_place : (added.map Prod.fst)[place]? = some unit := by
    rw [List.getElem?_map, slot]
    rfl
  have at_place' : (added.map Prod.fst)[place']? = some unit := by
    rw [List.getElem?_map, slot', same]
    rfl
  have lt := (List.getElem?_eq_some_iff.1 at_place).1
  exact (List.getElem?_inj lt distinct).1 (at_place.trans at_place'.symm)

/-- What a workspace tracks is isolated. -/
lemma isolated (h : Tracks added log w) (distinct : (added.map Prod.fst).Nodup) :
    Isolated log w where
  alone := by
    intro place b found
    obtain ⟨unit, name, -, alone⟩ := h.alone place b found
    exact ⟨unit, name, alone⟩
  uses := by
    intro place b n found uses hidden
    obtain ⟨unit, name, -, alone⟩ := h.alone place b found
    obtain ⟨op, mem⟩ := (alone.owns.check_iff hidden).1 (alone.closed.uses n uses)
    exact ⟨op, mem_logAt.1 mem⟩
  apart := fun _ _ _ => h.apart distinct
  foreign := by
    intro place b op n found argument hidden unknown
    obtain ⟨unit, name, -, alone⟩ := h.alone place b found
    obtain ⟨e, refused⟩ := alone.owns.foreign argument hidden fun op' mem =>
      unknown ⟨op', mem_logAt.1 mem⟩
    exact ⟨e, Workspace.perform_refused found refused⟩
  told := by
    intro place b report found analyzed
    obtain ⟨unit, name, -, alone⟩ := h.alone place b found
    exact alone.closed.report analyzed

end Tracks

/-- Bodies with different numbers stay isolated, whatever moves are made and in whatever order. A
body is what its own operations make of it alone. The private nodes in its graph, among its seeds
and around its control nodes were issued to it and to no other body; an operation that is about any
other private node is refused and changes no body. In a report on a body, every node of every
witness is shown by the text that the registry of this body holds for it. -/
theorem Workspace.after_isolated (moves : List Move)
    (distinct : ((moves.filterMap Move.added?).map Prod.fst).Nodup) :
    Isolated (Workspace.empty.log moves) (Workspace.empty.after moves) := by
  have tracks := Tracks.empty.run moves
  rw [List.nil_append, List.nil_append] at tracks
  exact tracks.isolated distinct

/-- Two bodies whose variables have the same slot. -/
def Move.sameSlot : List Move :=
  [.add 7 "login", .add 3 "audit",
    .perform 0 (.var "password"), .perform 1 (.var "entry"),
    .perform 1 (.markSensitive (.var ⟨3, 0⟩)),
    .perform 1 (.dataEdge (.var ⟨3, 0⟩) (.boundary .returned)),
    .perform 1 (.dataEdge (.var ⟨7, 0⟩) (.boundary .returned))]

/-- Two bodies issue variables with the same slot, and the one refuses that of the other. -/
theorem Workspace.sameSlot_isolated :
    ((Move.sameSlot.filterMap Move.added?).map Prod.fst).Nodup ∧
      Isolated (Workspace.empty.log Move.sameSlot) (Workspace.empty.after Move.sameSlot) ∧
      IssuedAt (Workspace.empty.log Move.sameSlot) 0 (.var ⟨7, 0⟩) ∧
      ∃ e, (Workspace.empty.after Move.sameSlot).perform 1 (.markSensitive (.var ⟨7, 0⟩)) =
        .ok (.error e, Workspace.empty.after Move.sameSlot) := by
  have distinct : ((Move.sameSlot.filterMap Move.added?).map Prod.fst).Nodup := by decide
  have isolated := Workspace.after_isolated Move.sameSlot distinct
  have there : IssuedAt (Workspace.empty.log Move.sameSlot) 0 (.var ⟨7, 0⟩) :=
    ⟨.var "password", List.mem_cons_self⟩
  refine ⟨distinct, isolated, there, ?_⟩
  refine isolated.foreign 1 _ _ _ rfl (List.mem_singleton_self _) rfl fun here => ?_
  exact absurd (isolated.apart _ _ _ here there rfl) (by decide)

end InfoFlow
