import InfoFlow.Body
import InfoFlow.Facts.Basic

/-!
# Control nodes of a body

The declarations of control nodes may come in any order, so a control node can be declared before
the one around it. `Facts.issueControls` looks at all declarations first and then issues the
control nodes from the outside in.

To issue the control node of a declaration, the declarations around it are gathered that have none
yet. This walk does not look out for undeclared ids and for cycles: it crashes on the former and
makes no end on the latter. `Facts.gatherWithin_ok` says that it does neither where a chain was
found before, so `Facts.issueControls` has no such case.
-/

namespace InfoFlow.Facts

/-- The control nodes that were issued, by the id of their declaration. -/
abbrev Issued := List (String × ControlId)

/-- The control node with the given id. -/
def Issued.get? (issued : Issued) (id : String) : Option ControlId :=
  (issued.find? fun entry => entry.1 = id).map Prod.snd

/-- The id of the first declaration that repeats an earlier one. -/
def firstRepeated? : List String → List ControlDecl → Option String
  | _, [] => none
  | seen, c :: rest => if c.id ∈ seen then some c.id else firstRepeated? (c.id :: seen) rest

/-- What is wrong with the chain of control nodes around one. -/
inductive ChainFault where
  /-- The chain has no end. -/
  | cyclic
  /-- The chain leads to an id that is not declared. -/
  | undeclared (id : String)
  deriving DecidableEq, Repr

/-- The declarations from the one with the given id outwards, over at most the given number of
steps. A chain that needs more steps than there are declarations comes back to one of them. -/
def chainWithin (controls : List ControlDecl) :
    Nat → String → Except ChainFault (List ControlDecl)
  | 0, _ => .error .cyclic
  | steps + 1, id =>
    match controls.find? (·.id = id) with
    | none => .error (.undeclared id)
    | some c =>
      match c.parent with
      | none => .ok [c]
      | some parent =>
        match chainWithin controls steps parent with
        | .error fault => .error fault
        | .ok chain => .ok (c :: chain)

/-- The declarations from the one with the given id outwards. -/
def chain (controls : List ControlDecl) (id : String) : Except ChainFault (List ControlDecl) :=
  chainWithin controls (controls.length + 1) id

/-- The refusal for a faulty chain that starts at the declaration `c`. -/
def ChainFault.toError (c : ControlDecl) : ChainFault → Refusal
  | .cyclic => .cyclicControlChain ("#" ++ c.id)
  | .undeclared id => .unregisteredNode ("#" ++ id)

/-- The chains of all declarations, if none is repeated and every chain ends. -/
def chains (controls : List ControlDecl) : Except Refusal (List (List ControlDecl)) :=
  match firstRepeated? [] controls with
  | some id => .error (.duplicateControl id)
  | none => controls.mapM fun c => (chain controls c.id).mapError (ChainFault.toError c)

/-- Issues the control node of a declaration. -/
def issue (issued : Issued) (c : ControlDecl) : Update Body Issued := do
  let id ← Body.control (c.parent.bind issued.get?) c.branch
  return issued ++ [(c.id, id)]

/-- How issuing control nodes can break down. -/
inductive Crash where
  /-- An id was looked up that is not declared. -/
  | panicked (id : String)
  /-- The steps were used up. -/
  | exhausted
  deriving DecidableEq, Repr

/-- The declarations from the one with the given id outwards, up to the first one that has its
control node, over at most the given number of steps. -/
def gatherWithin (controls : List ControlDecl) (issued : Issued) :
    Nat → Option String → Except Crash (List ControlDecl)
  | _, none => .ok []
  | 0, some _ => .error .exhausted
  | steps + 1, some id =>
    if (issued.get? id).isSome then .ok []
    else
      match controls.find? (·.id = id) with
      | none => .error (.panicked id)
      | some c =>
        match gatherWithin controls issued steps c.parent with
        | .error crash => .error crash
        | .ok pending => .ok (c :: pending)

/-- The declarations from the one with the given id outwards that have no control nodes yet. -/
def gather (controls : List ControlDecl) (issued : Issued) (id : String) :
    Except Crash (List ControlDecl) :=
  gatherWithin controls issued (controls.length + 1) (some id)

/-- Issues the control nodes of some declarations one after the other, each after those around it
that are missing. -/
def issueEach (controls : List ControlDecl) :
    List ControlDecl → Issued → Body → Except Crash (EStateM.Result Refusal Body Issued)
  | [], issued, b => .ok (.ok issued b)
  | c :: rest, issued, b =>
    match gather controls issued c.id with
    | .error crash => .error crash
    | .ok pending =>
      match pending.reverse.foldlM issue issued b with
      | .error e b => .ok (.error e b)
      | .ok issued b => issueEach controls rest issued b

/-- Where a chain ends, as much of it is gathered as has no control nodes. -/
theorem gatherWithin_ok {controls steps id chain} (h : chainWithin controls steps id = .ok chain)
    (issued : Issued) :
    gatherWithin controls issued steps (some id) =
      .ok (chain.takeWhile fun c => (issued.get? c.id).isNone) := by
  -- both walks look up the same ids, and the second one may stop earlier
  induction steps generalizing id chain with
  | zero => cases h
  | succ steps ih =>
    rw [chainWithin] at h
    rw [gatherWithin]
    cases found : controls.find? (·.id = id) with
    | none =>
      rw [found] at h
      cases h
    | some c =>
      have same : c.id = id := by simpa using List.find?_some found
      subst same
      obtain ⟨rest, rfl, around⟩ : ∃ rest, chain = c :: rest ∧
          gatherWithin controls issued steps c.parent =
            .ok (rest.takeWhile fun c => (issued.get? c.id).isNone) := by
        cases hparent : c.parent with
        | none =>
          simp only [found, hparent] at h
          cases h
          exact ⟨[], rfl, by rw [gatherWithin]; rfl⟩
        | some parent =>
          simp only [found, hparent] at h
          cases outer : chainWithin controls steps parent with
          | error fault =>
            rw [outer] at h
            cases h
          | ok rest =>
            rw [outer] at h
            cases h
            exact ⟨rest, rfl, ih outer⟩
      rw [List.takeWhile_cons]
      cases issued.get? c.id with
      | some node => rfl
      | none => simp [around]

/-- All items of a list are mapped if the list is. -/
theorem mapM_mem {ε α β : Type} {f : α → Except ε β} {items : List α} {bs}
    (h : items.mapM f = .ok bs) : ∀ a ∈ items, ∃ b, f a = .ok b := by
  induction items generalizing bs with
  | nil => exact fun _ mem => absurd mem List.not_mem_nil
  | cons a items ih =>
    rw [List.mapM_cons] at h
    cases ha : f a with
    | error e =>
      rw [ha] at h
      cases h
    | ok b =>
      rw [ha] at h
      cases hitems : items.mapM f with
      | error e =>
        rw [hitems] at h
        cases h
      | ok bs' => exact List.forall_mem_cons.2 ⟨⟨b, ha⟩, ih hitems⟩

/-- Declarations that were looked at have chains. -/
theorem chains_chain {controls cs} (h : chains controls = .ok cs) {c} (mem : c ∈ controls) :
    ∃ found, chain controls c.id = .ok found := by
  unfold chains at h
  split at h
  · cases h
  · obtain ⟨found, hfound⟩ := mapM_mem h c mem
    cases hchain : chain controls c.id with
    | error fault =>
      rw [hchain] at hfound
      cases hfound
    | ok found => exact ⟨found, rfl⟩

/-- Issuing control nodes does not break down once all declarations were looked at. -/
theorem issueEach_ne_error {controls cs} (h : chains controls = .ok cs) {rest}
    (sub : rest ⊆ controls) (issued : Issued) (b : Body) (crash : Crash) :
    issueEach controls rest issued b ≠ .error crash := by
  induction rest generalizing issued b with
  | nil => exact nofun
  | cons c rest ih =>
    obtain ⟨found, hfound⟩ := chains_chain h (sub (List.mem_cons_self ..))
    rw [issueEach, gather, gatherWithin_ok hfound issued]
    simp only
    split
    · exact nofun
    · exact ih (fun d mem => sub (List.mem_cons_of_mem c mem)) _ _

/-- Issues all declared control nodes. -/
def issueControls (controls : List ControlDecl) : Update Body Issued := fun b =>
  match valid : chains controls with
  | .error e => .error e b
  | .ok _ =>
    match run : issueEach controls controls [] b with
    | .ok result => result
    | .error crash =>
      absurd run (issueEach_ne_error valid (List.Subset.refl controls) [] b crash)

end InfoFlow.Facts
