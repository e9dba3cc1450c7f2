import Mathlib.Logic.Equiv.Basic
import InfoFlow.Proofs.Facts.Refusals
import InfoFlow.Proofs.Facts.Renumbering
import InfoFlow.Proofs.Taint.Matching
import InfoFlow.Proofs.Verdict.Findings

/-!
# The numbers of bodies

Bodies are numbered in the order in which the work on them is started, so the numbers depend on how
it is shared out. They are needed to tell the nodes of bodies apart, but outcomes do not depend on
them: a body and the renumbered body have matched nodes with the same texts (`Body.Shown`), so their
reports are equal (`Body.report_renumber`), and facts are refused without mention of a number.
-/

namespace InfoFlow

variable {π : Nat → Nat}

/-- Leaks that are matched by nodes with the same texts are told by the same findings. -/
lemma Finding.map_ofLeak {R : Node → Node → Prop} {r r' : Registry}
    (texts : ∀ n n', R n n' → r.display n = r'.display n') {leaks leaks' : List Leak}
    (h : List.Forall₂ (Leak.Matched R) leaks leaks') :
    leaks.map (Finding.ofLeak r) = leaks'.map (Finding.ofLeak r') := by
  apply map_eq_of_rel _ h
  intro leak leak' matched
  unfold Finding.ofLeak
  rw [matched.channel, matched.kind, map_eq_of_rel texts matched.witness]

/-- A node of a body, and the node in the renumbered body, which has the same text. -/
def Body.Shown (π : Nat → Nat) (b : Body) (n n' : Node) : Prop :=
  n' = n.renumber π ∧ (b.registry.renumber π).display n' = b.registry.display n

namespace Body

/-- Nodes and their renumbered ones can stand for each other in a propagation. -/
lemma shown_matching (inj : Function.Injective π) (b : Body) : Matching (Shown π b) where
  unique := by
    refine ⟨fun m n n' hm hn => ?_, fun m n n' hn hn' => ?_⟩
    · exact Node.renumber_injective inj (hm.1.symm.trans hn.1)
    · exact hn.1.trans hn'.1.symm
  boundary? := by
    intro n n' hn
    rw [hn.1, Node.boundary?_renumber]

/-- A node that can be used is shown as the renumbered one. -/
lemma shown_of_check (inj : Function.Injective π) {b : Body} {n}
    (known : b.registry.check n = .ok ()) : Shown π b n (n.renumber π) :=
  ⟨rfl, Registry.display_renumber inj known⟩

/-- The reports on a body and on the renumbered one are the same for matched taint. -/
lemma report_renumber (inj : Function.Injective π) {b : Body} {t t' : Taint}
    (tags : List.Forall₂ (Tag.Matched (Shown π b)) t.tags t'.tags) :
    (b.renumber π).report t' = b.report t := by
  have findings := Finding.map_ofLeak (fun _ _ shown => shown.2.symm)
    ((shown_matching inj b).leaks tags)
  have edgeCount : ∀ kind, (b.graph.renumber π).edgeCount kind = b.graph.edgeCount kind := by
    intro kind
    rw [Graph.edgeCount_eq, Graph.edgeCount_eq, Graph.edges_renumber inj, List.countP_map]
    rfl
  have controls : (b.registry.renumber π).controls.length = b.registry.controls.length :=
    List.length_map _
  unfold report renumber
  simp only [findings, edgeCount, controls, Taint.length_tainted, tags.length_eq]
  rfl

/-- The taint in a body and in the renumbered one is matched, if all nodes can be used. -/
lemma ofSeeds_renumber (inj : Function.Injective π) {b : Body} {seeds : List Node}
    (edges : ∀ e ∈ b.graph.edges,
      b.registry.check e.source = .ok () ∧ b.registry.check e.target = .ok ())
    (marks : ∀ n ∈ seeds, b.registry.check n = .ok ()) :
    List.Forall₂ (Tag.Matched (Shown π b)) (Taint.ofSeeds b.graph seeds).tags
      (Taint.ofSeeds (b.renumber π).graph (seeds.map (Node.renumber π))).tags := by
  apply (shown_matching inj b).ofSeeds
  · rw [Body.renumber, Graph.edges_renumber inj]
    refine List.forall₂_map_right_iff.2 (List.forall₂_same.2 fun e mem => ?_)
    obtain ⟨source, target⟩ := edges e mem
    exact ⟨shown_of_check inj source, shown_of_check inj target, rfl⟩
  · exact List.forall₂_map_right_iff.2
      (List.forall₂_same.2 fun n mem => shown_of_check inj (marks n mem))

/-- The body of some facts is analysed alike, whatever number it has. -/
lemma analyze_renumber (inj : Function.Injective π) {f : BodyFacts} {unit b}
    (h : f.toBody unit = .ok b) : (b.renumber π).analyze = b.analyze := by
  obtain ⟨edges, marks⟩ := BodyFacts.toBody_check h
  cases known : b.declared with
  | none =>
    have unknown : (b.renumber π).declared = none := congrArg (Option.map _) known
    rw [analyze_error known, analyze_error unknown]
    rfl
  | some nodes =>
    have known' : (b.renumber π).declared = some (nodes.map (Node.renumber π)) :=
      congrArg (Option.map _) known
    rw [known, Option.getD_some] at marks
    have seeds : ∀ n ∈ Node.boundary .source :: nodes, b.registry.check n = .ok () := by
      rw [List.forall_mem_cons]
      exact ⟨rfl, marks⟩
    have tags := ofSeeds_renumber inj edges seeds
    rw [analyze_ok.2 ⟨nodes, known, rfl⟩, ← report_renumber inj tags]
    exact analyze_ok.2 ⟨_, known', rfl⟩

end Body

/-- The outcome does not depend on the number of the body. -/
lemma BodyFacts.outcome_renumber (inj : Function.Injective π) (f : BodyFacts) (config : Config)
    (unit : Nat) : f.outcome config (π unit) = f.outcome config unit := by
  unfold outcome
  cases made : f.toBody unit with
  | error e =>
    have made' : f.toBody (π unit) = .error e := toBody_error.2 (toBody_error.1 made)
    rw [made']
  | ok b =>
    have analyzed : (Except.ok (b.renumber π) >>= Body.analyze) =
        ((Except.ok b : Except Refusal Body) >>= Body.analyze) := Body.analyze_renumber inj made
    rw [toBody_renumber inj made, analyzed]

/-- Outcomes do not depend on the numbers that bodies get. The facts of a body have one outcome: the
same status, findings with the same texts in the same order, counts and reason. So whatever numbers
the bodies of a program are given, their outcomes, in the order of the bodies, are those of the
bodies that are numbered one after the other. -/
theorem Facts.outcomes_numbering (config : Config) :
    (∀ (f : BodyFacts) (unit unit' : Nat), f.outcome config unit = f.outcome config unit') ∧
      ∀ (bodies : List BodyFacts) (number : Nat → Nat),
        bodies.mapIdx (fun i f => f.outcome config (number i)) = Facts.outcomes config bodies := by
  have same : ∀ (f : BodyFacts) (unit unit' : Nat),
      f.outcome config unit = f.outcome config unit' := by
    intro f unit unit'
    have swapped := f.outcome_renumber (Equiv.swap unit unit').injective config unit
    rw [Equiv.swap_apply_left] at swapped
    exact swapped.symm
  refine ⟨same, fun bodies number => ?_⟩
  unfold Facts.outcomes
  congr 1
  funext i f
  exact same f _ _

end InfoFlow
