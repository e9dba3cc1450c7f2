import InfoFlow.Proofs.Taint.Exactness
import InfoFlow.Proofs.Taint.Witness

/-!
# Leaks

A leak is a channel with taint that is not a seed itself. Since the tags, the order of discovery and
the seeds belong together, the leaks can be read off the tags alone (`Taint.leaks_eq`).
`Taint.mem_leaks` says which leaks there are, in terms of paths in the graph, and
`Taint.leaks_nodup` that no channel leaks twice.
-/

namespace InfoFlow

namespace Taint

/-- The seeds are the nodes whose taint came from nowhere. -/
lemma mem_seeds {t : Taint} {tag} (mem : tag ∈ t.tags) : tag.node ∈ t.seeds ↔ tag.via = none := by
  rw [t.coherent.seeds]
  constructor
  · rintro ⟨u, hu, same, seed⟩
    rw [Tag.unique t.coherent.distinct mem hu same.symm]
    exact seed
  · intro seed
    exact ⟨tag, mem, rfl, seed⟩

/-- Looking up the nodes in the order of discovery finds the tag of each of them. -/
lemma tainted_eq (t : Taint) : t.tainted = t.tags.map fun tag => (tag.node, tag.kind) := by
  unfold tainted
  rw [t.coherent.order, List.filterMap_map, ← List.filterMap_eq_map]
  apply List.filterMap_congr
  intro tag mem
  show (t.kindOf? tag.node).map _ = _
  rw [kindOf?_eq_some.2 ⟨tag, mem, rfl, rfl⟩]
  rfl

/-- There are as many nodes with taint as there are tags. -/
lemma length_tainted (t : Taint) : t.tainted.length = t.tags.length := by
  rw [tainted_eq, List.length_map]

/-- The leak that a tag shows: seeds and nodes that are no channel show none. -/
def shown? (t : Taint) (tag : Tag) : Option Leak :=
  match tag.via with
  | none => none
  | some _ => t.leak? tag.node tag.kind

/-- The leaks are those that the tags show. -/
lemma leaks_eq (t : Taint) : t.leaks = t.tags.filterMap t.shown? := by
  unfold leaks
  rw [tainted_eq, List.filter_map, List.filterMap_map, List.filterMap_filter]
  apply List.filterMap_congr
  intro tag mem
  simp only [Function.comp_apply, mem_seeds mem, decide_not, Bool.not_eq_true',
    decide_eq_false_iff_not]
  unfold shown?
  cases tag.via with
  | none => simp
  | some before => simp

/-- The tags that show a leak are those of channels that came from somewhere. -/
lemma shown?_eq_some {t : Taint} {tag leak} :
    t.shown? tag = some leak ↔
      ∃ before c, tag.via = some before ∧ tag.node = .boundary c ∧ c.isChannel = true ∧
        leak = ⟨c, tag.kind, t.witness tag.node⟩ := by
  obtain ⟨n, kind, via⟩ := tag
  cases via with
  | none => exact ⟨nofun, nofun⟩
  | some before =>
    cases n with
    | var id => exact ⟨nofun, nofun⟩
    | control id => exact ⟨nofun, nofun⟩
    | boundary c =>
      unfold shown? leak?
      simp only
      split
      case isTrue channel =>
        refine ⟨fun h => ?_, fun h => ?_⟩
        · cases h
          exact ⟨before, c, rfl, rfl, channel, rfl⟩
        · obtain ⟨_, c', -, e, -, rfl⟩ := h
          cases e
          rfl
      case isFalse closed =>
        refine ⟨nofun, fun h => ?_⟩
        obtain ⟨_, c', -, e, channel, -⟩ := h
        cases e
        exact absurd channel closed

/-- The channels of the leaks are among the tagged nodes, in the same order. -/
lemma leaks_sublist (t : Taint) (tags : List Tag) :
    ((tags.filterMap t.shown?).map fun leak => Node.boundary leak.channel).Sublist
      (tags.map Tag.node) := by
  induction tags with
  | nil => exact .slnil
  | cons tag tags ih =>
    cases h : t.shown? tag with
    | none =>
      rw [List.filterMap_cons_none h, List.map_cons]
      exact ih.cons tag.node
    | some leak =>
      obtain ⟨_, c, -, hnode, -, rfl⟩ := shown?_eq_some.1 h
      rw [List.filterMap_cons_some h, List.map_cons, List.map_cons, hnode]
      exact ih.cons_cons (.boundary c)

/-- No channel leaks twice. -/
lemma leaks_nodup (g : Graph) (seeds : List Node) :
    ((ofSeeds g seeds).leaks.map Leak.channel).Nodup := by
  have nodup := (ofSeeds_grown g seeds).nodup.sublist (leaks_sublist (ofSeeds g seeds) _)
  rw [← leaks_eq] at nodup
  have e : (fun leak => Node.boundary leak.channel) = Node.boundary ∘ Leak.channel := rfl
  rw [e, ← List.map_map] at nodup
  exact nodup.of_map

/-- The tags that came from nowhere are those of the seeds. -/
lemma via_eq_none {g seeds tag} (mem : tag ∈ (ofSeeds g seeds).tags) :
    tag.via = none ↔ tag.node ∈ seeds ∧ tag.node ≠ .boundary .statics := by
  have grown := ofSeeds_grown g seeds
  refine ⟨fun h => ?_, fun h => ?_⟩
  · cases grown.reason tag mem with
    | seed hs ne => exact ⟨hs, ne⟩
    | data => cases h
    | control => cases h
  · have e := Tag.unique grown.nodup mem (ofSeeds_seed h.1 h.2) rfl
    rw [e]

/-- A channel leaks if it has taint and is no seed. -/
lemma mem_leaks {g seeds c kind} :
    (∃ leak ∈ (ofSeeds g seeds).leaks, leak.channel = c ∧ leak.kind = kind) ↔
      c ≠ .source ∧ ¬ (.boundary c ∈ seeds ∧ c ≠ .statics) ∧
        ∃ tag ∈ (ofSeeds g seeds).tags, tag.node = .boundary c ∧ tag.kind = kind := by
  have channel : c.isChannel = true ↔ c ≠ .source := by
    cases c with
    | source => exact ⟨nofun, fun h => absurd rfl h⟩
    | _ => exact ⟨fun _ => nofun, fun _ => rfl⟩
  have statics : Node.boundary c ≠ .boundary .statics ↔ c ≠ .statics := by
    rw [ne_eq, Node.boundary.injEq]
  refine ⟨fun h => ?_, fun h => ?_⟩
  · obtain ⟨leak, mem, rfl, rfl⟩ := h
    rw [leaks_eq] at mem
    obtain ⟨tag, htag, found⟩ := List.mem_filterMap.1 mem
    obtain ⟨before, c, hvia, hnode, hc, rfl⟩ := shown?_eq_some.1 found
    refine ⟨channel.1 hc, fun seed => ?_, tag, htag, hnode, rfl⟩
    have none := (via_eq_none htag).2 (by rw [hnode, statics]; exact seed)
    rw [hvia] at none
    cases none
  · obtain ⟨hc, notSeed, tag, htag, hnode, hkind⟩ := h
    cases hvia : tag.via with
    | none =>
      have seed := (via_eq_none htag).1 hvia
      rw [hnode, statics] at seed
      exact absurd seed notSeed
    | some before =>
      have found := (shown?_eq_some (t := ofSeeds g seeds)).2
        ⟨before, c, hvia, hnode, channel.2 hc, rfl⟩
      rw [leaks_eq]
      exact ⟨_, List.mem_filterMap.2 ⟨tag, htag, found⟩, rfl, hkind⟩

end Taint

end InfoFlow
