import Mathlib.Data.List.Forall2
import Mathlib.Data.List.Induction
import Mathlib.Data.List.Nodup
import Mathlib.Data.List.Perm.Subperm
import InfoFlow.Listing

/-!
# Lists as tables and as sets

Registries, tags and issued control nodes are lists whose entries have distinct keys. `find?_key`
looks such a table up, and `length_le_of_rel` compares two of them: a list without repetition whose
entries go to distinct entries of another list is not longer. `flatMap_filter_perm` sorts a list by
the keys of its entries.

`List.eraseDups` keeps the first occurrences. `eraseDups_snoc` is how it grows at the end, and from
it follows what it does to the lists that are derived from another one.
-/

namespace InfoFlow

variable {α β κ : Type}

/-- Looking up a table with distinct keys finds the entry with the key. -/
lemma find?_key [DecidableEq κ] {key : α → κ} {table : List α} (nodup : (table.map key).Nodup)
    {k a} : table.find? (fun a => key a = k) = some a ↔ a ∈ table ∧ key a = k := by
  constructor
  · intro h
    exact ⟨List.mem_of_find?_eq_some h, by simpa using List.find?_some h⟩
  · rintro ⟨mem, rfl⟩
    cases found : table.find? (fun a' => key a' = key a) with
    | none =>
      rw [List.find?_eq_none] at found
      exact absurd (decide_eq_true rfl) (found a mem)
    | some a' =>
      have mem' := List.mem_of_find?_eq_some found
      have same : key a' = key a := by simpa using List.find?_some found
      rw [List.inj_on_of_nodup_map nodup mem' mem same]

/-- A key is missing if no row has it. -/
lemma find?_key_none [DecidableEq κ] {key : α → κ} {table : List α} {k} :
    table.find? (fun a => key a = k) = none ↔ k ∉ table.map key := by
  simp

/-- Looking up a table whose values are replaced. -/
lemma lookup_map_snd [BEq κ] (table : List (κ × α)) {f : α → β} {k} :
    (table.map fun entry => (entry.1, f entry.2)).lookup k = (table.lookup k).map f := by
  induction table with
  | nil => rfl
  | cons entry table ih =>
    rw [List.map_cons, List.lookup_cons, List.lookup_cons]
    cases k == entry.1 with
    | true => rfl
    | false => exact ih

/-- A list that starts with another one has its entries in the same places. -/
lemma getElem?_mono {l l' : List α} (h : l <+: l') {i : Nat} {a} (found : l[i]? = some a) :
    l'[i]? = some a := by
  obtain ⟨more, rfl⟩ := h
  obtain ⟨lt, -⟩ := List.getElem?_eq_some_iff.1 found
  rw [List.getElem?_append_left lt]
  exact found

/-- The first element of a list gives at most one result. -/
lemma filterMap_first {f : α → Option β} {a} {l : List α} :
    (a :: l).filterMap f = (f a).toList ++ l.filterMap f := by
  cases h : f a with
  | none => rw [List.filterMap_cons_none h, Option.toList_none, List.nil_append]
  | some b => rw [List.filterMap_cons_some h, Option.toList_some, List.singleton_append]

/-- One more element at the end gives at most one more result. -/
lemma filterMap_snoc {f : α → Option β} {l : List α} {a} :
    (l ++ [a]).filterMap f = l.filterMap f ++ (f a).toList := by
  rw [List.filterMap_append, filterMap_first, List.filterMap_nil, List.append_nil]

/-- A list has labels if and only if every item has one. -/
lemma exists_forall₂ {reads : α → β → Prop} {items : List α} :
    (∃ bs, List.Forall₂ reads items bs) ↔ ∀ a ∈ items, ∃ b, reads a b := by
  induction items with
  | nil => exact ⟨fun _ => nofun, fun _ => ⟨[], .nil⟩⟩
  | cons a items ih =>
    rw [List.forall_mem_cons, ← ih]
    refine ⟨fun h => ?_, fun h => ?_⟩
    · obtain ⟨bs, all⟩ := h
      cases all with
      | @cons _ b _ bs hb hbs => exact ⟨⟨b, hb⟩, bs, hbs⟩
    · obtain ⟨⟨b, hb⟩, bs, hbs⟩ := h
      exact ⟨b :: bs, .cons hb hbs⟩

/-- Related lists look the same through functions that do not tell related elements apart. -/
lemma map_eq_of_rel {R : α → β → Prop} {f : α → κ} {g : β → κ}
    (same : ∀ a b, R a b → f a = g b) {l l'} (h : List.Forall₂ R l l') : l.map f = l'.map g := by
  have images := List.rel_map (P := Eq) same h
  rw [List.forall₂_eq_eq_eq] at images
  exact images

/-- Matched lists stay matched when matched elements are added to both, unless they are there. -/
lemma rel_addNew [DecidableEq α] [DecidableEq β] {R : α → β → Prop} (unique : Relator.BiUnique R)
    {l l'} (h : List.Forall₂ R l l') {a b} (hab : R a b) :
    List.Forall₂ R (if a ∈ l then l else l ++ [a]) (if b ∈ l' then l' else l' ++ [b]) := by
  have same : a ∈ l ↔ b ∈ l' := List.rel_mem unique hab h
  by_cases old : a ∈ l
  · rw [if_pos old, if_pos (same.1 old)]
    exact h
  · rw [if_neg old, if_neg (mt same.2 old)]
    exact List.rel_append h (.cons hab .nil)

/-- A list without repetition whose entries go to distinct entries of another list is not longer. -/
lemma length_le_of_rel {R : α → β → Prop} {l : List α} {l' : List β} (nodup : l.Nodup)
    (total : ∀ a ∈ l, ∃ b ∈ l', R a b)
    (injective : ∀ {a a' b}, R a b → R a' b → a = a') : l.length ≤ l'.length := by
  classical
  -- the entry that the first one goes to is taken out for the rest
  induction l generalizing l' with
  | nil => exact Nat.zero_le _
  | cons a l ih =>
    rw [List.nodup_cons] at nodup
    obtain ⟨b, hb, hab⟩ := total a (List.mem_cons_self ..)
    have rest : ∀ a' ∈ l, ∃ b' ∈ l'.erase b, R a' b' := by
      intro a' ha'
      obtain ⟨b', hb', hab'⟩ := total a' (List.mem_cons_of_mem _ ha')
      have ne : b' ≠ b := by
        rintro rfl
        exact nodup.1 (injective hab' hab ▸ ha')
      exact ⟨b', (List.mem_erase_of_ne ne).2 hb', hab'⟩
    have le := ih nodup.2 rest
    rw [List.length_erase_of_mem hb] at le
    have pos := List.length_pos_of_mem hb
    rw [List.length_cons]
    omega

/-- Sorting a list by keys rearranges it. -/
lemma flatMap_filter_perm [DecidableEq κ] {key : α → κ} {keys : List κ} {l : List α}
    (nodup : keys.Nodup) (all : ∀ a ∈ l, key a ∈ keys) :
    (keys.flatMap fun k => l.filter fun a => key a = k).Perm l := by
  induction keys generalizing l with
  | nil =>
    have none : l = [] := List.eq_nil_iff_forall_not_mem.2 fun a mem => List.not_mem_nil (all a mem)
    rw [none]
    exact .nil
  | cons k keys ih =>
    rw [List.nodup_cons] at nodup
    -- what has the first key is taken out for the other ones
    have rest : ∀ k' ∈ keys, (l.filter fun a => key a = k') =
        (l.filter fun a => !decide (key a = k)).filter fun a => key a = k' := by
      intro k' hk'
      rw [List.filter_filter]
      refine List.filter_congr fun a _ => ?_
      by_cases same : key a = k'
      · have other : key a ≠ k := by
          rintro rfl
          exact nodup.1 (same ▸ hk')
        simp [same, same ▸ other]
      · simp [same]
    have all' : ∀ a ∈ l.filter fun a => !decide (key a = k), key a ∈ keys := by
      intro a mem
      obtain ⟨mem, other⟩ := List.mem_filter.1 mem
      exact (List.mem_cons.1 (all a mem)).resolve_left (by simpa using other)
    rw [List.flatMap_cons, List.flatMap_congr rest]
    exact ((ih nodup.2 all').append_left _).trans (List.filter_append_perm _ l)

/-- A list can be cut at the first occurrence of an element in one way only. -/
lemma cut_unique {c : α} {l l' r r' : List α} (fresh : c ∉ l) (fresh' : c ∉ l')
    (h : l ++ c :: r = l' ++ c :: r') : l = l' ∧ r = r' := by
  induction l generalizing l' with
  | nil =>
    cases l' with
    | nil => exact ⟨rfl, (List.cons.inj h).2⟩
    | cons d l' =>
      cases h
      exact absurd (List.mem_cons_self ..) fresh'
  | cons d l ih =>
    cases l' with
    | nil =>
      cases h
      exact absurd (List.mem_cons_self ..) fresh
    | cons d' l' =>
      obtain ⟨rfl, rest⟩ := List.cons.inj h
      rw [List.mem_cons, not_or] at fresh fresh'
      obtain ⟨rfl, rfl⟩ := ih fresh.2 fresh'.2 rest
      exact ⟨rfl, rfl⟩

section FirstOccurrences

variable [BEq α] [LawfulBEq α] [BEq β] [LawfulBEq β] {l : List α}

/-- A map that keeps elements apart keeps first occurrences. -/
lemma filterMap_eraseDups {g : α → Option β}
    (injective : ∀ {a a' b}, g a = some b → g a' = some b → a = a') :
    l.eraseDups.filterMap g = (l.filterMap g).eraseDups := by
  induction l using List.reverseRecOn with
  | nil => rfl
  | append_singleton l a ih =>
    rw [eraseDups_snoc, List.filterMap_append, List.filterMap_cons, List.filterMap_nil]
    cases ha : g a with
    | none =>
      rw [List.append_nil, ← ih]
      split
      case isTrue => rfl
      case isFalse => simp [ha]
    | some b =>
      have same : b ∈ l.filterMap g ↔ a ∈ l := by
        rw [List.mem_filterMap]
        refine ⟨fun h => ?_, fun mem => ⟨a, mem, ha⟩⟩
        obtain ⟨a', mem, ha'⟩ := h
        rw [injective ha ha']
        exact mem
      simp only [eraseDups_snoc, same, ← ih]
      split
      case isTrue => rfl
      case isFalse => simp [ha]

/-- Which elements are removed depends on the members of a list alone. -/
lemma removeAll_congr {l' xs : List α} (same : ∀ a, a ∈ l ↔ a ∈ l') :
    xs.removeAll l = xs.removeAll l' := by
  unfold List.removeAll
  refine List.filter_congr fun a _ => ?_
  rw [Bool.eq_iff_iff]
  simp [same]

/-- An element that occurs again adds nothing to the first occurrences. -/
lemma flatMap_eraseDups {f : α → List β} :
    (l.eraseDups.flatMap f).eraseDups = (l.flatMap f).eraseDups := by
  induction l using List.reverseRecOn with
  | nil => rfl
  | append_singleton l a ih =>
    rw [eraseDups_snoc, List.flatMap_append, List.flatMap_singleton]
    split
    case isTrue mem =>
      have old : ∀ b ∈ f a, b ∈ l.flatMap f := fun b hb => List.mem_flatMap.2 ⟨a, mem, hb⟩
      have nothing : (f a).removeAll (l.flatMap f) = [] := by
        unfold List.removeAll
        rw [List.filter_eq_nil_iff]
        intro b hb
        simp only [List.elem_eq_mem, old b hb]
        decide
      rw [ih, List.eraseDups_append, nothing, List.eraseDups_nil, List.append_nil]
    case isFalse =>
      have same : ∀ b, b ∈ l.eraseDups.flatMap f ↔ b ∈ l.flatMap f := by
        intro b
        simp only [List.mem_flatMap, List.mem_eraseDups]
      rw [List.flatMap_append, List.flatMap_singleton, List.eraseDups_append, ih,
        List.eraseDups_append, removeAll_congr same]

end FirstOccurrences

end InfoFlow
