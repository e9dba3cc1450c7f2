/-!
# Lists as sets and as tables

`List.eraseDups` keeps the first occurrences of a list, and `eraseDups_snoc` is how they grow at the
end of it. A table is a list of keys with their rows, which `List.lookup` reads and `pushAt`
changes; `lookup_rows` and `pushAt_rows` say what they do where the row of a key is given by a
function.
-/

namespace InfoFlow

variable {α β κ : Type}

/-- A new element at the end is no repetition. -/
theorem nodup_snoc {l : List α} {a} (nodup : l.Nodup) (fresh : a ∉ l) : (l ++ [a]).Nodup := by
  rw [List.nodup_append]
  refine ⟨nodup, by simp, fun b mem c last same => ?_⟩
  cases List.mem_singleton.1 last
  exact fresh (same ▸ mem)

/-- Elements with the same key are the same if the keys are distinct. -/
theorem eq_of_nodup_map {key : α → β} {l : List α} (nodup : (l.map key).Nodup) {a b} (ha : a ∈ l)
    (hb : b ∈ l) (same : key a = key b) : a = b := by
  induction l with
  | nil => cases ha
  | cons c l ih =>
    rw [List.map_cons, List.nodup_cons] at nodup
    cases ha with
    | head =>
      cases hb with
      | head => rfl
      | tail _ hb => exact absurd (List.mem_map.2 ⟨b, hb, same.symm⟩) nodup.1
    | tail _ ha =>
      cases hb with
      | head => exact absurd (List.mem_map.2 ⟨a, ha, same⟩) nodup.1
      | tail _ hb => exact ih nodup.2 ha hb

/-- What is in a place of a list with one more element. -/
theorem getElem?_snoc {l : List α} {a b} {i : Nat} :
    (l ++ [a])[i]? = some b ↔ l[i]? = some b ∨ i = l.length ∧ a = b := by
  rcases Nat.lt_trichotomy i l.length with lt | rfl | gt
  · rw [List.getElem?_append_left lt]
    exact ⟨.inl, fun h => h.resolve_right fun last => Nat.ne_of_lt lt last.1⟩
  · rw [List.getElem?_concat_length]
    simp
  · rw [List.getElem?_eq_none (by rw [List.length_append]; exact gt),
      List.getElem?_eq_none (Nat.le_of_lt gt)]
    simp [Nat.ne_of_gt gt]

/-- Induction over a list that grows at its end. -/
theorem snocInduct {P : List α → Prop} (nil : P []) (snoc : ∀ l a, P l → P (l ++ [a]))
    (l : List α) : P l := by
  suffices h : ∀ r : List α, P r.reverse by
    rw [← List.reverse_reverse l]
    exact h l.reverse
  intro r
  induction r with
  | nil => exact nil
  | cons a r ih =>
    rw [List.reverse_cons]
    exact snoc _ a ih

section FirstOccurrences

variable [BEq α] [LawfulBEq α] {l : List α}

/-- An element at the end is a first occurrence if it is new. -/
theorem eraseDups_snoc {a} :
    (l ++ [a]).eraseDups = if a ∈ l then l.eraseDups else l.eraseDups ++ [a] := by
  rw [List.eraseDups_append]
  unfold List.removeAll
  split
  case isTrue mem => simp [mem]
  case isFalse fresh => simp [fresh, List.eraseDups_cons]

/-- First occurrences are not repeated. -/
theorem nodup_eraseDups (l : List α) : l.eraseDups.Nodup := by
  induction l using snocInduct with
  | nil => exact .nil
  | snoc l a ih =>
    rw [eraseDups_snoc]
    split
    case isTrue => exact ih
    case isFalse fresh => exact nodup_snoc ih fun mem => fresh (List.mem_eraseDups.1 mem)

/-- A list without repetition consists of first occurrences. -/
theorem eraseDups_of_nodup (nodup : l.Nodup) : l.eraseDups = l := by
  induction l with
  | nil => rfl
  | cons a l ih =>
    obtain ⟨fresh, nodup⟩ := List.nodup_cons.1 nodup
    have rest : l.filter (fun b => !b == a) = l := by
      rw [List.filter_eq_self]
      intro b mem
      have ne : b ≠ a := fun same => fresh (same ▸ mem)
      simpa using ne
    rw [List.eraseDups_cons, rest, ih nodup]

end FirstOccurrences

section Tables

variable [BEq κ] [LawfulBEq κ]

/-- The table with one more item in the row of a key, which is opened if there is none. -/
def pushAt (key : κ) (item : α) : List (κ × List α) → List (κ × List α)
  | [] => [(key, [item])]
  | (k, row) :: rest =>
    if k == key then (k, row ++ [item]) :: rest else (k, row) :: pushAt key item rest

/-- Looking up a key finds its row. -/
theorem lookup_rows {β : Type} {row : κ → β} {keys : List κ} {key} :
    (keys.map fun k => (k, row k)).lookup key = if key ∈ keys then some (row key) else none := by
  induction keys with
  | nil => rfl
  | cons k keys ih =>
    rw [List.map_cons, List.lookup_cons]
    by_cases same : key = k
    · subst same
      simp
    · have other : (key == k) = false := by simpa using same
      simp only [other, ih, List.mem_cons, same, false_or]

/-- One more item in the row of a key leaves the other rows as they are. -/
theorem pushAt_rows {row row' : κ → List α} {keys : List κ} {key item} (nodup : keys.Nodup)
    (grown : row' key = row key ++ [item]) (others : ∀ k, k ≠ key → row' k = row k)
    (closed : key ∉ keys → row key = []) :
    pushAt key item (keys.map fun k => (k, row k)) =
      (if key ∈ keys then keys else keys ++ [key]).map fun k => (k, row' k) := by
  induction keys with
  | nil => simp [pushAt, grown, closed]
  | cons k keys ih =>
    obtain ⟨fresh, nodup⟩ := List.nodup_cons.1 nodup
    rw [List.map_cons, pushAt]
    by_cases same : k = key
    · subst same
      have rest : (keys.map fun k => (k, row k)) = keys.map fun k => (k, row' k) := by
        refine List.map_congr_left fun k' mem => ?_
        rw [others k' fun same => fresh (same ▸ mem)]
      simp [grown, rest]
    · have other : (k == key) = false := by simpa using same
      have closed' : key ∉ keys → row key = [] := fun none => closed (by simp [Ne.symm same, none])
      rw [other, if_neg (by decide), ih nodup closed']
      by_cases mem : key ∈ keys
      · simp [mem, others k same]
      · simp [mem, Ne.symm same, others k same]

end Tables

end InfoFlow
