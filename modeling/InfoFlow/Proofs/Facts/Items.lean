import Mathlib.Data.List.Dedup
import Mathlib.Data.List.Induction
import InfoFlow.Facts.Basic
import InfoFlow.Proofs.Facts.Reading
import InfoFlow.Proofs.Listing
import InfoFlow.Registry

/-!
# The items of facts

The facts of a body name nodes in a fixed order, `BodyFacts.items`. Which of these items can be
resolved depends on the declared control nodes alone (`Item.Sound`). For one that cannot, the
refusal may depend on the variables named before it (`Item.offence?`).

`Facts.refusal?` goes through items and gives the first refusal, the one for missing slots
included. `Facts.refusal?_eq_some` and `Facts.refusal?_eq_none` say which items these are if there
are enough slots, `Facts.Fits`. No body occurs here.
-/

namespace InfoFlow

/-- The refusal is for what facts say: it is neither for a node of another body nor for missing
slots. -/
def Refusal.OfFacts : Refusal → Prop
  | .danglingNode _ _ => False
  | .registryFull _ => False
  | _ => True

namespace Facts

/-- An entry of the facts that names a node. -/
inductive Item where
  /-- A reference string: the end of a data edge, the target of a control edge, or a sensitive
  node. -/
  | place (raw : String)
  /-- A reference string where a control edge starts. -/
  | guard (raw : String)
  /-- The position of a sensitive parameter. -/
  | param (index : Int64)
  /-- The name of a variable that is an annotated source or sink. -/
  | var (name : String)
  deriving DecidableEq, Repr

namespace Item

/-- The variable that an item registers. -/
def name? : Item → Option String
  | .place raw =>
    match Reference.parse raw with
    | .ok (.var name) => some name
    | _ => none
  | .guard _ => none
  | .param _ => none
  | .var name => some name

/-- The item can be resolved where `ids` are the declared control nodes. A guard is the id of a
control node, with its mark or, if it does not mean anything else, without. -/
def Sound (ids : List String) : Item → Prop
  | .place raw => Reference.Sound ids raw
  | .guard raw =>
    (∃ id ∈ ids, raw = "#" ++ id) ∨ (raw ∈ ids ∧ Reference.parse raw = .ok (.var raw))
  | .param index => 0 ≤ index.toInt
  | .var _ => True

/-- The refusal of an item that cannot be resolved. The variables `names` were named before it. -/
def offence? (ids names : List String) : Item → Option Refusal
  | .place raw =>
    match Reference.parse raw with
    | .error _ => some (.paramIndexOverflow raw)
    | .ok (.param index) => if index.toInt < 0 then some (.negativeParamIndex index) else none
    | .ok (.control id) => if id ∈ ids then none else some (.unregisteredNode raw)
    | .ok (.boundary _) => none
    | .ok (.var _) => none
  | .guard raw =>
    match Reference.parse raw with
    | .error _ => some (.paramIndexOverflow raw)
    | .ok (.boundary _) => some (.notAControlNode raw)
    | .ok (.param _) => some (.notAControlNode raw)
    | .ok (.control id) => if id ∈ ids then none else some (.unregisteredNode ("#" ++ id))
    | .ok (.var name) =>
      if name ∈ ids then none
      else if name ∈ names then some (.notAControlNode raw)
      else some (.unregisteredNode ("#" ++ name))
  | .param index => if index.toInt < 0 then some (.negativeParamIndex index) else none
  | .var _ => none

/-- A guard is sound if it is a declared control node, with or without a hash sign. -/
lemma guard_sound {ids raw} :
    Sound ids (.guard raw) ↔
      ∃ id ∈ ids,
        Reference.parse raw = .ok (.control id) ∨ Reference.parse raw = .ok (.var id) := by
  refine ⟨fun h => ?_, fun h => ?_⟩
  · rcases h with ⟨id, mem, e⟩ | ⟨mem, e⟩
    · exact ⟨id, mem, .inl (Reference.parse_iff.2 (.control e))⟩
    · exact ⟨raw, mem, .inr e⟩
  · obtain ⟨id, mem, h | h⟩ := h
    · cases Reference.parse_iff.1 h with
      | control e => exact .inl ⟨id, mem, e⟩
    · cases Reference.parse_iff.1 h with
      | var => exact .inr ⟨mem, h⟩

/-- An item can be resolved if it is sound, whatever was named before it. -/
lemma offence?_eq_none {ids names item} : offence? ids names item = none ↔ Sound ids item := by
  cases item with
  | place raw =>
    simp only [offence?, Sound, Reference.sound_iff]
    cases Reference.parse raw with
    | error e => simp
    | ok x => cases x <;> simp
  | guard raw =>
    rw [guard_sound]
    simp only [offence?]
    cases Reference.parse raw with
    | error e => simp
    | ok x =>
      cases x with
      | var name => by_cases mem : name ∈ ids <;> by_cases old : name ∈ names <;> simp [mem, old]
      | _ => simp
  | param index => simp [offence?, Sound]
  | var name => simp [offence?, Sound]

instance (ids : List String) (item : Item) : Decidable (Sound ids item) :=
  decidable_of_iff (offence? ids [] item = none) offence?_eq_none

/-- What is wrong with an item is wrong with the facts. -/
lemma offence?_ofFacts {ids names item e} (h : offence? ids names item = some e) : e.OfFacts := by
  unfold offence? at h
  repeat' split at h
  all_goals cases h
  all_goals trivial

/-- Only for a guard does it matter what was named before. -/
lemma offence?_congr {ids names names' item} (same : ∀ name, name ∈ names ↔ name ∈ names') :
    offence? ids names item = offence? ids names' item := by
  unfold offence?
  simp only [same]

/-- The refusal of an item, also if its variable is new and has no slot. -/
def refusal? (ids names : List String) (item : Item) : Option Refusal :=
  (item.offence? ids names).or
    (match item.name? with
    | none => none
    | some name =>
      if name ∈ names ∨ names.length < Registry.slotLimit then none
      else some (.registryFull .var))

/-- The names after an item. -/
def note (names : List String) (item : Item) : List String :=
  match item.name? with
  | none => names
  | some name => if name ∈ names then names else names ++ [name]

/-- The names after an item are the old ones and its own. -/
lemma mem_note {names item name} :
    name ∈ note names item ↔ name ∈ names ∨ item.name? = some name := by
  unfold note
  cases item.name? with
  | none => simp
  | some name' =>
    simp only [Option.some.injEq]
    split
    case isTrue mem =>
      refine ⟨.inl, fun h => ?_⟩
      cases h with
      | inl h => exact h
      | inr e => subst e; exact mem
    case isFalse => rw [List.mem_append, List.mem_singleton, eq_comm (a := name)]

/-- No name is noted twice. -/
lemma nodup_note {names} (nodup : names.Nodup) (item) : (note names item).Nodup := by
  unfold note
  cases item.name? with
  | none => exact nodup
  | some name =>
    simp only
    split
    case isTrue => exact nodup
    case isFalse fresh => exact nodup_snoc nodup fresh

end Item

/-- The first refusal of a list of items, after the variables `names`. -/
def refusal? (ids : List String) : List String → List Item → Option Refusal
  | _, [] => none
  | names, item :: items => (item.refusal? ids names).or (refusal? ids (item.note names) items)

/-- The first offence among more items is that of the first ones, or else that of the others. -/
lemma refusal?_append {ids names} {items items' : List Item} :
    refusal? ids names (items ++ items') =
      (refusal? ids names items).or (refusal? ids (items.foldl Item.note names) items') := by
  induction items generalizing names with
  | nil => rfl
  | cons item items ih =>
    rw [List.cons_append, refusal?, refusal?, ih, Option.or_assoc, List.foldl_cons]

/-- The first refusal is that of an item after which there is none. -/
lemma refusal?_split {ids names} {items : List Item} {e} :
    refusal? ids names items = some e ↔
      ∃ before item after, items = before ++ item :: after ∧ refusal? ids names before = none ∧
        item.refusal? ids (before.foldl Item.note names) = some e := by
  refine ⟨fun h => ?_, fun h => ?_⟩
  · induction items generalizing names with
    | nil => cases h
    | cons item items ih =>
      rw [refusal?] at h
      cases first : item.refusal? ids names with
      | some e' =>
        rw [first, Option.some_or] at h
        cases h
        exact ⟨[], item, items, rfl, rfl, first⟩
      | none =>
        rw [first, Option.none_or] at h
        obtain ⟨before, item', after, rfl, passed, refused⟩ := ih h
        refine ⟨item :: before, item', after, rfl, ?_, refused⟩
        rw [refusal?, first, Option.none_or]
        exact passed
  · obtain ⟨before, item, after, rfl, passed, first⟩ := h
    rw [refusal?_append, passed, Option.none_or, refusal?, first]
    rfl

/-- The distinct variables that the items name fit into slots. -/
def Fits (items : List Item) : Prop :=
  (items.filterMap Item.name?).dedup.length ≤ Registry.slotLimit

instance (items : List Item) : Decidable (Fits items) :=
  inferInstanceAs (Decidable (_ ≤ _))

/-- The names after some items are the old ones and theirs. -/
lemma mem_names {names} {items : List Item} {name} :
    name ∈ items.foldl Item.note names ↔ name ∈ names ∨ name ∈ items.filterMap Item.name? := by
  induction items generalizing names with
  | nil => simp
  | cons item items ih =>
    rw [List.foldl_cons, ih, Item.mem_note, List.mem_filterMap, List.mem_filterMap, or_assoc]
    simp

/-- No name is noted twice, whatever the items. -/
lemma nodup_names {names} (nodup : names.Nodup) (items : List Item) :
    (items.foldl Item.note names).Nodup := by
  induction items generalizing names with
  | nil => exact nodup
  | cons item items ih => exact ih (Item.nodup_note nodup item)

section Fits

variable {ids : List String} {items items' : List Item}

/-- Distinct variables of items that fit are not too many. -/
lemma Fits.length_le {names : List String} (fits : Fits items) (nodup : names.Nodup)
    (sub : names ⊆ items.filterMap Item.name?) : names.length ≤ Registry.slotLimit := by
  have sub' : names ⊆ (items.filterMap Item.name?).dedup := fun _ mem =>
    List.mem_dedup.2 (sub mem)
  exact Nat.le_trans (List.subperm_of_subset nodup sub').length_le fits

/-- What fits with more items fits without them. -/
lemma Fits.left (fits : Fits (items ++ items')) : Fits items := by
  refine fits.length_le (List.nodup_dedup _) ?_
  intro name mem
  rw [List.filterMap_append]
  exact List.mem_append_left _ (List.mem_dedup.1 mem)

/-- If there are enough slots, an item is refused only if it offends. -/
lemma Fits.refusal?_eq {item} (fits : Fits (items ++ [item])) :
    item.refusal? ids (items.foldl Item.note []) =
      item.offence? ids (items.filterMap Item.name?) := by
  have same : ∀ name, name ∈ items.foldl Item.note [] ↔ name ∈ items.filterMap Item.name? := by
    intro name
    rw [mem_names]
    simp
  have room : ∀ name, item.name? = some name → name ∈ items.foldl Item.note [] ∨
      (items.foldl Item.note []).length < Registry.slotLimit := by
    intro name hname
    by_cases old : name ∈ items.foldl Item.note []
    · exact .inl old
    · right
      -- the new name and the old ones are distinct, and all of them are named
      have le := fits.length_le (nodup_snoc (nodup_names List.nodup_nil items) old) (by
        intro name' mem
        rw [List.mem_append, List.mem_singleton] at mem
        rw [List.filterMap_append, List.mem_append]
        cases mem with
        | inl mem => exact .inl ((same name').1 mem)
        | inr e =>
          subst e
          exact .inr (List.mem_filterMap.2 ⟨item, List.mem_singleton_self _, hname⟩))
      rw [List.length_append, List.length_singleton] at le
      exact le
  unfold Item.refusal?
  rw [Item.offence?_congr same]
  cases hname : item.name? with
  | none => exact Option.or_none
  | some name =>
    simp only [if_pos (room name hname)]
    exact Option.or_none

/-- If there are enough slots, items are not refused if and only if all of them are sound. -/
lemma refusal?_eq_none (fits : Fits items) :
    refusal? ids [] items = none ↔ ∀ item ∈ items, item.Sound ids := by
  induction items using List.reverseRecOn with
  | nil => exact ⟨fun _ => nofun, fun _ => rfl⟩
  | append_singleton items item ih =>
    rw [refusal?_append, Option.or_eq_none_iff, ih fits.left, refusal?, refusal?, Option.or_none,
      fits.refusal?_eq, Item.offence?_eq_none, List.forall_mem_append, List.forall_mem_singleton]

/-- If there are enough slots, the first item that is not sound decides the refusal. -/
lemma refusal?_eq_some (fits : Fits items) {e} :
    refusal? ids [] items = some e ↔
      ∃ before item after, items = before ++ item :: after ∧ (∀ i ∈ before, i.Sound ids) ∧
        item.offence? ids (before.filterMap Item.name?) = some e := by
  rw [refusal?_split]
  refine exists_congr fun before => exists_congr fun item => exists_congr fun after =>
    and_congr_right fun e' => ?_
  subst e'
  rw [List.append_cons] at fits
  rw [refusal?_eq_none fits.left.left, fits.left.refusal?_eq]

end Fits

end Facts

namespace BodyFacts

open Facts

/-- The items of the facts, in the order in which they are resolved. -/
def items (f : BodyFacts) : List Item :=
  (f.data.flatMap fun edge => [.place edge.1, .place edge.2]) ++
    (f.control.flatMap fun edge => [.guard edge.1, .place edge.2]) ++
    (f.sources.getD []).map .var ++ (f.sinks.getD []).map .var ++
    (f.sensitiveParams.getD []).map .param ++ (f.sensitiveLocals.getD []).map .place

end BodyFacts

end InfoFlow
