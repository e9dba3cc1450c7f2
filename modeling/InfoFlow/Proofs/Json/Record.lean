import InfoFlow.Proofs.Json.Roundtrip
import InfoFlow.Proofs.Listing

/-!
# Records are read as they were written

`Carries` ties a value to what it stands for: the value is plain, so that its text can be read back,
and it is decoded to what was encoded. There is one lemma for each way to put values together; for
records it is `record?_present`, by which an object whose fields have distinct names is decoded to
the values of these fields, missing ones included.
-/

namespace InfoFlow.Json

/-- What is decoded item by item is decoded as a list. -/
lemma mapM_map_eq_some {α β γ : Type} {f : β → Option γ} {g : α → β} {k : α → γ} {items : List α}
    (each : ∀ a ∈ items, f (g a) = some (k a)) : (items.map g).mapM f = some (items.map k) := by
  induction items with
  | nil => rfl
  | cons a items ih =>
    rw [List.map_cons, List.mapM_cons, each a List.mem_cons_self,
      ih fun b mem => each b (List.mem_cons_of_mem _ mem)]
    rfl

/-- The value is plain and decoded to `a`. -/
structure Carries {α : Type} (depth : Nat) (read : Json → Option α) (value : Json) (a : α) :
    Prop where
  plain : Plain depth value
  reads : read value = some a

namespace Carries

variable {α : Type} {d : Nat}

/-- A string carries its text. -/
lemma str {s : String} : Carries d str? (.str s) s :=
  ⟨.str, rfl⟩

/-- A number carries its integer. -/
lemma int64 {n : Int64} : Carries d int64? (.int n.toInt) n where
  plain := by
    have low := n.le_toInt
    have high := n.toInt_lt
    exact .int ⟨by omega, by omega⟩
  reads := by
    rw [int64?, dif_pos ⟨n.minValue_le_toInt, n.toInt_le⟩, Int64.ofIntLE_toInt]

/-- A number carries a count that fits. -/
lemma count {n : Nat} (lt : n < 18446744073709551616) : Carries d count? (ofNat n) n where
  plain := .int ⟨by omega, by omega⟩
  reads := by
    rw [ofNat, count?, if_pos ⟨by omega, by omega⟩, Int.toNat_natCast]

/-- An array carries a list whose items are carried. -/
lemma list {read : Json → Option α} {write : α → Json} {items : List α}
    (each : ∀ a ∈ items, Carries d read (write a) a) :
    Carries (d + 1) (listOf? read) (.arr (items.map write)) items where
  plain := by
    refine .arr fun item written => ?_
    obtain ⟨a, mem, rfl⟩ := List.mem_map.1 written
    exact (each a mem).plain
  reads := by
    have decoded := mapM_map_eq_some (f := read) (g := write) (k := id) fun a mem =>
      (each a mem).reads
    rwa [List.map_id] at decoded

/-- An array of strings carries their texts. -/
lemma strings (items : List String) : Carries (d + 1) (listOf? str?) (ofStrings items) items :=
  list fun _ _ => str

/-- An array of two strings carries a pair. -/
lemma pair {edge : String × String} :
    Carries (d + 1) pair? (ofStrings [edge.1, edge.2]) edge where
  plain := (strings _).plain
  reads := rfl

section

variable {read : Json → Option α} {value : Json} {a : α}

/-- A required value is read where it is there. -/
lemma required (h : Carries d read value a) : required? read (some value) = some a :=
  h.reads

/-- A default is not used where a value is there. -/
lemma withDefault {default : α} (h : Carries d read value a) :
    withDefault? default read (some value) = some a :=
  h.reads

end

end Carries

/-- The fields of a record that are there. -/
def present (entries : List (String × Option Json)) : List (String × Json) :=
  entries.filterMap fun entry => entry.2.map (Prod.mk entry.1)

/-- The fields of two parts are present one after the other. -/
lemma present_append (entries entries' : List (String × Option Json)) :
    present (entries ++ entries') = present entries ++ present entries' :=
  List.filterMap_append

/-- The fields that are present are those with a value. -/
lemma mem_present {entries field} :
    field ∈ present entries ↔ (field.1, some field.2) ∈ entries := by
  unfold present
  rw [List.mem_filterMap]
  constructor
  · rintro ⟨⟨name, value⟩, mem, h⟩
    obtain ⟨v, rfl, rfl⟩ := Option.map_eq_some_iff.1 h
    exact mem
  · intro mem
    exact ⟨_, mem, rfl⟩

/-- A record is plain if the values of its fields are. -/
lemma Plain.present {depth} (entries : List (String × Option Json))
    (each : List.Forall (fun entry => entry.2.elim True (Plain depth)) entries) :
    Plain (depth + 1) (.obj (present entries)) :=
  .obj fun _ mem => List.forall_iff_forall_mem.1 each _ (mem_present.1 mem)

/-- There is one value for the name of a field that is there, and none for one that is not. -/
lemma valuesOf_present {entries : List (String × Option Json)}
    (nodup : (entries.map Prod.fst).Nodup) {name value} (mem : (name, value) ∈ entries) :
    valuesOf (present entries) name = value.toList := by
  have none : ∀ {rest : List (String × Option Json)}, name ∉ rest.map Prod.fst →
      valuesOf (present rest) name = [] := by
    intro rest fresh
    unfold valuesOf
    rw [List.filterMap_eq_nil_iff]
    intro field present
    refine if_neg ?_
    rintro rfl
    exact fresh (List.mem_map_of_mem (mem_present.1 present))
  induction entries with
  | nil => cases mem
  | cons entry entries ih =>
    rw [List.map_cons, List.nodup_cons] at nodup
    have split : valuesOf (present (entry :: entries)) name =
        (if entry.1 = name then entry.2.toList else []) ++ valuesOf (present entries) name := by
      unfold present valuesOf
      rw [filterMap_first, List.filterMap_append]
      congr 1
      cases entry.2 with
      | none => simp
      | some v =>
        by_cases h : entry.1 = name
        · simp [h]
        · simp [h]
    rw [split]
    rcases List.mem_cons.1 mem with rfl | mem
    · rw [if_pos rfl, none nodup.1, List.append_nil]
    · have ne : entry.1 ≠ name := by
        rintro rfl
        exact nodup.1 (List.mem_map.2 ⟨_, mem, rfl⟩)
      rw [if_neg ne, List.nil_append, ih nodup.2 mem]

/-- A field that is present is found, as no name occurs twice. -/
lemma fieldOnce?_present (entries : List (String × Option Json))
    (nodup : (entries.map Prod.fst).Nodup) {name value} (mem : (name, value) ∈ entries) :
    fieldOnce? (present entries) name = some value := by
  unfold fieldOnce?
  rw [valuesOf_present nodup mem]
  cases value with
  | none => rfl
  | some value => rfl

/-- A record with distinct names is decoded to the values of its fields. -/
lemma record?_present (entries : List (String × Option Json))
    (nodup : (entries.map Prod.fst).Nodup) :
    record? (entries.map Prod.fst) (.obj (present entries)) = some (entries.map Prod.snd) :=
  mapM_map_eq_some fun _ mem => fieldOnce?_present entries nodup mem

/-- A field that may be missing is decoded to what it was written for, `null` standing for
nothing. -/
lemma optional?_map {α : Type} {depth : Nat} {read : Json → Option α} {write : α → Json}
    (each : ∀ a, Carries depth read (write a) a) (notNull : ∀ a, write a ≠ .null) (a : Option α) :
    optional? read (a.map write) = some a := by
  cases a with
  | none => rfl
  | some a =>
    have decoded := (each a).reads
    rw [Option.map_some]
    cases value : write a with
    | null => exact absurd value (notNull a)
    | _ =>
      rw [value] at decoded
      simp [optional?, decoded]

end InfoFlow.Json
