import InfoFlow.Facts.Document
import InfoFlow.Proofs.Json.Record

/-!
# Facts are read as they were written

The facts of a body, and of a program, are read back from their text in every layout
(`BodyFacts.parse_toJson`, `Facts.parse_toJson`). The decoder takes the first shape that fits, so a
body has to be told from a program: it has no field for bodies (`BodyFacts.not_program`). A list
that is missing is written as no field and one that is empty as an empty array, so that they are
read as what they were. The main result is `Facts.parse_rendered`.
-/

namespace InfoFlow

open Json

namespace ControlDecl

/-- The values of the fields of a control node. -/
def entries (c : ControlDecl) : List (String × Option Json) :=
  [("id", some (.str c.id)), ("parent", some ((c.parent.map Json.str).getD .null)),
    ("branch", some (.int c.branch.toInt))]

/-- The object of a declaration has no inner arrays or objects. -/
lemma plain (c : ControlDecl) : Plain 1 c.toJson := by
  have parent : Plain 0 ((c.parent.map Json.str).getD .null) := by
    cases c.parent with
    | none => exact .null
    | some parent => exact .str
  exact .present c.entries ⟨.str, parent, Carries.int64.plain⟩

/-- The object of a declaration carries it. -/
lemma carries (c : ControlDecl) : Carries 1 ofJson? c.toJson c where
  plain := c.plain
  reads := by
    have fields : c.toJson.record? fieldNames = some (c.entries.map Prod.snd) :=
      record?_present c.entries (by simp [entries])
    have parent : optional? str? (some ((c.parent.map Json.str).getD .null)) = some c.parent := by
      cases c.parent with
      | none => rfl
      | some parent => rfl
    have branch := (Carries.int64 (d := 0) (n := c.branch)).required
    unfold ofJson?
    rw [fields]
    simp only [entries, List.map_cons, List.map_nil, Option.bind_eq_bind, Option.bind_some,
      (Carries.str (d := 0)).required, parent, branch]
    rfl

end ControlDecl

namespace BodyFacts

/-- A list that may be missing as the value of a field. -/
def listed {α : Type} (write : α → Json) (items : Option (List α)) : Option Json :=
  items.map fun items => .arr (items.map write)

/-- The values of the fields of a body. -/
def entries (f : BodyFacts) : List (String × Option Json) :=
  [("name", some (.str f.name)), ("controls", some (.arr (f.controls.map ControlDecl.toJson))),
    ("data", some (edgesToJson f.data)), ("control", some (edgesToJson f.control)),
    ("sources", listed .str f.sources), ("sinks", listed .str f.sinks),
    ("sensitive_params", listed (fun n => .int n.toInt) f.sensitiveParams),
    ("sensitive_locals", listed .str f.sensitiveLocals)]

/-- A field that may be missing is present if there are items. -/
lemma optionalField_present {α : Type} (name : String) (write : α → Json)
    (items : Option (List α)) :
    optionalField name write items = present [(name, listed write items)] := by
  cases items with
  | none => rfl
  | some items => rfl

/-- The object of facts has the fields that are present. -/
lemma toJson_present (f : BodyFacts) : f.toJson = .obj (present f.entries) := by
  calc f.toJson = .obj (present (f.entries.take 4) ++
          present [("sources", listed .str f.sources)] ++
          present [("sinks", listed .str f.sinks)] ++
          present [("sensitive_params", listed (fun n => .int n.toInt) f.sensitiveParams)] ++
          present [("sensitive_locals", listed .str f.sensitiveLocals)]) := by
        simp only [toJson, optionalField_present]
        rfl
    _ = .obj (present f.entries) := by
        simp only [← present_append]
        rfl

/-- An array of pairs carries edges. -/
lemma edges_carries (edges : List (String × String)) :
    Carries 2 (listOf? pair?) (edgesToJson edges) edges :=
  .list fun _ _ => .pair

/-- An array of objects carries declarations. -/
lemma controls_carries (controls : List ControlDecl) :
    Carries 2 (listOf? ControlDecl.ofJson?) (.arr (controls.map ControlDecl.toJson)) controls :=
  .list fun c _ => c.carries

section

variable {α : Type} {read : Json → Option α} {write : α → Json}

/-- A list that may be missing is decoded to what was written. -/
lemma listed_reads (write : α → Json) (each : ∀ a, Carries 0 read (write a) a)
    (items : Option (List α)) :
    optional? (listOf? read) (listed write items) = some items :=
  optional?_map (fun _ => .list fun a _ => each a) nofun items

/-- An array of plain items is plain, and a missing one has nothing to say. -/
lemma listed_plain (each : ∀ a, Carries 0 read (write a) a) (items : Option (List α)) :
    (listed write items).elim True (Plain 2) := by
  cases items with
  | none => trivial
  | some items =>
    have list : Carries 1 (listOf? read) (.arr (items.map write)) items := .list fun a _ => each a
    exact list.plain.mono (by decide)

end

/-- The object of facts carries them. -/
lemma carries (f : BodyFacts) : Carries 3 ofJson? f.toJson f where
  plain := by
    rw [toJson_present]
    refine .present f.entries ⟨.str, (controls_carries _).plain, (edges_carries _).plain,
      (edges_carries _).plain, listed_plain (fun _ => .str) _, listed_plain (fun _ => .str) _,
      listed_plain (fun _ => .int64) _, listed_plain (fun _ => .str) _⟩
  reads := by
    have fields : f.toJson.record? fieldNames = some (f.entries.map Prod.snd) := by
      rw [toJson_present]
      exact record?_present f.entries (by simp [entries])
    have strings := listed_reads Json.str fun _ => .str
    have params := listed_reads (fun n : Int64 => .int n.toInt) fun _ => .int64
    unfold ofJson?
    rw [fields]
    simp only [entries, List.map_cons, List.map_nil, Option.bind_eq_bind, Option.bind_some,
      (Carries.str (d := 0)).required, (controls_carries _).withDefault,
      (edges_carries _).withDefault, strings, params]
    rfl

/-- A body has no field for bodies, so it is not taken for a program. -/
lemma not_program (f : BodyFacts) : Facts.ofProgram? f.toJson = none := by
  have absent : fieldOnce? (present f.entries) "units" = some none := by
    have extended := fieldOnce?_present (f.entries ++ [("units", none)])
      (by simp [entries]) (List.mem_append_right _ (List.mem_singleton_self _))
    have same : present (f.entries ++ [("units", none)]) = present f.entries := by
      rw [present_append]
      exact List.append_nil _
    rw [same] at extended
    exact extended
  unfold Facts.ofProgram?
  rw [toJson_present]
  simp only [record?, List.mapM_cons, List.mapM_nil, absent]
  rfl

end BodyFacts

namespace Facts

/-- A document carries its bodies. -/
lemma carries (bodies : List BodyFacts) : Carries 5 ofJson? (toJson bodies) bodies := by
  have list : Carries 4 (listOf? BodyFacts.ofJson?) (.arr (bodies.map BodyFacts.toJson)) bodies :=
    .list fun f _ => f.carries
  refine ⟨.present [("units", some _)] list.plain, ?_⟩
  have fields : (toJson bodies).record? ["units"] =
      some [some (.arr (bodies.map BodyFacts.toJson))] :=
    record?_present [("units", some (.arr (bodies.map BodyFacts.toJson)))]
      (by simp)
  have program : ofProgram? (toJson bodies) = some bodies := by
    unfold ofProgram?
    rw [fields]
    exact list.reads
  unfold ofJson?
  rw [program]

/-- A single body is read as a document with this body alone. -/
lemma carries_body (f : BodyFacts) : Carries 3 ofJson? f.toJson [f] where
  plain := f.carries.plain
  reads := by
    unfold ofJson?
    rw [f.not_program, f.carries.reads]
    rfl

/-- What a document carries is read from its text in every layout. -/
lemma parse_write {layout : Layout} {value bodies} {depth : Nat} (airy : layout.Airy)
    (carries : Carries depth ofJson? value bodies) (le : depth ≤ maxDepth) :
    parse (String.ofList (value.write layout 0)) = .ok bodies := by
  unfold parse
  rw [String.toList_ofList, readOne_write (carries.plain.mono le) airy]
  simp only [carries.reads]
  rfl

/-- Facts are read back from their text, in both layouts: those of a program, and those of a single
body. Hence what any accepted text was read as is read again from the text of these facts. -/
theorem parse_rendered :
    (∀ bodies : List BodyFacts,
      parse (toJson bodies).render = .ok bodies ∧
        parse (toJson bodies).renderPretty = .ok bodies) ∧
    (∀ f : BodyFacts,
      parse f.toJson.render = .ok [f] ∧ parse f.toJson.renderPretty = .ok [f]) ∧
    (∀ text : String,
      (parse text >>= fun bodies => parse (toJson bodies).render) = parse text ∧
        (parse text >>= fun bodies => parse (toJson bodies).renderPretty) = parse text) := by
  have program : ∀ bodies, parse (toJson bodies).render = .ok bodies ∧
      parse (toJson bodies).renderPretty = .ok bodies := fun bodies =>
    ⟨parse_write Layout.compact_airy (carries bodies) (by decide),
      parse_write Layout.indented_airy (carries bodies) (by decide)⟩
  refine ⟨program, fun f => ⟨?_, ?_⟩, fun text => ?_⟩
  · exact parse_write Layout.compact_airy (carries_body f) (by decide)
  · exact parse_write Layout.indented_airy (carries_body f) (by decide)
  · cases parse text with
    | error e => exact ⟨rfl, rfl⟩
    | ok bodies => exact program bodies

end Facts

end InfoFlow
