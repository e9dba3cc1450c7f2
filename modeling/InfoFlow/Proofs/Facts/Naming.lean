import InfoFlow.Analysis
import InfoFlow.Proofs.Facts.Refusals

/-!
# Which node a string names

The same string can occur in facts as a reference and as the name of an annotated variable. A
reference is read by the grammar of reference strings, an annotated name is not: it is always the
name of a variable. `Item.find` is how the program looks for the node of an item, and
`Item.Names` says that a body that is asked for it again answers with a node and stays as it is.

The main result is `BodyFacts.toBody_names`. The body that facts make can be asked again for all of
their items, and its edges and declared nodes are between the nodes that it answers with. A string
names one node wherever it occurs if and only if every annotated name that also occurs as a
reference is read as a variable, and no variable has the name of another node if and only if no
annotated variable has.
-/

namespace InfoFlow

/-- If the string is read as a reference, it is the name of a variable. -/
def Reference.Plain (raw : String) : Prop :=
  ∀ x, parse raw = .ok x → x = .var raw

instance (raw : String) : Decidable (Reference.Plain raw) :=
  match h : Reference.parse raw with
  | .ok x => decidable_of_iff (x = .var raw) (by simp [Reference.Plain, h])
  | .error _ => isTrue (by simp [Reference.Plain, h])

namespace Facts

namespace Item

/-- Looks for the node of an item. -/
def find (issued : Issued) : Item → Update Body Node
  | .place raw => resolve issued raw
  | .guard raw => return .control (← resolveGuard issued raw)
  | .param index => Body.param index
  | .var name => Body.var name

/-- The body has the node of the item already: it answers with `n` and stays as it is. -/
def Names (issued : Issued) (b : Body) (item : Item) (n : Node) : Prop :=
  item.find issued b = .ok n b

/-- The string of an item, guards apart. -/
def text? : Item → Option String
  | .place raw => some raw
  | .guard _ => none
  | .param _ => none
  | .var name => some name

/-- What an item is read as. -/
inductive Reads : Item → Reference → Prop where
  | place {raw x} :
    Reference.parse raw = .ok x →
    Reads (.place raw) x
  | guard {raw id} :
    Reference.IsGuard raw id →
    Reads (.guard raw) (.control id)
  | param {index} :
    Reads (.param index) (.param index)
  | var {name} :
    Reads (.var name) (.var name)

end Item

section Names

variable {issued : Issued} {b : Body} {n : Node}

/-- Only places and variables are given by texts. -/
lemma Item.text?_eq_some {item : Item} {raw} :
    item.text? = some raw ↔ item = .place raw ∨ item = .var raw := by
  cases item with
  | _ => simp [text?]

/-- An item names one node at most. -/
lemma Item.Names.unique {item : Item} {m} (hm : item.Names issued b m)
    (hn : item.Names issued b n) : m = n := by
  unfold Names at hm hn
  rw [hm] at hn
  cases hn
  rfl

/-- A reference that denotes a node is registered. -/
lemma Denotes.noted {x} (h : Denotes b.registry issued x n) :
    b.registry.Room x ∧ b.note x = b := by
  cases h with
  | boundary => exact ⟨nofun, rfl⟩
  | control => exact ⟨nofun, rfl⟩
  | param hp mem =>
    refine ⟨nofun, ?_⟩
    unfold Body.note Registry.note
    simp only [hp, if_pos mem]
  | @var name id hid =>
    have mem : name ∈ b.registry.vars := Registry.var?_isSome.1 ⟨id, hid⟩
    refine ⟨?_, ?_⟩
    · rintro _ ⟨⟩ fresh
      exact absurd mem fresh
    · rw [Body.note, Registry.note_old mem]

/-- A registered reference that is asked for again has the node that it denotes. -/
lemma noted_iff {x} :
    (b.registry.Room x ∧ b = b.note x ∧ Denotes b.registry issued x n) ↔
      Denotes b.registry issued x n :=
  ⟨fun h => h.2.2, fun h => ⟨h.noted.1, h.noted.2.symm, h⟩⟩

/-- An item names what it is read as. -/
lemma Item.names_iff {item : Item} :
    item.Names issued b n ↔ ∃ x, item.Reads x ∧ Denotes b.registry issued x n := by
  cases item with
  | place raw =>
    refine resolve_ok.trans ⟨fun h => ?_, fun h => ?_⟩
    · obtain ⟨x, read, again⟩ := h
      exact ⟨x, .place read, noted_iff.1 again⟩
    · obtain ⟨x, read, denotes⟩ := h
      cases read with
      | place read => exact ⟨x, read, noted_iff.2 denotes⟩
  | guard raw =>
    refine Update.bind_ok.trans ⟨fun h => ?_, fun h => ?_⟩
    · obtain ⟨c, b1, found, answer⟩ := h
      obtain ⟨id, guard, hc, rfl⟩ := resolveGuard_ok.1 found
      cases answer
      exact ⟨.control id, .guard guard, .control hc⟩
    · obtain ⟨x, read, denotes⟩ := h
      cases read with
      | @guard _ id guard =>
        cases denotes with
        | @control _ c hc => exact ⟨c, b, resolveGuard_ok.2 ⟨id, guard, hc, rfl⟩, rfl⟩
  | param index =>
    refine (param_ok.trans noted_iff).trans ⟨fun h => ⟨_, .param, h⟩, fun h => ?_⟩
    obtain ⟨x, read, denotes⟩ := h
    cases read
    exact denotes
  | var name =>
    refine (var_ok.trans noted_iff).trans ⟨fun h => ⟨_, .var, h⟩, fun h => ?_⟩
    obtain ⟨x, read, denotes⟩ := h
    cases read
    exact denotes

/-- An item reads as one reference at most. -/
lemma Item.Reads.unique {item : Item} {x y} (hx : item.Reads x) (hy : item.Reads y) : x = y := by
  cases hx with
  | place hx =>
    cases hy with
    | place hy => rw [hx] at hy; cases hy; rfl
  | guard hx =>
    cases hy with
    | guard hy => rw [isGuard_unique hx hy]
  | param => cases hy; rfl
  | var => cases hy; rfl

/-- Two items name the same node if and only if they are read as the same reference. -/
lemma Item.Names.same_iff {i j : Item} {m x y} (distinct : Issued.Distinct issued)
    (hi : i.Names issued b m) (hj : j.Names issued b n) (hx : i.Reads x) (hy : j.Reads y) :
    m = n ↔ x = y := by
  obtain ⟨x', hx', hm⟩ := names_iff.1 hi
  obtain ⟨y', hy', hn⟩ := names_iff.1 hj
  cases hx'.unique hx
  cases hy'.unique hy
  refine ⟨fun e => ?_, fun e => ?_⟩
  · subst e
    exact hm.injective distinct hn
  · subst e
    exact hm.unique hn

end Names

/-- The items of a statement that can be carried out are read as what it mentions. -/
lemma Statement.Ready.reads {declared st item} (h : Ready declared st) (mem : item ∈ st.items) :
    ∃ x, item.Reads x ∧ st.Mentions x := by
  cases h with
  | known => cases mem
  | edge hedge =>
    cases hedge with
    | data hx hy =>
      simp only [items, List.mem_cons, List.not_mem_nil, or_false] at mem
      rcases mem with rfl | rfl
      · exact ⟨_, .place hx, .source (.data hx hy)⟩
      · exact ⟨_, .place hy, .target (.data hx hy)⟩
    | control hx hy =>
      simp only [items, List.mem_cons, List.not_mem_nil, or_false] at mem
      rcases mem with rfl | rfl
      · exact ⟨_, .guard hx, .source (.control hx hy)⟩
      · exact ⟨_, .place hy, .target (.control hx hy)⟩
    | source =>
      cases List.mem_singleton.1 mem
      exact ⟨_, .var, .target .source⟩
    | sink =>
      cases List.mem_singleton.1 mem
      exact ⟨_, .var, .source .sink⟩
  | mark hmark =>
    cases hmark with
    | param =>
      cases List.mem_singleton.1 mem
      exact ⟨_, .param, .mark .param⟩
    | place hx =>
      cases List.mem_singleton.1 mem
      exact ⟨_, .place hx, .mark (.place hx)⟩

/-- A variable that a statement mentions is what one of its items is read as. -/
lemma Statement.Mentions.item {st : Statement} {name} (h : st.Mentions (.var name)) :
    ∃ item ∈ st.items, item.Reads (.var name) := by
  cases h with
  | source hedge =>
    cases hedge with
    | data hx => exact ⟨_, List.mem_cons_self .., .place hx⟩
    | sink => exact ⟨_, List.mem_cons_self .., .var⟩
  | target hedge =>
    cases hedge with
    | data _ hy => exact ⟨_, List.mem_cons_of_mem _ (List.mem_cons_self ..), .place hy⟩
    | control _ hy => exact ⟨_, List.mem_cons_of_mem _ (List.mem_cons_self ..), .place hy⟩
    | source => exact ⟨_, List.mem_cons_self .., .var⟩
  | mark hmark =>
    cases hmark with
    | place hx => exact ⟨_, List.mem_cons_self .., .place hx⟩

end Facts

namespace BodyFacts

open Facts

/-- The edges that facts speak of, where `names` says which node an item names. -/
inductive Draws (f : BodyFacts) (names : Item → Node → Prop) : Edge → Prop where
  | data {source target m n} :
    (source, target) ∈ f.data →
    names (.place source) m →
    names (.place target) n →
    Draws f names ⟨m, n, .data⟩
  | control {guard target m n} :
    (guard, target) ∈ f.control →
    names (.guard guard) m →
    names (.place target) n →
    Draws f names ⟨m, n, .control⟩
  | source {sources name n} :
    f.sources = some sources →
    name ∈ sources →
    names (.var name) n →
    Draws f names ⟨.boundary .source, n, .data⟩
  | sink {sinks name n} :
    f.sinks = some sinks →
    name ∈ sinks →
    names (.var name) n →
    Draws f names ⟨n, .boundary .sink, .data⟩

/-- The nodes that facts declare sensitive, where `names` says which node an item names. -/
inductive Marked (f : BodyFacts) (names : Item → Node → Prop) : Node → Prop where
  | param {indices index n} :
    f.sensitiveParams = some indices →
    index ∈ indices →
    names (.param index) n →
    Marked f names n
  | place {raws raw n} :
    f.sensitiveLocals = some raws →
    raw ∈ raws →
    names (.place raw) n →
    Marked f names n

section Depicted

variable {f : BodyFacts} {issued : Issued} {b : Body}

/-- The items of the facts are those of their statements. -/
lemma mem_items {item} : item ∈ f.items ↔ ∃ st ∈ f.statements, item ∈ st.items := by
  rw [items_eq, List.mem_flatMap]

/-- The finished body has the nodes of all items. -/
lemma named (depicts : Depicts issued f.statements b) {item} (mem : item ∈ f.items) :
    ∃ n, item.Names issued b n := by
  obtain ⟨st, hst, mem⟩ := mem_items.1 mem
  obtain ⟨x, read, mention⟩ := (depicts.ready hst).reads mem
  obtain ⟨n, denotes⟩ := depicts.denotes hst mention
  exact ⟨n, Item.names_iff.2 ⟨x, read, denotes⟩⟩

/-- The edges of the finished body are between the nodes that the items name in it. -/
lemma mem_edges_iff (depicts : Depicts issued f.statements b) {e} :
    e ∈ b.graph.edges ↔ f.Draws (Item.Names issued b) e := by
  obtain ⟨m, n, kind⟩ := e
  refine depicts.edges.trans ⟨fun h => ?_, fun h => ?_⟩
  · obtain ⟨st, hst, x, y, hedge, hx, hy⟩ := h
    have mem := mem_statements.1 hst
    cases hedge with
    | data px py =>
      exact .data mem (Item.names_iff.2 ⟨x, .place px, hx⟩) (Item.names_iff.2 ⟨y, .place py, hy⟩)
    | control px py =>
      exact .control mem (Item.names_iff.2 ⟨_, .guard px, hx⟩)
        (Item.names_iff.2 ⟨y, .place py, hy⟩)
    | source =>
      obtain ⟨names, listed, mem⟩ := mem
      cases hx
      exact .source listed mem (Item.names_iff.2 ⟨_, .var, hy⟩)
    | sink =>
      obtain ⟨names, listed, mem⟩ := mem
      cases hy
      exact .sink listed mem (Item.names_iff.2 ⟨_, .var, hx⟩)
  · cases h with
    | data mem hm hn =>
      obtain ⟨x, ⟨px⟩, hx⟩ := Item.names_iff.1 hm
      obtain ⟨y, ⟨py⟩, hy⟩ := Item.names_iff.1 hn
      exact ⟨.data _, mem_statements.2 mem, x, y, .data px py, hx, hy⟩
    | control mem hm hn =>
      obtain ⟨x, read, hx⟩ := Item.names_iff.1 hm
      obtain ⟨y, ⟨py⟩, hy⟩ := Item.names_iff.1 hn
      cases read with
      | guard px => exact ⟨.control _, mem_statements.2 mem, _, y, .control px py, hx, hy⟩
    | source listed mem hn =>
      obtain ⟨y, ⟨⟩, hy⟩ := Item.names_iff.1 hn
      exact ⟨.source _, mem_statements.2 ⟨_, listed, mem⟩, _, _, .source, .boundary nofun, hy⟩
    | sink listed mem hn =>
      obtain ⟨y, ⟨⟩, hy⟩ := Item.names_iff.1 hn
      exact ⟨.sink _, mem_statements.2 ⟨_, listed, mem⟩, _, _, .sink, hy, .boundary nofun⟩

/-- The declared nodes of the finished body are those that the items name in it. -/
lemma mem_declared_iff (depicts : Depicts issued f.statements b) {n} :
    n ∈ b.declared.getD [] ↔ f.Marked (Item.Names issued b) n := by
  refine depicts.marks.trans ⟨fun h => ?_, fun h => ?_⟩
  · obtain ⟨st, hst, x, hmark, hx⟩ := h
    have mem := mem_statements.1 hst
    cases hmark with
    | param =>
      obtain ⟨indices, listed, mem⟩ := mem
      exact .param listed mem (Item.names_iff.2 ⟨_, .param, hx⟩)
    | place px =>
      obtain ⟨raws, listed, mem⟩ := mem
      exact .place listed mem (Item.names_iff.2 ⟨x, .place px, hx⟩)
  · cases h with
    | param listed mem hn =>
      obtain ⟨x, ⟨⟩, hx⟩ := Item.names_iff.1 hn
      exact ⟨.param _, mem_statements.2 ⟨_, listed, mem⟩, _, .param, hx⟩
    | place listed mem hn =>
      obtain ⟨x, ⟨px⟩, hx⟩ := Item.names_iff.1 hn
      exact ⟨.place _, mem_statements.2 ⟨_, listed, mem⟩, _, .place px, hx⟩

/-- Every string names one node, in whatever items of the facts it occurs. -/
def Unambiguous (f : BodyFacts) (names : Item → Node → Prop) : Prop :=
  ∀ raw, ∀ i ∈ f.items, ∀ j ∈ f.items, i.text? = some raw → j.text? = some raw →
    ∀ m n, names i m → names j n → m = n

/-- Only where annotated names are read as something else are strings ambiguous. -/
lemma unambiguous_iff (distinct : Issued.Distinct issued)
    (depicts : Depicts issued f.statements b) :
    f.Unambiguous (Item.Names issued b) ↔
      ∀ raw, .var raw ∈ f.items → .place raw ∈ f.items → Reference.Plain raw := by
  refine ⟨fun h raw annotated occurs x read => ?_, fun h => ?_⟩
  · obtain ⟨m, hm⟩ := named depicts annotated
    obtain ⟨n, hn⟩ := named depicts occurs
    have same := h raw _ occurs _ annotated rfl rfl n m hn hm
    exact (hn.same_iff distinct hm (.place read) .var).1 same
  · have mixed : ∀ {raw m n}, .var raw ∈ f.items → .place raw ∈ f.items →
        Item.Names issued b (.var raw) m → Item.Names issued b (.place raw) n → m = n := by
      intro raw m n annotated occurs hm hn
      obtain ⟨x, ⟨read⟩, -⟩ := Item.names_iff.1 hn
      exact (hm.same_iff distinct hn .var (.place read)).2 (h raw annotated occurs x read).symm
    intro raw i hi j hj texti textj m n hm hn
    rcases Item.text?_eq_some.1 texti with rfl | rfl
    · rcases Item.text?_eq_some.1 textj with rfl | rfl
      · exact hm.unique hn
      · exact (mixed hj hi hn hm).symm
    · rcases Item.text?_eq_some.1 textj with rfl | rfl
      · exact mixed hi hj hm hn
      · exact hm.unique hn

/-- A variable of the finished body is an annotated one, or its name is read as a variable. -/
lemma mem_vars_cases (depicts : Depicts issued f.statements b) {name}
    (mem : name ∈ b.registry.vars) : .var name ∈ f.items ∨ Reference.Plain name := by
  obtain ⟨st, hst, mention⟩ := depicts.vars.1 mem
  obtain ⟨item, mem, read⟩ := mention.item
  cases read with
  | var => exact .inl (mem_items.2 ⟨st, hst, mem⟩)
  | place read =>
    right
    cases Reference.parse_iff.1 read with
    | var =>
      intro x read'
      rw [read] at read'
      cases read'
      rfl

/-- The names of variables are plain if those of the annotated ones are. -/
lemma plain_vars_iff (depicts : Depicts issued f.statements b) :
    (∀ name ∈ b.registry.vars, Reference.Plain name) ↔
      ∀ name, .var name ∈ f.items → Reference.Plain name := by
  refine ⟨fun h name annotated => ?_, fun h name mem => ?_⟩
  · obtain ⟨n, hn⟩ := named depicts annotated
    obtain ⟨x, ⟨⟩, denotes⟩ := Item.names_iff.1 hn
    cases denotes with
    | var found => exact h name (Registry.var?_isSome.1 ⟨_, found⟩)
  · cases mem_vars_cases depicts mem with
    | inl annotated => exact h name annotated
    | inr plain => exact plain

end Depicted

/-- The body that facts make has the nodes of all items, and it is drawn between them. A string
names one node wherever it occurs if and only if the annotated names that are also references are
plain, and the names of all variables are plain if and only if those of the annotated ones are. -/
theorem toBody_names {f : BodyFacts} {unit : Nat} {b : Body} (built : f.toBody unit = .ok b) :
    ∃ issued fresh, issueControls f.controls (Body.new unit f.name) = .ok issued fresh ∧
      (∀ item ∈ f.items, ∃ n, item.Names issued b n) ∧
      (∀ e, e ∈ b.graph.edges ↔ f.Draws (Item.Names issued b) e) ∧
      (∀ n, n ∈ b.declared.getD [] ↔ f.Marked (Item.Names issued b) n) ∧
      (f.Unambiguous (Item.Names issued b) ↔
        ∀ raw, .var raw ∈ f.items → .place raw ∈ f.items → Reference.Plain raw) ∧
      ((∀ name ∈ b.registry.vars, Reference.Plain name) ↔
        ∀ name, .var name ∈ f.items → Reference.Plain name) := by
  obtain ⟨issued, fresh, first, chain⟩ := (replay_ok rfl).1 (toBody_ok.1 built)
  obtain ⟨-, issues, -⟩ := issueControls_ok rfl first
  have depicts : Depicts issued f.statements b := issues.same.depicts.run chain
  refine ⟨issued, fresh, first, fun item mem => named depicts mem, fun e => mem_edges_iff depicts,
    fun n => mem_declared_iff depicts, ?_, plain_vars_iff depicts⟩
  exact unambiguous_iff issues.issuing.distinct depicts

/-- A loop that reads what an annotated source wrote; the receiver is annotated and does not occur
as a reference. -/
def annotatedReceiver : BodyFacts where
  name := "poll"
  controls := [⟨"loop", none, 0⟩]
  data := [("queue", "#loop"), ("queue", "item")]
  control := [("loop", "item")]
  sources := some ["queue", "this"]
  sinks := some ["item"]
  sensitiveParams := none
  sensitiveLocals := some ["item"]

/-- The strings of `annotatedReceiver` name one node each, although one of its variables has the
name of the receiver. -/
theorem annotatedReceiver_names :
    ∃ b, annotatedReceiver.toBody 1 = .ok b ∧
      ∃ issued, annotatedReceiver.Unambiguous (Item.Names issued b) ∧
        ¬ ∀ name ∈ b.registry.vars, Reference.Plain name := by
  obtain ⟨b, built⟩ : ∃ b, annotatedReceiver.toBody 1 = .ok b :=
    toBody_exists.2 (by decide +kernel)
  obtain ⟨issued, -, -, -, -, -, unambiguous, vars⟩ := toBody_names built
  refine ⟨b, built, issued, unambiguous.2 fun raw annotated occurs => ?_, fun plain => ?_⟩
  · have names : raw ∈ ["queue", "this", "item"] := by
      simpa [annotatedReceiver, items] using annotated
    have plain : ∀ name ∈ ["queue", "this", "item"],
        .place name ∈ annotatedReceiver.items → Reference.Plain name := by decide +kernel
    exact plain raw names occurs
  · exact absurd (vars.1 plain "this" (by decide)) (by decide)

/-- A returned parameter whose name is annotated as a source. -/
def annotatedParam : BodyFacts where
  name := "f"
  controls := []
  data := [("param0", "<return>")]
  control := []
  sources := some ["param0"]
  sinks := none
  sensitiveParams := none
  sensitiveLocals := none

/-- The body of `annotatedParam`, with a parameter and a variable of one name. -/
def annotatedParamBody : Body where
  name := "f"
  registry := { (Registry.empty 0).push "param0" rfl with params := [⟨0, by decide⟩] }
  graph := .ofList [⟨.boundary (.param ⟨0, by decide⟩), .boundary .returned, .data⟩,
    ⟨.boundary .source, .var ⟨0, 0⟩, .data⟩]
  declared := some []

/-- The annotated name of `annotatedParam` is a variable and not the parameter, so that nothing is
found although an annotated source is returned. -/
theorem annotatedParam_ambiguous :
    annotatedParam.toBody 0 = .ok annotatedParamBody ∧
      ¬ annotatedParam.Unambiguous (Item.Names [] annotatedParamBody) ∧
      (∃ name ∈ annotatedParamBody.registry.vars, Reference.parse name = .ok (.param 0)) ∧
      ∃ report, annotatedParamBody.analyze = .ok report ∧ report.findings = [] := by
  refine ⟨by decide +kernel, fun same => ?_, ⟨"param0", by decide, by decide⟩, _, rfl, ?_⟩
  · have param : Item.Names [] annotatedParamBody (.place "param0") (.boundary (.param ⟨0, _⟩)) :=
      Item.names_iff.2 ⟨.param 0, .place (by decide), .param rfl (by decide)⟩
    have var : Item.Names [] annotatedParamBody (.var "param0") (.var ⟨0, 0⟩) :=
      Item.names_iff.2 ⟨.var "param0", .var, .var rfl⟩
    cases same "param0" _ (by decide) _ (by decide) rfl rfl _ _ param var
  · decide +kernel

end BodyFacts

end InfoFlow
