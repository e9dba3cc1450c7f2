import Mathlib.Data.Nat.Digits.Defs
import InfoFlow.Proofs.Verdict.Findings

/-!
# The grammar of references

Every string is a reference of exactly one form. `Reference.paramText` is the text of a reference to
a parameter, for digits of any script, and `Reference.signed` the number that its sign and digits
from `0` to `9` stand for. `Reference.parse_param` and `Reference.parse_overflow` tell the two ways
apart in which such a text can be read.

The names of boundary nodes belong to this grammar: `Boundary.parse_name` says that the name of a
boundary node is read as a reference to this node.
-/

namespace InfoFlow

/-- The boundary nodes other than parameters are read from their names, and from no other text. -/
lemma Boundary.ofName?_eq_some {raw p} :
    ofName? raw = some p ↔ raw = p.name ∧ ∀ index, p ≠ .param index := by
  refine ⟨fun h => ⟨?_, ofName?_ne_param h⟩, fun h => ?_⟩
  · have named : ∀ s ∈ ["<return>", "<throw>", "<static>", "this", "<@Source>", "<@Sink>"],
        (ofName? s).map name = some s := by decide
    have found := named raw (Reference.ofName?_mem h)
    rw [h, Option.map_some, Option.some.injEq] at found
    exact found.symm
  · obtain ⟨rfl, other⟩ := h
    rw [ofName?_name]
    cases p with
    | param index => exact absurd rfl (other index)
    | _ => rfl

namespace Reference

/-- `param`, an optional minus sign, and digits. -/
def paramText (negative : Bool) (digits : List Char) : String :=
  "param" ++ (if negative then "-" else "") ++ String.ofList digits

/-- The number that digits from `0` to `9` stand for, the last digit counting ones. -/
def magnitude (digits : List Char) : Nat :=
  Nat.ofDigits 10 (digits.map fun d => d.toNat - '0'.toNat).reverse

/-- The number that a sign and digits from `0` to `9` stand for. -/
def signed (negative : Bool) (digits : List Char) : Int :=
  if negative then -(magnitude digits : Int) else magnitude digits

/-- One more digit at the end counts ones, and the others ten times as much. -/
lemma magnitude_snoc (digits : List Char) (d : Char) :
    magnitude (digits ++ [d]) = d.toNat - '0'.toNat + 10 * magnitude digits := by
  unfold magnitude
  rw [List.map_append, List.reverse_append, List.map_singleton, List.reverse_singleton,
    List.singleton_append, Nat.ofDigits_cons]

/-- Reading digits from the left adds up the same number. -/
lemma ofDigitChars_eq_magnitude (digits : List Char) :
    Nat.ofDigitChars 10 digits 0 = magnitude digits := by
  induction digits using List.reverseRecOn with
  | nil => rfl
  | append_singleton digits d ih =>
    rw [magnitude_snoc, Nat.ofDigitChars_append, ih, Nat.ofDigitChars_cons, Nat.ofDigitChars_nil,
      Nat.add_comm]

/-- The number that is computed is the one that the digits are a notation for. -/
lemma number_eq_signed (negative : Bool) (digits : List Char) :
    number negative digits = signed negative digits := by
  unfold number signed
  rw [ofDigitChars_eq_magnitude]

/-- What looks like a parameter is its text, with at least one digit. -/
lemma paramShaped_iff {raw negative digits} :
    ParamShaped raw negative digits ↔ raw = paramText negative digits ∧ digits ≠ [] ∧
      ∀ d ∈ digits, Text.isDecimalDigit d = true := by
  have text : raw = paramText negative digits ↔
      raw.toList = "param".toList ++ ((if negative then ['-'] else []) ++ digits) := by
    unfold paramText
    rw [← String.toList_inj, String.toList_append, String.toList_append, String.toList_ofList,
      List.append_assoc]
    cases negative with
    | true => simp
    | false => simp
  rw [text]
  exact ⟨fun h => ⟨h.text, h.nonempty, h.decimal⟩, fun h => ⟨h.1, h.2.1, h.2.2⟩⟩

/-- The digits from `0` to `9` are decimal digits. -/
lemma isDecimalDigit_of_isDigit {d : Char} (h : d.isDigit = true) :
    Text.isDecimalDigit d = true := by
  unfold Text.isDecimalDigit
  rw [List.any_eq_true]
  refine ⟨0x0030, List.mem_cons_self .., ?_⟩
  obtain ⟨lower, upper⟩ := Char.isDigit_iff_toNat.1 h
  simp only [Bool.and_eq_true, decide_eq_true_eq]
  exact ⟨lower, Nat.lt_succ_of_le upper⟩

section Forms

variable {raw : String}

/-- A text is a parameter if it has the form of one, with digits of the usual kind and a number that
fits. -/
lemma parse_param {index} :
    parse raw = .ok (.param index) ↔ ∃ negative digits, raw = paramText negative digits ∧
      digits ≠ [] ∧ (∀ d ∈ digits, d.isDigit = true) ∧ index.toInt = signed negative digits := by
  rw [parse_iff]
  refine ⟨fun h => ?_, fun h => ?_⟩
  · cases h with
    | param shaped value =>
      obtain ⟨text, nonempty, -⟩ := paramShaped_iff.1 shaped
      obtain ⟨ascii, value⟩ := toInt64?_eq_some.1 value
      exact ⟨_, _, text, nonempty, ascii, by rw [value, number_eq_signed]⟩
  · obtain ⟨negative, digits, text, nonempty, ascii, value⟩ := h
    have decimal : ∀ d ∈ digits, Text.isDecimalDigit d = true :=
      fun d hd => isDecimalDigit_of_isDigit (ascii d hd)
    refine .param (paramShaped_iff.2 ⟨text, nonempty, decimal⟩) (toInt64?_eq_some.2 ⟨ascii, ?_⟩)
    rw [value, number_eq_signed]

/-- A text is refused if it has the form of a parameter, but digits of another kind or a number that
does not fit. -/
lemma parse_overflow {e} :
    parse raw = .error e ↔ e = .paramIndexOverflow raw ∧
      ∃ negative digits, raw = paramText negative digits ∧ digits ≠ [] ∧
        (∀ d ∈ digits, Text.isDecimalDigit d = true) ∧
        ((∃ d ∈ digits, d.isDigit = false) ∨ signed negative digits < -9223372036854775808 ∨
          9223372036854775807 < signed negative digits) := by
  simp only [parse_iff, ← number_eq_signed]
  refine ⟨fun h => ?_, fun h => ?_⟩
  · cases h with
    | overflow shaped none =>
      obtain ⟨text, nonempty, decimal⟩ := paramShaped_iff.1 shaped
      exact ⟨rfl, _, _, text, nonempty, decimal, toInt64?_eq_none.1 none⟩
  · obtain ⟨rfl, negative, digits, text, nonempty, decimal, none⟩ := h
    exact .overflow (paramShaped_iff.2 ⟨text, nonempty, decimal⟩) (toInt64?_eq_none.2 none)

/-- A text is a control node if it starts with a hash sign, whatever follows. -/
lemma parse_control {id} : parse raw = .ok (.control id) ↔ raw = "#" ++ id := by
  rw [parse_iff]
  refine ⟨fun h => ?_, .control⟩
  cases h with
  | control e => exact e

/-- A text is a boundary node if it is the name of one; parameters are told apart before. -/
lemma parse_singleton {p} :
    parse raw = .ok (.boundary p) ↔ raw = p.name ∧ ∀ index, p ≠ .param index := by
  rw [parse_iff, ← Boundary.ofName?_eq_some]
  refine ⟨fun h => ?_, .boundary⟩
  cases h with
  | boundary e => exact e

/-- A text is a variable if it has none of the other forms. -/
lemma parse_var {name} :
    parse raw = .ok (.var name) ↔ name = raw ∧
      (∀ p : Boundary, (∀ index, p ≠ .param index) → raw ≠ p.name) ∧ (∀ id, raw ≠ "#" ++ id) ∧
      ∀ negative digits, raw = paramText negative digits → digits ≠ [] →
        ∃ d ∈ digits, Text.isDecimalDigit d = false := by
  have nameless : Boundary.ofName? raw = none ↔
      ∀ p : Boundary, (∀ index, p ≠ .param index) → raw ≠ p.name := by
    simp only [Option.eq_none_iff_forall_ne_some, ne_eq, Boundary.ofName?_eq_some, not_and]
    exact forall_congr' fun p => ⟨fun h other e => h e other, fun h e other => h other e⟩
  have unshaped : (∀ negative digits, ¬ ParamShaped raw negative digits) ↔
      ∀ negative digits, raw = paramText negative digits → digits ≠ [] →
        ∃ d ∈ digits, Text.isDecimalDigit d = false := by
    simp [paramShaped_iff]
  rw [parse_iff, ← nameless, ← unshaped]
  refine ⟨fun h => ?_, fun h => ?_⟩
  · cases h with
    | var nameless plain unshaped => exact ⟨rfl, nameless, plain, unshaped⟩
  · obtain ⟨rfl, nameless, plain, unshaped⟩ := h
    exact .var nameless plain unshaped

end Forms

end Reference

/-- The name of a boundary node is read as a reference to this node. -/
lemma Boundary.parse_name (p : Boundary) : Reference.parse p.name = .ok p.reference := by
  cases p with
  | param index =>
    refine Reference.parse_param.2 ⟨false, Nat.toDigits 10 index.val, ?_, Nat.toDigits_ne_nil,
      fun d hd => Nat.isDigit_of_mem_toDigits (by decide) (by decide) hd, ?_⟩
    · show "param" ++ toString index.val = "param" ++ "" ++ String.ofList _
      rw [String.append_empty, Nat.toString_eq_repr, Nat.repr_eq_ofList_toDigits]
    · unfold Reference.signed
      rw [← Reference.ofDigitChars_eq_magnitude, Nat.ofDigitChars_ten_toDigits]
      exact Int64.toInt_ofNat_of_lt index.isLt
  | _ => exact Reference.parse_singleton.2 ⟨rfl, nofun⟩

namespace Reference

/-- How one string is read. -/
structure Grammatical (raw : String) : Prop where
  /-- As a boundary node other than a parameter, if it is the name of one. -/
  singleton : ∀ p, parse raw = .ok (.boundary p) ↔ raw = p.name ∧ ∀ index, p ≠ .param index
  /-- As a control node, if it is `#` and an id. -/
  control : ∀ id, parse raw = .ok (.control id) ↔ raw = "#" ++ id
  /-- As a parameter, if it is `param`, an optional minus sign and digits from `0` to `9` that stand
  for a number of 64 bits with sign. -/
  param : ∀ index : Int64, parse raw = .ok (.param index) ↔
    ∃ negative digits, raw = paramText negative digits ∧ digits ≠ [] ∧
      (∀ d ∈ digits, d.isDigit = true) ∧ index.toInt = signed negative digits
  /-- It is refused if it is `param`, an optional minus sign and decimal digits, but one of them is
  from another script or the number is too small or too large. -/
  overflow : ∀ e, parse raw = .error e ↔ e = .paramIndexOverflow raw ∧
    ∃ negative digits, raw = paramText negative digits ∧ digits ≠ [] ∧
      (∀ d ∈ digits, Text.isDecimalDigit d = true) ∧
      ((∃ d ∈ digits, d.isDigit = false) ∨ signed negative digits < -9223372036854775808 ∨
        9223372036854775807 < signed negative digits)
  /-- As the variable of that name, if it is none of these. -/
  var : ∀ name, parse raw = .ok (.var name) ↔ name = raw ∧
    (∀ p : Boundary, (∀ index, p ≠ .param index) → raw ≠ p.name) ∧ (∀ id, raw ≠ "#" ++ id) ∧
    ∀ negative digits, raw = paramText negative digits → digits ≠ [] →
      ∃ d ∈ digits, Text.isDecimalDigit d = false

/-- References are read by one grammar, which inverts the names of boundary nodes: the name of a
boundary node is read as this node, for a parameter by its position, and no two boundary nodes have
the same name. -/
theorem parse_grammar :
    (∀ raw, Grammatical raw) ∧
    (∀ p : Boundary, (∀ index, p ≠ .param index) → parse p.name = .ok (.boundary p)) ∧
    (∀ index : ParamIndex, ∃ n : Int64, parse (Boundary.param index).name = .ok (.param n) ∧
      n.toInt = index.val ∧ ParamIndex.ofInt64 n = .ok index) ∧
    ∀ p q : Boundary, p.name = q.name → p = q := by
  refine ⟨fun raw => ?_, fun p other => parse_singleton.2 ⟨rfl, other⟩, fun index => ?_,
    fun p q => Boundary.name_injective⟩
  · exact {
      singleton := fun _ => parse_singleton
      control := fun _ => parse_control
      param := fun _ => parse_param
      overflow := fun _ => parse_overflow
      var := fun _ => parse_var }
  · exact ⟨Int64.ofNat index.val, Boundary.parse_name _, Int64.toInt_ofNat_of_lt index.isLt,
      Boundary.ofInt64_ofNat index⟩

-- the limits are not symmetric
example : parse "param-9223372036854775808" = .ok (.param (-9223372036854775808)) := by
  decide +kernel

example : parse "param9223372036854775808" =
    .error (.paramIndexOverflow "param9223372036854775808") := by
  decide +kernel

end Reference

end InfoFlow
