import Mathlib.Tactic.Lemma
import InfoFlow.Facts.Reference

/-!
# How reference strings are read

The grammar of reference strings, by the strings themselves. A string is `Reference.ParamShaped` if
it is `param`, an optional minus sign and one or more decimal digits of any script; such a string is
read as a parameter or not at all (`Reference.parse_paramShaped`). A string with `#` in front is
read as a control node. The other lemmas go back from what was read to the string.
-/

namespace InfoFlow.Reference

/-- `raw` is `param`, a minus sign if it is `negative`, and decimal digits of any script. -/
structure ParamShaped (raw : String) (negative : Bool) (digits : List Char) : Prop where
  text : raw.toList = "param".toList ++ ((if negative then ['-'] else []) ++ digits)
  nonempty : digits ≠ []
  decimal : ∀ d ∈ digits, Text.isDecimalDigit d = true

/-- The number that a sign and digits from `0` to `9` stand for. -/
def number (negative : Bool) (digits : List Char) : Int :=
  if negative then -(Nat.ofDigitChars 10 digits 0 : Int) else Nat.ofDigitChars 10 digits 0

/-- The parts of a number: a minus sign, if there is one, and at least one digit. -/
lemma numberParts?_eq_some {text negative digits} :
    numberParts? text = some (negative, digits) ↔
      text = (if negative then ['-'] else []) ++ digits ∧ digits ≠ [] ∧
        ∀ d ∈ digits, Text.isDecimalDigit d = true := by
  have minus : Text.isDecimalDigit '-' = false := by decide
  by_cases sign : ∃ rest, text = '-' :: rest
  · obtain ⟨rest, rfl⟩ := sign
    simp only [numberParts?, Option.ite_none_right_eq_some, Option.some.injEq, Prod.mk.injEq,
      List.all_eq_true]
    refine ⟨fun h => ?_, fun h => ?_⟩
    · obtain ⟨⟨ne, decimal⟩, rfl, rfl⟩ := h
      exact ⟨rfl, ne, decimal⟩
    · obtain ⟨text, ne, decimal⟩ := h
      cases negative with
      | true =>
        cases text
        exact ⟨⟨ne, decimal⟩, rfl, rfl⟩
      | false =>
        -- the minus sign would be a digit
        have mem : '-' ∈ digits := by
          rw [show digits = '-' :: rest from text.symm]
          exact List.mem_cons_self ..
        rw [decimal _ mem] at minus
        cases minus
  · have plain : numberParts? text =
        if text ≠ [] ∧ text.all Text.isDecimalDigit then some (false, text) else none := by
      unfold numberParts?
      split
      next rest heq =>
        split at heq
        · exact absurd ⟨_, rfl⟩ sign
        · cases heq
          rfl
    rw [plain]
    simp only [Option.ite_none_right_eq_some, Option.some.injEq, Prod.mk.injEq, List.all_eq_true]
    refine ⟨fun h => ?_, fun h => ?_⟩
    · obtain ⟨⟨ne, decimal⟩, rfl, rfl⟩ := h
      exact ⟨rfl, ne, decimal⟩
    · obtain ⟨text, ne, decimal⟩ := h
      cases negative with
      | true => exact absurd ⟨digits, text⟩ sign
      | false =>
        subst text
        exact ⟨⟨ne, decimal⟩, rfl, rfl⟩

/-- The parts of what looks like a parameter. -/
lemma paramParts?_eq_some {raw : String} {negative digits} :
    paramParts? raw.toList = some (negative, digits) ↔ ParamShaped raw negative digits := by
  refine ⟨fun h => ?_, fun h => ?_⟩
  · unfold paramParts? at h
    split at h
    case h_1 rest hraw =>
      obtain ⟨rfl, ne, decimal⟩ := numberParts?_eq_some.1 h
      exact ⟨hraw, ne, decimal⟩
    case h_2 => cases h
  · rw [h.text]
    exact numberParts?_eq_some.2 ⟨rfl, h.nonempty, h.decimal⟩

/-- Digits are a number of 64 bits if they are digits of the usual kind and the number fits. -/
lemma toInt64?_eq_some {negative digits index} :
    toInt64? negative digits = some index ↔
      (∀ d ∈ digits, d.isDigit = true) ∧ index.toInt = number negative digits := by
  have lower : Int64.minValue.toInt ≤ index.toInt := index.minValue_le_toInt
  have upper : index.toInt ≤ Int64.maxValue.toInt := index.toInt_le
  unfold toInt64?
  rw [← List.all_eq_true]
  cases digits.all Char.isDigit with
  | false => simp
  | true =>
    simp only [if_true, true_and]
    change (if h : _ ≤ number negative digits ∧ number negative digits ≤ _ then _ else _) = _ ↔ _
    split
    case isTrue range =>
      rw [Option.some.injEq]
      refine ⟨fun h => ?_, fun h => ?_⟩
      · subst h
        exact Int64.toInt_ofIntLE ..
      · apply Int64.toInt_inj.1
        rw [Int64.toInt_ofIntLE, h]
        rfl
    case isFalse range =>
      refine ⟨nofun, fun h => ?_⟩
      rw [← h] at range
      exact absurd ⟨lower, upper⟩ range

/-- A number is not read if it has other digits or does not fit in 64 bits. -/
lemma toInt64?_eq_none {negative digits} :
    toInt64? negative digits = none ↔
      (∃ d ∈ digits, d.isDigit = false) ∨ number negative digits < -9223372036854775808 ∨
        9223372036854775807 < number negative digits := by
  refine ⟨fun none => ?_, fun h => ?_⟩
  · apply Classical.byContradiction
    intro fits
    simp only [not_or, not_exists, not_and, Bool.not_eq_false, Int.not_lt] at fits
    obtain ⟨ascii, lower, upper⟩ := fits
    have read : (Int64.ofIntLE (number negative digits) lower upper).toInt =
      number negative digits := Int64.toInt_ofIntLE
    rw [toInt64?_eq_some.2 ⟨ascii, read⟩] at none
    cases none
  · cases value : toInt64? negative digits with
    | none => rfl
    | some index =>
      obtain ⟨ascii, value⟩ := toInt64?_eq_some.1 value
      have lower := index.le_toInt
      have upper := index.toInt_lt
      obtain ⟨d, hd, other⟩ | range := h
      · rw [ascii d hd] at other
        cases other
      · omega

/-- The names of boundary nodes are these six. -/
lemma ofName?_mem {raw p} (h : Boundary.ofName? raw = some p) :
    raw ∈ ["<return>", "<throw>", "<static>", "this", "<@Source>", "<@Sink>"] := by
  unfold Boundary.ofName? at h
  grind

/-- The name of a boundary node other than a parameter is no other reference. -/
lemma ofName?_plain {raw p} (h : Boundary.ofName? raw = some p) :
    paramParts? raw.toList = none ∧ raw.toList.head? ≠ some '#' := by
  have plain : ∀ s ∈ ["<return>", "<throw>", "<static>", "this", "<@Source>", "<@Sink>"],
      paramParts? s.toList = none ∧ s.toList.head? ≠ some '#' := by decide
  exact plain raw (ofName?_mem h)

/-- The grammar of reference strings. -/
inductive Reads (raw : String) : Except Refusal Reference → Prop where
  | boundary {p} :
    Boundary.ofName? raw = some p →
    Reads raw (.ok (.boundary p))
  | control {id} :
    raw = "#" ++ id →
    Reads raw (.ok (.control id))
  | param {negative digits index} :
    ParamShaped raw negative digits →
    toInt64? negative digits = some index →
    Reads raw (.ok (.param index))
  | overflow {negative digits} :
    ParamShaped raw negative digits →
    toInt64? negative digits = none →
    Reads raw (.error (.paramIndexOverflow raw))
  | var :
    Boundary.ofName? raw = none →
    (∀ id, raw ≠ "#" ++ id) →
    (∀ negative digits, ¬ ParamShaped raw negative digits) →
    Reads raw (.ok (.var raw))

/-- A text starts with a hash sign if it is one with another text behind. -/
lemma eq_hash {raw : String} {text} :
    raw.toList = '#' :: text ↔ raw = "#" ++ String.ofList text := by
  rw [← String.toList_inj]
  simp

/-- Every string is read by the grammar. -/
lemma reads_parse (raw : String) : Reads raw (parse raw) := by
  unfold parse
  cases name : Boundary.ofName? raw with
  | some p => exact .boundary name
  | none =>
    simp only
    split
    case h_1 text hraw => exact .control (eq_hash.1 hraw)
    case h_2 plain =>
      cases parts : paramParts? raw.toList with
      | none =>
        refine .var name (fun id e => ?_) (fun negative digits shaped => ?_)
        · exact plain id.toList (eq_hash.2 (by rw [e, String.ofList_toList]))
        · rw [paramParts?_eq_some.2 shaped] at parts
          cases parts
      | some found =>
        obtain ⟨negative, digits⟩ := found
        have shaped := paramParts?_eq_some.1 parts
        cases value : toInt64? negative digits with
        | some index => simpa only [value] using .param shaped value
        | none => simpa only [value] using .overflow shaped value

/-- A string is read as the grammar says, and in no other way. -/
lemma parse_iff {raw x} : parse raw = x ↔ Reads raw x := by
  refine ⟨fun e => e ▸ reads_parse raw, fun reads => ?_⟩
  have nameless : paramParts? raw.toList ≠ none ∨ raw.toList.head? = some '#' →
      Boundary.ofName? raw = none := by
    intro other
    cases name : Boundary.ofName? raw with
    | none => rfl
    | some p =>
      obtain ⟨notParam, notControl⟩ := ofName?_plain name
      cases other with
      | inl param => exact absurd notParam param
      | inr control => exact absurd control notControl
  have parameter : ∀ negative digits, ParamShaped raw negative digits →
      parse raw = (toInt64? negative digits).elim (.error (.paramIndexOverflow raw))
        fun index => .ok (.param index) := by
    intro negative digits shaped
    have parts := paramParts?_eq_some.2 shaped
    unfold parse
    rw [nameless (.inl (by simp [parts]))]
    simp only
    split
    case h_1 text hraw =>
      rw [shaped.text] at hraw
      cases hraw
    case h_2 =>
      cases fits : toInt64? negative digits with
      | none => simp only [parts, fits, Option.elim]
      | some index => simp only [parts, fits, Option.elim]
  cases reads with
  | boundary name =>
    unfold parse
    rw [name]
  | @control id e =>
    have text : raw.toList = '#' :: id.toList := eq_hash.2 (by rw [e, String.ofList_toList])
    unfold parse
    rw [nameless (.inr (by rw [text]; rfl))]
    simp only [text, String.ofList_toList]
  | param shaped value => simp only [parameter _ _ shaped, value, Option.elim]
  | overflow shaped value => simp only [parameter _ _ shaped, value, Option.elim]
  | var name plain unshaped =>
    unfold parse
    rw [name]
    simp only
    split
    case h_1 text hraw => exact absurd (eq_hash.1 hraw) (plain _)
    case h_2 =>
      cases parts : paramParts? raw.toList with
      | none => rfl
      | some found => exact absurd (paramParts?_eq_some.1 parts) (unshaped _ _)

/-- A string that can be resolved where `ids` are the declared control nodes: if it has the shape of
a parameter, its number is written with the digits from `0` to `9` and is a position, and if it
starts with `#`, the rest is declared. -/
structure Sound (ids : List String) (raw : String) : Prop where
  param : ∀ negative digits, ParamShaped raw negative digits →
    (∀ d ∈ digits, d.isDigit = true) ∧
      0 ≤ number negative digits ∧ number negative digits < 9223372036854775808
  control : ∀ id, raw = "#" ++ id → id ∈ ids

/-- A string is sound if it is read, as no negative position and no undeclared control node. -/
lemma sound_iff {ids raw} :
    Sound ids raw ↔ ∃ x, parse raw = .ok x ∧ (∀ index, x = .param index → 0 ≤ index.toInt) ∧
      ∀ id, x = .control id → id ∈ ids := by
  refine ⟨fun sound => ?_, fun h => ?_⟩
  · have reads := reads_parse raw
    generalize parse raw = x at reads
    cases reads with
    | boundary => exact ⟨_, rfl, nofun, nofun⟩
    | control e =>
      refine ⟨_, rfl, nofun, ?_⟩
      rintro _ ⟨⟩
      exact sound.control _ e
    | param shaped value =>
      refine ⟨_, rfl, ?_, nofun⟩
      rintro _ ⟨⟩
      rw [(toInt64?_eq_some.1 value).2]
      exact (sound.param _ _ shaped).2.1
    | @overflow negative digits shaped value =>
      obtain ⟨ascii, lower, upper⟩ := sound.param _ _ shaped
      obtain ⟨d, hd, other⟩ | range := toInt64?_eq_none.1 value
      · rw [ascii d hd] at other
        cases other
      · omega
    | var => exact ⟨_, rfl, nofun, nofun⟩
  · obtain ⟨x, hparse, position, declared⟩ := h
    refine ⟨fun negative digits shaped => ?_, fun id e => ?_⟩
    · cases value : toInt64? negative digits with
      | none =>
        rw [parse_iff.2 (.overflow shaped value)] at hparse
        cases hparse
      | some index =>
        rw [parse_iff.2 (.param shaped value)] at hparse
        cases hparse
        obtain ⟨ascii, value⟩ := toInt64?_eq_some.1 value
        have lower := position index rfl
        have upper := index.toInt_lt
        exact ⟨ascii, by omega, by omega⟩
    · rw [parse_iff.2 (.control e)] at hparse
      cases hparse
      exact declared id rfl

end InfoFlow.Reference
