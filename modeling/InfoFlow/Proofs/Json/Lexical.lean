import Mathlib.Tactic.Lemma
import InfoFlow.Json.Printer
import InfoFlow.Json.Reader

/-!
# Strings and numbers are read as they were written

Every character of a string is read back from its written form, escaped or not
(`unquote_escapeChar`), and so is every string (`unquote_quote`). An integer in the range of the
integers of JSON texts is read back from its digits, provided that the text after it does not go on
with the number (`readNumber_writeInt`).
-/

namespace InfoFlow.Json

/-- A digit that was written is read as its value. -/
lemma hexValue?_hexDigit {n : Nat} (lt : n < 16) : hexValue? (hexDigit n) = some n := by
  have all : ∀ m < 16, hexValue? (hexDigit m) = some m := by decide
  exact all n lt

/-- Two digits behind two zeros give back the number that they were taken from. -/
lemma hexUnit?_byte {n : Nat} (lt : n < 256) :
    hexUnit? '0' '0' (hexDigit (n / 16)) (hexDigit (n % 16)) = some n := by
  have high : hexValue? (hexDigit (n / 16)) = some (n / 16) := hexValue?_hexDigit (by omega)
  have low : hexValue? (hexDigit (n % 16)) = some (n % 16) := hexValue?_hexDigit (by omega)
  have zero : hexValue? '0' = some 0 := by decide
  simp only [hexUnit?, zero, high, low, Option.bind_eq_bind, Option.bind_some, Option.pure_def,
    Option.some.injEq]
  omega

/-- The three written forms of a character: a letter behind a backslash, the number of a character
below U+0020, and the character itself. -/
lemma escapeChar_cases (c : Char) :
    (∃ e, escapeChar c = ['\\', e] ∧ e ≠ 'u' ∧ unescape? e = some c) ∨
    (escapeChar c = ['\\', 'u', '0', '0', hexDigit (c.toNat / 16), hexDigit (c.toNat % 16)] ∧
      c.toNat < 0x20) ∨
    (escapeChar c = [c] ∧ c ≠ '"' ∧ c ≠ '\\' ∧ ¬ c.toNat < 0x20) := by
  have letters : ∀ entry ∈ [('"', '"'), ('\\', '\\'), ('\n', 'n'), ('\t', 't'), ('\r', 'r'),
      ('\x08', 'b'), ('\x0c', 'f')], escapeChar entry.1 = ['\\', entry.2] ∧ entry.2 ≠ 'u' ∧
        unescape? entry.2 = some entry.1 := by
    decide
  by_cases short : ∃ e, (c, e) ∈ [('"', '"'), ('\\', '\\'), ('\n', 'n'), ('\t', 't'), ('\r', 'r'),
      ('\x08', 'b'), ('\x0c', 'f')]
  · obtain ⟨e, mem⟩ := short
    exact .inl ⟨e, letters (c, e) mem⟩
  · simp only [List.mem_cons, Prod.mk.injEq, List.not_mem_nil, or_false, exists_or,
      exists_eq_right, not_or] at short
    obtain ⟨h1, h2, h3, h4, h5, h6, h7⟩ := short
    unfold escapeChar
    simp only [if_neg h1, if_neg h2, if_neg h3, if_neg h4, if_neg h5, if_neg h6, if_neg h7]
    by_cases control : c.toNat < 0x20
    · exact .inr (.inl ⟨if_pos control, control⟩)
    · exact .inr (.inr ⟨if_neg control, h1, h2, control⟩)

/-- The written form of a character is read as this character. -/
lemma unquote_escapeChar (taken : List Char) (c : Char) (rest : List Char) :
    unquote taken (escapeChar c ++ rest) = unquote (c :: taken) rest := by
  rcases escapeChar_cases c with ⟨e, form, hu, letter⟩ | ⟨form, control⟩ | ⟨form, h1, h2, plain⟩
  · rw [form, List.cons_append, List.cons_append, unquote.eq_def]
    simp only [Char.reduceEq, if_false, if_true, if_neg hu, letter, List.nil_append]
  · -- the four digits stand for a number below 32, so for no surrogate
    have unit := hexUnit?_byte (n := c.toNat) (by omega)
    have notLow : ¬ (0xDC00 ≤ c.toNat ∧ c.toNat ≤ 0xDFFF) := by omega
    have notHigh : ¬ (0xD800 ≤ c.toNat ∧ c.toNat ≤ 0xDBFF) := by omega
    rw [form]
    simp only [List.cons_append, List.nil_append]
    rw [unquote]
    simp only [Char.reduceEq, if_false, if_true, unit, if_neg notLow, if_neg notHigh,
      Char.ofNat_toNat]
  · rw [form, List.cons_append, List.nil_append, unquote.eq_def]
    simp only [if_neg h1, if_neg h2, if_neg plain]

/-- Escaped characters are read until the closing quote. -/
lemma unquote_flatMap (taken text rest : List Char) :
    unquote taken (text.flatMap escapeChar ++ '"' :: rest) = .ok (taken.reverse ++ text, rest) := by
  induction text generalizing taken with
  | nil =>
    rw [List.flatMap_nil, List.nil_append, unquote.eq_def, List.append_nil]
    rfl
  | cons c text ih =>
    rw [List.flatMap_cons, List.append_assoc, unquote_escapeChar, ih]
    simp

/-- A string is read back from its written form. -/
lemma unquote_quote (text rest : List Char) :
    ∃ body, quote text ++ rest = '"' :: body ∧ unquote [] body = .ok (text, rest) := by
  refine ⟨text.flatMap escapeChar ++ '"' :: rest, ?_, unquote_flatMap [] text rest⟩
  simp [quote]

/-- The text does not go on with a number that stands before it. -/
def EndsNumber (rest : List Char) : Prop :=
  ∀ c tail, rest = c :: tail → c.isDigit = false ∧ c ≠ '.' ∧ c ≠ 'e' ∧ c ≠ 'E'

lemma EndsNumber.nil : EndsNumber [] :=
  nofun

namespace Numeral

/-- Digits are read as far as they go. -/
lemma readDigits_append {digits rest : List Char} (ne : digits ≠ [])
    (decimal : ∀ d ∈ digits, d.isDigit = true) (ends : EndsNumber rest) :
    readDigits (digits ++ rest) = .ok (digits, rest) := by
  have stop : rest.takeWhile Char.isDigit = [] ∧ rest.dropWhile Char.isDigit = rest := by
    cases rest with
    | nil => exact ⟨rfl, rfl⟩
    | cons c tail =>
      have h := (ends c tail rfl).1
      simp [h]
  cases digits with
  | nil => exact absurd rfl ne
  | cons d digits =>
    have tail : ∀ a ∈ digits, a.isDigit = true := fun a mem =>
      decimal a (List.mem_cons_of_mem _ mem)
    rw [List.cons_append, readDigits, if_pos (decimal d List.mem_cons_self),
      List.takeWhile_append_of_pos tail, List.dropWhile_append_of_pos tail, stop.1, stop.2,
      List.append_nil]

/-- Only the number zero is written with a zero in front. -/
lemma toDigits_head {n : Nat} {tail : List Char} (h : Nat.toDigits 10 n = '0' :: tail) : n = 0 := by
  induction n using Nat.strongRecOn generalizing tail with
  | _ n ih =>
    by_cases small : n < 10
    · have all : ∀ m < 10, m.digitChar = '0' → m = 0 := by decide
      rw [Nat.toDigits_of_lt_base small] at h
      exact all n small (List.cons.inj h).1
    · -- the digits in front are those of `n / 10`, which is not zero
      rw [Nat.toDigits_of_base_le (by decide) (by omega)] at h
      cases front : Nat.toDigits 10 (n / 10) with
      | nil => exact absurd front Nat.toDigits_ne_nil
      | cons d digits =>
        rw [front, List.cons_append] at h
        have zero : n / 10 = 0 := ih (n / 10) (by omega) (by rw [front, (List.cons.inj h).1])
        omega

/-- A whole number that was written is read with all its digits. -/
lemma readWhole_toDigits {n : Nat} {rest : List Char} (ends : EndsNumber rest) :
    readWhole (Nat.toDigits 10 n ++ rest) = .ok (Nat.toDigits 10 n, rest) := by
  have read : readDigits (Nat.toDigits 10 n ++ rest) = .ok (Nat.toDigits 10 n, rest) :=
    readDigits_append Nat.toDigits_ne_nil
      (fun _ mem => Nat.isDigit_of_mem_toDigits (by decide) (by decide) mem) ends
  unfold readWhole
  rw [read]
  split
  case h_1 d digits rest' h =>
    -- a zero in front of other digits
    have whole : Nat.toDigits 10 n = '0' :: d :: digits :=
      congrArg Prod.fst (Except.ok.inj h)
    rw [toDigits_head whole] at whole
    cases whole
  case h_2 => rfl

/-- After a number there is no fraction. -/
lemma readFraction_none {rest : List Char} (ends : EndsNumber rest) :
    readFraction rest = .ok (none, rest) := by
  unfold readFraction
  split
  case h_1 tail => exact absurd rfl (ends '.' tail rfl).2.1
  case h_2 => rfl

/-- After a number there is no exponent. -/
lemma readExponent_none {rest : List Char} (ends : EndsNumber rest) :
    readExponent rest = .ok (none, rest) := by
  unfold readExponent
  cases rest with
  | nil => rfl
  | cons c tail =>
    obtain ⟨-, -, he, hE⟩ := ends c tail rfl
    exact if_neg (by simp [he, hE])

/-- A number without a sign is read with all its digits. -/
lemma readUnsigned_toDigits {negative : Bool} {n : Nat} {rest : List Char}
    (ends : EndsNumber rest) :
    readUnsigned negative (Nat.toDigits 10 n ++ rest) =
      .ok (⟨negative, Nat.toDigits 10 n, none, none⟩, rest) := by
  unfold readUnsigned
  rw [readWhole_toDigits ends]
  simp only [bind, Except.bind, readFraction_none ends, readExponent_none ends]
  rfl

/-- Digits whose value fits in 64 bits are all taken. -/
lemma accumulate_ofDigitChars (start : Nat) (digits : List Char)
    (fits : Nat.ofDigitChars 10 digits start < 18446744073709551616) :
    accumulate start digits = (Nat.ofDigitChars 10 digits start, []) := by
  induction digits generalizing start with
  | nil => simp [accumulate]
  | cons d digits ih =>
    rw [Nat.ofDigitChars_cons] at fits ⊢
    have le : 10 * start + (d.toNat - '0'.toNat) ≤
        Nat.ofDigitChars 10 digits (10 * start + (d.toNat - '0'.toNat)) := by
      rw [Nat.ofDigitChars_eq_ofDigitChars_zero]
      have pos : 0 < 10 ^ digits.length := Nat.pow_pos (by decide)
      have := Nat.le_mul_of_pos_left (10 * start + (d.toNat - '0'.toNat)) pos
      omega
    have next : 10 * start + (d.toNat - '0'.toNat) < 18446744073709551616 :=
      Nat.lt_of_le_of_lt le fits
    rw [accumulate]
    simp only [Nat.mul_comm start 10]
    rw [if_pos next]
    exact ih _ fits

/-- The number that digits stand for, if it fits; a negative zero does not. -/
lemma int?_toDigits (negative : Bool) {n : Nat} (fits : n < 18446744073709551616) :
    int? ⟨negative, Nat.toDigits 10 n, none, none⟩ =
      if negative then if 0 < n ∧ n ≤ 9223372036854775808 then some (-(n : Int)) else none
      else some (n : Int) := by
  have all : accumulate 0 (Nat.toDigits 10 n) = (n, []) := by
    have h := accumulate_ofDigitChars 0 (Nat.toDigits 10 n)
    rw [Nat.ofDigitChars_ten_toDigits] at h
    exact h fits
  unfold int?
  simp only [all]

end Numeral

/-- The integers that a JSON text can hold. -/
def InRange (n : Int) : Prop :=
  -9223372036854775808 ≤ n ∧ n < 18446744073709551616

/-- A number is written as its digits, after a minus sign if it is negative. -/
lemma writeInt_cases (n : Int) :
    (n < 0 ∧ writeInt n = '-' :: Nat.toDigits 10 n.natAbs) ∨
      (0 ≤ n ∧ writeInt n = Nat.toDigits 10 n.natAbs) := by
  unfold writeInt
  by_cases h : n < 0
  · exact .inl ⟨h, if_pos h⟩
  · exact .inr ⟨Int.not_lt.1 h, if_neg h⟩

/-- An integer starts with a minus sign or with a digit. -/
lemma writeInt_head (n : Int) :
    ∃ c tail, writeInt n = c :: tail ∧ (c = '-' ∨ c.isDigit = true) := by
  rcases writeInt_cases n with ⟨-, h⟩ | ⟨-, h⟩
  · exact ⟨_, _, h, .inl rfl⟩
  · cases digits : Nat.toDigits 10 n.natAbs with
    | nil => exact absurd digits Nat.toDigits_ne_nil
    | cons c tail =>
      refine ⟨c, tail, h.trans digits, .inr ?_⟩
      have mem : c ∈ Nat.toDigits 10 n.natAbs := by
        rw [digits]
        exact List.mem_cons_self
      exact Nat.isDigit_of_mem_toDigits (by decide) (by decide) mem

/-- An integer is read back from its written form, unless the text goes on with the number. -/
lemma readNumber_writeInt {n : Int} {rest : List Char} (range : InRange n)
    (ends : EndsNumber rest) : readNumber (writeInt n ++ rest) = .ok (.int n, rest) := by
  obtain ⟨low, high⟩ := range
  have fits : n.natAbs < 18446744073709551616 := by omega
  have read : ∃ numeral, Numeral.read (writeInt n ++ rest) = .ok (numeral, rest) ∧
      numeral.int? = some n := by
    rcases writeInt_cases n with ⟨sign, h⟩ | ⟨sign, h⟩
    · refine ⟨_, ?_, (Numeral.int?_toDigits true fits).trans ?_⟩
      · rw [h]
        exact Numeral.readUnsigned_toDigits ends
      · rw [if_pos rfl, if_pos (by omega)]
        congr 1
        omega
    · refine ⟨_, ?_, (Numeral.int?_toDigits false fits).trans ?_⟩
      · rw [h, Numeral.read.eq_def]
        split
        case h_1 tail text =>
          -- a minus sign is no digit
          obtain ⟨c, digits, hc, head⟩ := writeInt_head n
          rw [← h, hc, List.cons_append] at text
          rw [hc] at h
          have mem : '-' ∈ Nat.toDigits 10 n.natAbs := by
            rw [← h, (List.cons.inj text).1]
            exact List.mem_cons_self
          have digit := Nat.isDigit_of_mem_toDigits (by decide) (by decide) mem
          exact absurd digit (by decide)
        case h_2 => exact Numeral.readUnsigned_toDigits ends
      · rw [if_neg (by decide)]
        congr 1
        omega
  obtain ⟨numeral, read, value⟩ := read
  unfold readNumber
  rw [read]
  simp only [bind, Except.bind, Numeral.value, value]
  rfl

end InfoFlow.Json
