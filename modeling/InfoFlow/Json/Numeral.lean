import InfoFlow.Json.Basic
import InfoFlow.Json.Fault

/-!
# Numbers of JSON texts

`Numeral.read` takes a number apart by the grammar `-? (0 | [1-9][0-9]*) (. [0-9]+)? ([eE] [+-]?
[0-9]+)?`, and `Numeral.value` says which value it stands for. A number whose size is beyond every
double is refused.
-/

namespace InfoFlow.Json

/-- A number of a JSON text, taken apart. -/
structure Numeral where
  negative : Bool
  whole : List Char
  fraction : Option (List Char)
  exponent : Option Int
  deriving DecidableEq, Repr

namespace Numeral

/-- Reads one or more digits. -/
def readDigits : List Char → Except Fault (List Char × List Char)
  | [] => .error .truncated
  | c :: rest =>
    if c.isDigit then
      .ok (c :: rest.takeWhile Char.isDigit, rest.dropWhile Char.isDigit)
    else .error .malformed

/-- Reads the digits before the point: a zero that no digit follows, or digits that start with
another one. -/
def readWhole (text : List Char) : Except Fault (List Char × List Char) :=
  match readDigits text with
  | .ok ('0' :: _ :: _, _) => .error .malformed
  | other => other

/-- Reads the point and the digits after it, if there is a point. -/
def readFraction : List Char → Except Fault (Option (List Char) × List Char)
  | '.' :: rest => do
    let (digits, rest) ← readDigits rest
    return (some digits, rest)
  | text => .ok (none, text)

/-- Reads the sign of an exponent. -/
def readSign : List Char → Bool × List Char
  | '+' :: rest => (false, rest)
  | '-' :: rest => (true, rest)
  | text => (false, text)

/-- Reads the exponent, if there is one. -/
def readExponent (text : List Char) : Except Fault (Option Int × List Char) :=
  match text with
  | c :: rest =>
    if c = 'e' ∨ c = 'E' then do
      let (negative, rest) := readSign rest
      let (digits, rest) ← readDigits rest
      let size : Int := Nat.ofDigitChars 10 digits 0
      return (some (if negative then -size else size), rest)
    else .ok (none, text)
  | [] => .ok (none, text)

/-- Reads a number after its sign. -/
def readUnsigned (negative : Bool) (text : List Char) : Except Fault (Numeral × List Char) := do
  let (whole, text) ← readWhole text
  let (fraction, text) ← readFraction text
  let (exponent, text) ← readExponent text
  return ({ negative, whole, fraction, exponent }, text)

/-- Reads a number. -/
def read : List Char → Except Fault (Numeral × List Char)
  | '-' :: rest => readUnsigned true rest
  | text => readUnsigned false text

/-- Takes digits into `n` as long as the result fits in 64 bits, and gives the result and the
digits that were left. -/
def accumulate (n : Nat) : List Char → Nat × List Char
  | [] => (n, [])
  | c :: rest =>
    let next := n * 10 + (c.toNat - '0'.toNat)
    if next < 18446744073709551616 then accumulate next rest else (n, c :: rest)

/-- The significand of at most 64 bits and the power of ten of a number. Digits before the point
that no longer fit raise the exponent; digits after it that no longer fit are dropped. -/
def scaled (n : Numeral) : Nat × Int :=
  let (high, spare) := accumulate 0 n.whole
  let fraction := n.fraction.getD []
  let (significand, dropped) := accumulate high fraction
  let taken : Int := fraction.length - dropped.length
  (significand, spare.length - taken + n.exponent.getD 0)

/-- The nearest number with 53 significant bits, a tie going to the even one. -/
def round53 (n : Nat) : Nat :=
  let shift := n.log2 + 1 - 53
  let unit := Nat.pow 2 shift
  let kept := n / unit
  let rest := n % unit
  if unit < 2 * rest ∨ (unit = 2 * rest ∧ kept % 2 = 1) then (kept + 1) * unit else kept * unit

/-- Whether `significand * 10 ^ exponent` is beyond the doubles, both factors being rounded to
doubles first. -/
def tooLarge (significand : Nat) (exponent : Int) : Bool :=
  decide (significand ≠ 0) && decide (0 ≤ exponent) &&
    (decide (308 < exponent) ||
      decide (Nat.pow 2 1024 - Nat.pow 2 970 ≤
        round53 significand * round53 (Nat.pow 10 exponent.toNat)))

/-- The number as an integer, if it is written as one and fits in 64 bits. Negative integers
have a sign bit, and `-0` is none of them. -/
def int? (n : Numeral) : Option Int :=
  match n.fraction, n.exponent, accumulate 0 n.whole with
  | none, none, (size, []) =>
    if n.negative then
      if 0 < size ∧ size ≤ 9223372036854775808 then some (-(size : Int)) else none
    else some size
  | _, _, _ => none

/-- The value of a number. -/
def value (n : Numeral) : Except Fault Json :=
  match n.int? with
  | some i => .ok (.int i)
  | none =>
    let (significand, exponent) := n.scaled
    if tooLarge significand exponent then .error .malformed
    else .ok (.decimal n.negative significand exponent)

end Numeral

end InfoFlow.Json
