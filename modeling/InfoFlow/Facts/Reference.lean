import InfoFlow.Node
import InfoFlow.Text.Digit

/-!
# Node references

How the strings in the facts name nodes: the name of a boundary node, `#` and the id of a control
node, `param` and a number, or else the name of a variable.
-/

namespace InfoFlow

/-- What a reference string refers to. -/
inductive Reference where
  /-- A boundary node other than a parameter. -/
  | boundary (boundary : Boundary)
  | param (index : Int64)
  | control (id : String)
  | var (name : String)
  deriving DecidableEq, Repr

namespace Reference

/-- The sign and the digits of a number: an optional minus sign and one or more decimal digits of
any script. -/
def numberParts? (text : List Char) : Option (Bool × List Char) :=
  let (negative, digits) :=
    match text with
    | '-' :: rest => (true, rest)
    | _ => (false, text)
  if digits ≠ [] ∧ digits.all Text.isDecimalDigit then some (negative, digits) else none

/-- The number of 64 bits with sign that digits stand for. Only the digits from `0` to `9` have a
value here. -/
def toInt64? (negative : Bool) (digits : List Char) : Option Int64 :=
  if digits.all Char.isDigit then
    let size : Int := Nat.ofDigitChars 10 digits 0
    let value := if negative then -size else size
    if h : Int64.minValue.toInt ≤ value ∧ value ≤ Int64.maxValue.toInt then
      some (Int64.ofIntLE value h.1 h.2)
    else none
  else none

/-- The sign and the digits of a reference to a parameter. -/
def paramParts? (text : List Char) : Option (Bool × List Char) :=
  match text with
  | 'p' :: 'a' :: 'r' :: 'a' :: 'm' :: rest => numberParts? rest
  | _ => none

/-- Reads a reference string. A parameter whose number cannot be read is refused. -/
def parse (raw : String) : Except Refusal Reference :=
  match Boundary.ofName? raw with
  | some p => .ok (.boundary p)
  | none =>
    match raw.toList with
    | '#' :: id => .ok (.control (String.ofList id))
    | text =>
      match paramParts? text with
      | none => .ok (.var raw)
      | some (negative, digits) =>
        match toInt64? negative digits with
        | some index => .ok (.param index)
        | none => .error (.paramIndexOverflow raw)

end Reference

end InfoFlow
