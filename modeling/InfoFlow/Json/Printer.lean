import InfoFlow.Json.Basic
import InfoFlow.Json.Quoted

/-!
# Writing JSON texts

One writer for both layouts: `Layout.compact` puts no blanks, `Layout.indented` puts each item and
each field on a line of its own, indented by two spaces for each level.
-/

namespace InfoFlow.Json

/-- Where blanks are put. -/
structure Layout where
  /-- The blanks before an item at the given level, and before the bracket that closes it. -/
  newline : Nat → List Char
  /-- The blanks after the colon of a field. -/
  afterColon : List Char

/-- No blanks. -/
def Layout.compact : Layout where
  newline _ := []
  afterColon := []

/-- Each item and each field on a line of its own. -/
def Layout.indented : Layout where
  newline level := '\n' :: List.replicate (2 * level) ' '
  afterColon := [' ']

/-- The written form of an integer. -/
def writeInt (n : Int) : List Char :=
  if n < 0 then '-' :: Nat.toDigits 10 n.natAbs else Nat.toDigits 10 n.natAbs

/-- The written form of a number that is no integer: significand and power of ten. -/
def writeDecimal (negative : Bool) (significand : Nat) (exponent : Int) : List Char :=
  (if negative then ['-'] else []) ++ Nat.toDigits 10 significand ++ 'e' :: writeInt exponent

mutual

/-- The written form of a value that stands at `level`. -/
def write (layout : Layout) (level : Nat) : Json → List Char
  | .null => ['n', 'u', 'l', 'l']
  | .bool true => ['t', 'r', 'u', 'e']
  | .bool false => ['f', 'a', 'l', 's', 'e']
  | .int n => writeInt n
  | .decimal negative significand exponent => writeDecimal negative significand exponent
  | .str s => quote s.toList
  | .arr [] => ['[', ']']
  | .arr (item :: items) =>
    '[' :: layout.newline (level + 1) ++ write layout (level + 1) item ++
      writeItems layout level items
  | .obj [] => ['\x7b', '\x7d']
  | .obj ((name, value) :: fields) =>
    '\x7b' :: layout.newline (level + 1) ++ quote name.toList ++ ':' :: layout.afterColon ++
      write layout (level + 1) value ++ writeFields layout level fields

/-- The written form of the items after the first one and of the end of their array. -/
def writeItems (layout : Layout) (level : Nat) : List Json → List Char
  | [] => layout.newline level ++ [']']
  | item :: items =>
    ',' :: layout.newline (level + 1) ++ write layout (level + 1) item ++
      writeItems layout level items

/-- The written form of the fields after the first one and of the end of their object. -/
def writeFields (layout : Layout) (level : Nat) : List (String × Json) → List Char
  | [] => layout.newline level ++ ['\x7d']
  | (name, value) :: fields =>
    ',' :: layout.newline (level + 1) ++ quote name.toList ++ ':' :: layout.afterColon ++
      write layout (level + 1) value ++ writeFields layout level fields

end

/-- The text of a value without blanks. -/
def render (value : Json) : String :=
  String.ofList (value.write .compact 0)

/-- The text of a value with each item and field on a line of its own. -/
def renderPretty (value : Json) : String :=
  String.ofList (value.write .indented 0)

end InfoFlow.Json
