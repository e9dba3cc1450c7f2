/-!
# JSON values

The value type of JSON documents and the views that decoders use. Object fields keep the order and
the repetitions of the text, so that a decoder can refuse a repeated field.

* `Json.record?` reads a record written as an object or as the array of its fields.
* `Json.listOf?`, `Json.int64?`, `Json.count?`, ... read the parts of a record.
-/

namespace InfoFlow

/-- A JSON value. A number is an `int` when it is written without fraction and exponent and lies
in the range from `-2^63` up to `2^64 - 1`; every other number is a `decimal`, and so is `-0`. -/
inductive Json where
  | null
  | bool (value : Bool)
  | int (value : Int)
  | decimal (negative : Bool) (significand : Nat) (exponent : Int)
  | str (value : String)
  | arr (items : List Json)
  | obj (fields : List (String × Json))

namespace Json

/-- The text of a string value. -/
def str? : Json → Option String
  | .str s => some s
  | _ => none

/-- The value of a truth value. -/
def bool? : Json → Option Bool
  | .bool b => some b
  | _ => none

/-- A number that was written as an integer of at most 64 bits with sign. -/
def int64? : Json → Option Int64
  | .int n =>
    if h : Int64.minValue.toInt ≤ n ∧ n ≤ Int64.maxValue.toInt then
      some (Int64.ofIntLE n h.1 h.2)
    else none
  | _ => none

/-- A number that was written as an integer of at most 64 bits without sign. -/
def count? : Json → Option Nat
  | .int n => if 0 ≤ n ∧ n < 18446744073709551616 then some n.toNat else none
  | _ => none

/-- The items of an array, each read by `read`. -/
def listOf? {α : Type} (read : Json → Option α) : Json → Option (List α)
  | .arr items => items.mapM read
  | _ => none

/-- The two strings of an array of exactly two strings. -/
def pair? : Json → Option (String × String)
  | .arr [a, b] => do return (← a.str?, ← b.str?)
  | _ => none

/-- Whether a value is `null`. -/
def isNull : Json → Bool
  | .null => true
  | _ => false

/-- Whether a value is `null` or the object without fields. -/
def isVacant : Json → Bool
  | .null => true
  | .obj [] => true
  | _ => false

/-- A case of an enumeration: its name, or an object that maps the name alone to a value that
stands for nothing. -/
def caseName? (nothing : Json → Bool) : Json → Option String
  | .str name => some name
  | .obj [(name, value)] => if nothing value then some name else none
  | _ => none

/-- The values given to `name`, in the order of the text. -/
def valuesOf (fields : List (String × Json)) (name : String) : List Json :=
  fields.filterMap fun field => if field.1 = name then some field.2 else none

/-- The value of the one field called `name`, if there is one. A repeated field is refused. -/
def fieldOnce? (fields : List (String × Json)) (name : String) : Option (Option Json) :=
  match valuesOf fields name with
  | [] => some none
  | [value] => some (some value)
  | _ => none

/-- The fields of a record in the order of `names`, `none` standing for a missing one. A record is
an object, in which other fields are ignored and each of `names` stands at most once, or the array
of its fields in order, in which the last ones may be missing. -/
def record? (names : List String) : Json → Option (List (Option Json))
  | .obj fields => names.mapM (fieldOnce? fields)
  | .arr items =>
    if items.length ≤ names.length then
      some (items.map some ++ List.replicate (names.length - items.length) none)
    else none
  | _ => none

/-- A field that has to be there. -/
def required? {α : Type} (read : Json → Option α) (field : Option Json) : Option α :=
  field.bind read

/-- A field that stands for `default` when it is missing. -/
def withDefault? {α : Type} (default : α) (read : Json → Option α) : Option Json → Option α
  | none => some default
  | some value => read value

/-- A field that may be missing or `null`. -/
def optional? {α : Type} (read : Json → Option α) : Option Json → Option (Option α)
  | none => some none
  | some .null => some none
  | some value => (read value).map some

/-- The list of strings as an array. -/
def ofStrings (items : List String) : Json :=
  .arr (items.map .str)

/-- The number of elements of something as a number. -/
def ofNat (n : Nat) : Json :=
  .int n

end Json

end InfoFlow
