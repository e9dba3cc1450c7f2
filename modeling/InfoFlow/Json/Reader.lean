import InfoFlow.Json.Numeral
import InfoFlow.Json.Quoted

/-!
# Reading JSON texts

`Json.parse` reads a whole text as one value. Blanks are space, tab, line feed and carriage return;
arrays and objects are nested at most `maxDepth` deep.
-/

namespace InfoFlow.Json

/-- How deep arrays and objects may be nested. -/
def maxDepth : Nat := 127

/-- The characters that may stand between the parts of a document. -/
def isBlank (c : Char) : Bool :=
  c = ' ' || c = '\t' || c = '\n' || c = '\r'

/-- What follows the blanks at the head of a text. -/
def skipBlanks (text : List Char) : List Char :=
  text.dropWhile isBlank

/-- Reads the rest of a word of which `word` is still to come. -/
def readWord (value : Json) : List Char → List Char → Except Fault (Json × List Char)
  | [], text => .ok (value, text)
  | _ :: _, [] => .error .truncated
  | w :: word, c :: text => if c = w then readWord value word text else .error .malformed

/-- Reads a number. -/
def readNumber (text : List Char) : Except Fault (Json × List Char) := do
  let (numeral, rest) ← Numeral.read text
  return (← numeral.value, rest)

/-- Reads a value that is neither array nor object. -/
def readAtom : List Char → Except Fault (Json × List Char)
  | [] => .error .truncated
  | c :: rest =>
    if c = '"' then do
      let (value, rest) ← unquote [] rest
      return (.str (String.ofList value), rest)
    else if c = 'n' then readWord .null ['u', 'l', 'l'] rest
    else if c = 't' then readWord (.bool true) ['r', 'u', 'e'] rest
    else if c = 'f' then readWord (.bool false) ['a', 'l', 's', 'e'] rest
    else if c = '-' ∨ c.isDigit then readNumber (c :: rest)
    else .error .malformed

/-- Reads the name of a field and the colon after it. -/
def readName (text : List Char) : Except Fault (String × List Char) :=
  match skipBlanks text with
  | [] => .error .truncated
  | c :: rest =>
    if c = '"' then do
      let (name, rest) ← unquote [] rest
      match skipBlanks rest with
      | [] => .error .truncated
      | c :: rest => if c = ':' then return (String.ofList name, rest) else .error .malformed
    else .error .malformed

mutual

/-- Reads a value in which `depth` more arrays and objects may be nested. The first argument
bounds the number of steps. -/
def readValue : Nat → Nat → List Char → Except Fault (Json × List Char)
  | 0, _, _ => .error .malformed
  | fuel + 1, depth, text =>
    match skipBlanks text with
    | [] => .error .truncated
    | c :: rest =>
      if c = '[' then
        if depth = 0 then .error .malformed
        else
          match skipBlanks rest with
          | ']' :: rest => .ok (.arr [], rest)
          | rest => readItems fuel (depth - 1) [] rest
      else if c = '\x7b' then
        if depth = 0 then .error .malformed
        else
          match skipBlanks rest with
          | '\x7d' :: rest => .ok (.obj [], rest)
          | rest => readFields fuel (depth - 1) [] rest
      else readAtom (c :: rest)

/-- Reads the items of an array up to its end, those before being `taken`, last one first. -/
def readItems : Nat → Nat → List Json → List Char → Except Fault (Json × List Char)
  | 0, _, _, _ => .error .malformed
  | fuel + 1, depth, taken, text => do
    let (item, rest) ← readValue fuel depth text
    match skipBlanks rest with
    | [] => .error .truncated
    | c :: rest =>
      if c = ',' then readItems fuel depth (item :: taken) rest
      else if c = ']' then return (.arr (item :: taken).reverse, rest)
      else .error .malformed

/-- Reads the fields of an object up to its end, those before being `taken`, last one first. -/
def readFields : Nat → Nat → List (String × Json) → List Char → Except Fault (Json × List Char)
  | 0, _, _, _ => .error .malformed
  | fuel + 1, depth, taken, text => do
    let (name, rest) ← readName text
    let (value, rest) ← readValue fuel depth rest
    match skipBlanks rest with
    | [] => .error .truncated
    | c :: rest =>
      if c = ',' then readFields fuel depth ((name, value) :: taken) rest
      else if c = '\x7d' then return (.obj ((name, value) :: taken).reverse, rest)
      else .error .malformed

end

/-- Reads a value at the head of a text. Each character takes at most two steps. -/
def readOne (text : List Char) : Except Fault (Json × List Char) :=
  readValue (2 * text.length + 2) maxDepth text

/-- Refuses a text that holds more than blanks. -/
def expectEnd (text : List Char) : Except Fault Unit :=
  match skipBlanks text with
  | [] => .ok ()
  | _ :: _ => .error .malformed

/-- Reads a text as one value. -/
def parse (text : String) : Except Fault Json := do
  let (value, rest) ← readOne text.toList
  expectEnd rest
  return value

end InfoFlow.Json
