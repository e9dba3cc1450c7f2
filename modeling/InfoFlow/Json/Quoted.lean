import InfoFlow.Json.Fault

/-!
# Strings of JSON texts

`quote` writes a string between quotation marks and `unquote` reads what stands after the first of
them. Quotation marks, backslashes and the characters below U+0020 are escaped, everything else is
written as it is.
-/

namespace InfoFlow.Json

/-- The digit of a number below 16, in lower case. -/
def hexDigit (n : Nat) : Char :=
  if n < 10 then Char.ofNat ('0'.toNat + n) else Char.ofNat ('a'.toNat + (n - 10))

/-- The written form of a character inside a string. -/
def escapeChar (c : Char) : List Char :=
  if c = '"' then ['\\', '"']
  else if c = '\\' then ['\\', '\\']
  else if c = '\n' then ['\\', 'n']
  else if c = '\t' then ['\\', 't']
  else if c = '\r' then ['\\', 'r']
  else if c = '\x08' then ['\\', 'b']
  else if c = '\x0c' then ['\\', 'f']
  else if c.toNat < 0x20 then
    ['\\', 'u', '0', '0', hexDigit (c.toNat / 16), hexDigit (c.toNat % 16)]
  else [c]

/-- The written form of a string. -/
def quote (text : List Char) : List Char :=
  '"' :: text.flatMap escapeChar ++ ['"']

/-- The value of a hexadecimal digit. -/
def hexValue? (c : Char) : Option Nat :=
  if '0' ≤ c ∧ c ≤ '9' then some (c.toNat - '0'.toNat)
  else if 'a' ≤ c ∧ c ≤ 'f' then some (c.toNat - 'a'.toNat + 10)
  else if 'A' ≤ c ∧ c ≤ 'F' then some (c.toNat - 'A'.toNat + 10)
  else none

/-- The value of four hexadecimal digits. -/
def hexUnit? (a b c d : Char) : Option Nat := do
  return (((← hexValue? a) * 16 + (← hexValue? b)) * 16 + (← hexValue? c)) * 16 + (← hexValue? d)

/-- What is wrong when fewer than four characters follow `\u`: the text is cut only if they are
fewer than four bytes too. -/
def shortUnit (text : List Char) : Fault :=
  if (String.ofList text).utf8ByteSize < 4 then .truncated else .malformed

/-- The character that a backslash before `c` stands for, the form with `u` apart. -/
def unescape? (c : Char) : Option Char :=
  if c = '"' then some '"'
  else if c = '\\' then some '\\'
  else if c = '/' then some '/'
  else if c = 'b' then some '\x08'
  else if c = 'f' then some '\x0c'
  else if c = 'n' then some '\n'
  else if c = 'r' then some '\r'
  else if c = 't' then some '\t'
  else none

/-- The character of two surrogates. -/
def joinSurrogates (high low : Nat) : Char :=
  Char.ofNat (0x10000 + (high - 0xD800) * 0x400 + (low - 0xDC00))

/-- Reads a string after its first quotation mark, the characters read before being `taken`, last
one first. Surrogates are read in pairs only. -/
def unquote (taken : List Char) : List Char → Except Fault (List Char × List Char)
  | [] => .error .truncated
  | c :: rest =>
    if c = '"' then .ok (taken.reverse, rest)
    else if c = '\\' then
      match rest with
      | [] => .error .truncated
      | e :: rest =>
        if e = 'u' then
          match rest with
          | w :: x :: y :: z :: rest =>
            match hexUnit? w x y z with
            | none => .error .malformed
            | some unit =>
              if 0xDC00 ≤ unit ∧ unit ≤ 0xDFFF then .error .malformed
              else if 0xD800 ≤ unit ∧ unit ≤ 0xDBFF then
                match rest with
                | [] => .error .truncated
                | [b] => .error (if b = '\\' then .truncated else .malformed)
                | b :: u :: rest =>
                  if b = '\\' ∧ u = 'u' then
                    match rest with
                    | w :: x :: y :: z :: rest =>
                      match hexUnit? w x y z with
                      | none => .error .malformed
                      | some low =>
                        if 0xDC00 ≤ low ∧ low ≤ 0xDFFF then
                          unquote (joinSurrogates unit low :: taken) rest
                        else .error .malformed
                    | short => .error (shortUnit short)
                  else .error .malformed
              else unquote (Char.ofNat unit :: taken) rest
          | short => .error (shortUnit short)
        else
          match unescape? e with
          | some c => unquote (c :: taken) rest
          | none => .error .malformed
    else if c.toNat < 0x20 then .error .malformed
    else unquote (c :: taken) rest

end InfoFlow.Json
