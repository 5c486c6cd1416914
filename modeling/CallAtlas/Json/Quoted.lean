set_option autoImplicit false
set_option relaxedAutoImplicit false

namespace CallAtlas.Json

def hexDigit? (c : Char) : Option Nat :=
  if c.isDigit then some (c.toNat - '0'.toNat)
  else if 'a' ≤ c ∧ c ≤ 'f' then some (c.toNat - 'a'.toNat + 10)
  else if 'A' ≤ c ∧ c ≤ 'F' then some (c.toNat - 'A'.toNat + 10)
  else none

def readUnit? : List Char → Option (Nat × List Char)
  | a :: b :: c :: d :: rest =>
    match hexDigit? a, hexDigit? b, hexDigit? c, hexDigit? d with
    | some a, some b, some c, some d => some (((a * 16 + b) * 16 + c) * 16 + d, rest)
    | _, _, _, _ => none
  | _ => none

def readCodePoint? (text : List Char) : Option (Char × List Char) :=
  match readUnit? text with
  | none => none
  | some (unit, rest) =>
    if unit < 0xD800 ∨ 0xDFFF < unit then some (Char.ofNat unit, rest)
    else if 0xDC00 ≤ unit then none
    else
      match rest with
      | '\\' :: 'u' :: rest =>
        match readUnit? rest with
        | none => none
        | some (second, rest) =>
          if second < 0xDC00 ∨ 0xDFFF < second then none
          else some (Char.ofNat (0x10000 + (unit - 0xD800) * 0x400 + (second - 0xDC00)), rest)
      | _ => none

def readEscape? : List Char → Option (Char × List Char)
  | '"' :: rest => some ('"', rest)
  | '\\' :: rest => some ('\\', rest)
  | '/' :: rest => some ('/', rest)
  | 'b' :: rest => some ('\x08', rest)
  | 'f' :: rest => some ('\x0C', rest)
  | 'n' :: rest => some ('\n', rest)
  | 'r' :: rest => some ('\r', rest)
  | 't' :: rest => some ('\t', rest)
  | 'u' :: rest => readCodePoint? rest
  | _ => none

def readQuotedWithin : Nat → List Char → Option (List Char × List Char)
  | 0, _ => none
  | _, [] => none
  | _, '"' :: rest => some ([], rest)
  | steps + 1, '\\' :: rest =>
    match readEscape? rest with
    | none => none
    | some (c, rest) => (readQuotedWithin steps rest).map fun (cs, rest) => (c :: cs, rest)
  | steps + 1, c :: rest =>
    if c.toNat < 0x20 then none
    else (readQuotedWithin steps rest).map fun (cs, rest) => (c :: cs, rest)

/-- Reads a string after its opening quote; every step takes a character. -/
def readQuoted? (text : List Char) : Option (String × List Char) :=
  (readQuotedWithin (text.length + 1) text).map fun (cs, rest) => (String.ofList cs, rest)

def hexDigit (n : Nat) : Char := Nat.digitChar n

def quoteChar (c : Char) : List Char :=
  if c = '"' then ['\\', '"']
  else if c = '\\' then ['\\', '\\']
  else if c.toNat < 0x20 then
    ['\\', 'u', '0', '0', hexDigit (c.toNat / 16), hexDigit (c.toNat % 16)]
  else [c]

def quote (text : String) : List Char := '"' :: text.toList.flatMap quoteChar ++ ['"']

end CallAtlas.Json
