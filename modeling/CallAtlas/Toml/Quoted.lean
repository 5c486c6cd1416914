import CallAtlas.Text.Piece
import CallAtlas.Toml.Basic
import CallAtlas.Json.Quoted

set_option autoImplicit false
set_option relaxedAutoImplicit false

namespace CallAtlas.Toml

def hexValue? (digits : List Char) : Option Nat :=
  digits.foldl
    (fun value c => value.bind fun value => (Json.hexDigit? c).map fun digit => 16 * value + digit)
    (some 0)

def readCodePoint? (width : Nat) (text : List Char) : Option (Char × List Char) :=
  let digits := text.take width
  if digits.length < width then none
  else
    match hexValue? digits with
    | none => none
    | some point => if point.isValidChar then some (Char.ofNat point, text.drop width) else none

def readEscape? : List Char → Option (Char × List Char)
  | '"' :: rest => some ('"', rest)
  | '\\' :: rest => some ('\\', rest)
  | 'b' :: rest => some ('\x08', rest)
  | 'f' :: rest => some ('\x0C', rest)
  | 'n' :: rest => some ('\n', rest)
  | 'r' :: rest => some ('\r', rest)
  | 't' :: rest => some ('\t', rest)
  | 'u' :: rest => readCodePoint? 4 rest
  | 'U' :: rest => readCodePoint? 8 rest
  | _ => none

def readBasic : Nat → List Char → Option (List Char × List Char)
  | 0, _ => none
  | _, [] => none
  | _, '"' :: rest => some ([], rest)
  | steps + 1, '\\' :: rest =>
    match readEscape? rest with
    | none => none
    | some (c, rest) => (readBasic steps rest).map fun (cs, rest) => (c :: cs, rest)
  | steps + 1, c :: rest =>
    if isPlain c then (readBasic steps rest).map fun (cs, rest) => (c :: cs, rest) else none

def readLiteral? (text : List Char) : Option (List Char × List Char) :=
  let content := text.takeWhile fun c => c ≠ '\'' && isPlain c
  match text.drop content.length with
  | '\'' :: rest => some (content, rest)
  | _ => none

/-- Up to two quotes before the three closing ones belong to the string: what stands before the
end, and the text after it.  The argument follows three quotes. -/
def closeLines (quote : Char) : List Char → List Char × List Char
  | c :: d :: rest =>
    if c = quote then (if d = quote then ([quote, quote], rest) else ([quote], d :: rest))
    else ([], c :: d :: rest)
  | [c] => if c = quote then ([quote], []) else ([], [c])
  | [] => ([], [])

/-- The text after a backslash at the end of a line: blanks and line ends are left out. -/
def afterContinuation? (text : List Char) : Option (List Char) :=
  match afterNewline? (skipSpace text) with
  | none => none
  | some rest =>
    let isGap (c : Char) : Bool := isSpace c || c = '\n' || c = '\r'
    some (rest.dropWhile isGap)

def readBasicLines : Nat → List Char → Option (List Char × List Char)
  | 0, _ => none
  | _, [] => none
  | _, '"' :: '"' :: '"' :: rest => some (closeLines '"' rest)
  | steps + 1, '\\' :: rest =>
    match afterContinuation? rest with
    | some rest => readBasicLines steps rest
    | none =>
      match readEscape? rest with
      | none => none
      | some (c, rest) => (readBasicLines steps rest).map fun (cs, rest) => (c :: cs, rest)
  | steps + 1, c :: rest =>
    match afterNewline? (c :: rest) with
    | some rest => (readBasicLines steps rest).map fun (cs, rest) => ('\n' :: cs, rest)
    | none =>
      if isPlain c then (readBasicLines steps rest).map fun (cs, rest) => (c :: cs, rest)
      else none

def readLiteralLines : Nat → List Char → Option (List Char × List Char)
  | 0, _ => none
  | _, [] => none
  | _, '\'' :: '\'' :: '\'' :: rest => some (closeLines '\'' rest)
  | steps + 1, c :: rest =>
    match afterNewline? (c :: rest) with
    | some rest => (readLiteralLines steps rest).map fun (cs, rest) => ('\n' :: cs, rest)
    | none =>
      if isPlain c then (readLiteralLines steps rest).map fun (cs, rest) => (c :: cs, rest)
      else none

def skipNewline (text : List Char) : List Char := (afterNewline? text).getD text

def readShort? : List Char → Option (List Char × List Char)
  | '"' :: rest => readBasic (rest.length + 1) rest
  | '\'' :: rest => readLiteral? rest
  | _ => none

def readString? : List Char → Option (List Char × List Char)
  | '"' :: '"' :: '"' :: rest =>
    let rest := skipNewline rest
    readBasicLines (rest.length + 1) rest
  | '\'' :: '\'' :: '\'' :: rest =>
    let rest := skipNewline rest
    readLiteralLines (rest.length + 1) rest
  | text => readShort? text

end CallAtlas.Toml
