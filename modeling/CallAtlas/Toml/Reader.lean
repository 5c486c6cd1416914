import CallAtlas.Toml.Document
import CallAtlas.Toml.Moment
import CallAtlas.Toml.Number
import CallAtlas.Toml.Quoted

set_option autoImplicit false
set_option relaxedAutoImplicit false

namespace CallAtlas.Toml

def isKeyChar (c : Char) : Bool := c.isAlphanum || c = '_' || c = '-'

def readKey? (text : List Char) : Option (String × List Char) :=
  match text.head? with
  | some '"' => (readShort? text).map fun (key, rest) => (String.ofList key, rest)
  | some '\'' => (readShort? text).map fun (key, rest) => (String.ofList key, rest)
  | _ =>
    match text.takeWhile isKeyChar with
    | [] => none
    | key => some (String.ofList key, text.dropWhile isKeyChar)

def readKeys? : Nat → List Char → Option (List String × List Char)
  | 0, _ => none
  | steps + 1, text =>
    match readKey? (skipSpace text) with
    | none => none
    | some (key, rest) =>
      match skipSpace rest with
      | '.' :: rest => (readKeys? steps rest).map fun (keys, rest) => (key :: keys, rest)
      | rest => some ([key], rest)

def isScalarChar (c : Char) : Bool :=
  c.isAlphanum || c = '_' || c = '+' || c = '-' || c = '.' || c = ':'

/-- The characters of a value that is neither a string nor a container.  A blank may stand between
a date and a time. -/
def scalarChars (text : List Char) : List Char :=
  let first := text.takeWhile isScalarChar
  match text.drop first.length with
  | ' ' :: rest =>
    if first.length = 10 ∧ (readDate? first).isSome ∧ rest.head?.any Char.isDigit then
      first ++ ' ' :: rest.takeWhile isScalarChar
    else first
  | _ => first

def scalar? (text : List Char) : Option Toml :=
  if text = ['t', 'r', 'u', 'e'] then some (.boolean true)
  else if text = ['f', 'a', 'l', 's', 'e'] then some (.boolean false)
  else
    match readInteger? text with
    | some value => some (.integer value)
    | none =>
      match readReal? text with
      | some value => some (.real value)
      | none => (readMoment? text).map fun spelling => .moment (String.ofList spelling)

mutual

def readValue : Nat → List Char → Option (Toml × List Char)
  | 0, _ => none
  | steps + 1, text =>
    match text with
    | '[' :: rest => (readItems steps rest).map fun (items, rest) => (.list items, rest)
    | '\x7b' :: rest =>
      match skipSpace rest with
      | '\x7d' :: rest => some (.table [], rest)
      | rest =>
        (readInline steps [] rest).map fun (fields, rest) =>
          (.table (Part.fieldsToToml fields), rest)
    | '"' :: _ => (readString? text).map fun (value, rest) => (.string (String.ofList value), rest)
    | '\'' :: _ => (readString? text).map fun (value, rest) => (.string (String.ofList value), rest)
    | _ =>
      let chars := scalarChars text
      (scalar? chars).map fun value => (value, text.drop chars.length)

/-- Reads the items of a list up to its end; a comma may stand after the last one, and lines may
end anywhere between them. -/
def readItems : Nat → List Char → Option (List Toml × List Char)
  | 0, _ => none
  | steps + 1, text =>
    match skipLines? (text.length + 1) text with
    | none => none
    | some (']' :: rest) => some ([], rest)
    | some text =>
      match readValue steps text with
      | none => none
      | some (item, rest) =>
        match skipLines? (rest.length + 1) rest with
        | some (',' :: rest) =>
          (readItems steps rest).map fun (items, rest) => (item :: items, rest)
        | some (']' :: rest) => some ([item], rest)
        | _ => none

def readInline : Nat → Part.Fields → List Char → Option (Part.Fields × List Char)
  | 0, _, _ => none
  | steps + 1, fields, text =>
    match readKeys? (text.length + 1) text with
    | some (keys, '=' :: rest) =>
      match readValue steps (skipSpace rest) with
      | none => none
      | some (value, rest) =>
        match Part.assign keys value fields with
        | none => none
        | some fields =>
          match skipSpace rest with
          | ',' :: rest => readInline steps fields rest
          | '\x7d' :: rest => some (fields, rest)
          | _ => none
    | _ => none

end

def readHeader? (closing : List Char) (text : List Char) : Option (List String × List Char) :=
  match readKeys? (text.length + 1) text with
  | none => none
  | some (keys, rest) =>
    (Text.after? closing rest).bind fun rest => (nextLine? rest).map fun rest => (keys, rest)

def readField? (text : List Char) : Option (List String × Toml × List Char) :=
  match readKeys? (text.length + 1) text with
  | some (keys, '=' :: rest) =>
    match readValue (2 * rest.length + 1) (skipSpace rest) with
    | none => none
    | some (value, rest) => (nextLine? rest).map fun rest => (keys, value, rest)
  | _ => none

/-- Reads the rest of a document, in which the table of a header is open. -/
def readLines : Nat → List String → Part.Fields → List Char → Option Part.Fields
  | 0, _, _, _ => none
  | steps + 1, header, fields, text =>
    match skipLines? (text.length + 1) text with
    | none => none
    | some [] => some fields
    | some ('[' :: '[' :: rest) =>
      match readHeader? [']', ']'] rest with
      | none => none
      | some (keys, rest) =>
        (Part.openElement keys fields).bind fun fields => readLines steps keys fields rest
    | some ('[' :: rest) =>
      match readHeader? [']'] rest with
      | none => none
      | some (keys, rest) =>
        (Part.openTable keys fields).bind fun fields => readLines steps keys fields rest
    | some text =>
      match readField? text with
      | none => none
      | some (keys, value, rest) =>
        (Part.assignIn header keys value fields).bind fun fields =>
          readLines steps header fields rest

def skipMark : List Char → List Char
  | c :: rest => if c.toNat = 0xFEFF then rest else c :: rest
  | [] => []

def read? (source : List Char) : Option (List (String × Toml)) :=
  let text := skipMark source
  (readLines (text.length + 1) [] [] text).map Part.fieldsToToml

end CallAtlas.Toml
