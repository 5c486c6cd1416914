import CallAtlas.Json.Number
import CallAtlas.Json.Quoted

set_option autoImplicit false
set_option relaxedAutoImplicit false

namespace CallAtlas.Json

def isGap (c : Char) : Bool := c = ' ' || c = '\t' || c = '\n' || c = '\r'

def skipGap (text : List Char) : List Char := text.dropWhile isGap

def depthMax : Nat := 127

mutual

/-- Reads a value after its gap, with at most the given number of steps and room for the given
number of nested containers. -/
def readValue : Nat → Nat → List Char → Option (Json × List Char)
  | 0, _, _ => none
  | steps + 1, room, start =>
    match skipGap start with
    | 'n' :: 'u' :: 'l' :: 'l' :: rest => some (.null, rest)
    | 't' :: 'r' :: 'u' :: 'e' :: rest => some (.boolean true, rest)
    | 'f' :: 'a' :: 'l' :: 's' :: 'e' :: rest => some (.boolean false, rest)
    | '"' :: rest => (readQuoted? rest).map fun (value, rest) => (.string value, rest)
    | '[' :: rest =>
      match room with
      | 0 => none
      | room + 1 =>
        match skipGap rest with
        | ']' :: rest => some (.list [], rest)
        | _ => (readItems steps room rest).map fun (items, rest) => (.list items, rest)
    | '{' :: rest =>
      match room with
      | 0 => none
      | room + 1 =>
        match skipGap rest with
        | '}' :: rest => some (.object [], rest)
        | _ =>
          (readFields steps room rest).map fun (fields, rest) =>
            (.object (Fields.ofList fields), rest)
    | other => readNumber? other

def readItems : Nat → Nat → List Char → Option (List Json × List Char)
  | 0, _, _ => none
  | steps + 1, room, start =>
    match readValue steps room start with
    | none => none
    | some (item, rest) =>
      match skipGap rest with
      | ']' :: rest => some ([item], rest)
      | ',' :: rest => (readItems steps room rest).map fun (items, rest) => (item :: items, rest)
      | _ => none

def readFields : Nat → Nat → List Char → Option (Fields × List Char)
  | 0, _, _ => none
  | steps + 1, room, start =>
    match skipGap start with
    | '"' :: rest =>
      match readQuoted? rest with
      | none => none
      | some (name, rest) =>
        match skipGap rest with
        | ':' :: rest =>
          match readValue steps room rest with
          | none => none
          | some (value, rest) =>
            match skipGap rest with
            | '}' :: rest => some ([(name, value)], rest)
            | ',' :: rest =>
              (readFields steps room rest).map fun (fields, rest) =>
                ((name, value) :: fields, rest)
            | _ => none
        | _ => none
    | _ => none

end

/-- Reads a text that is one JSON value; each character allows for two steps. -/
def read? (source : List Char) : Option Json :=
  match readValue (2 * source.length + 1) depthMax source with
  | some (value, rest) => if skipGap rest = [] then some value else none
  | none => none

end CallAtlas.Json
