import CallAtlas.Yaml.Scalar

set_option autoImplicit false
set_option relaxedAutoImplicit false

namespace CallAtlas.Yaml

def skipFlow : Nat → List Char → List Char
  | 0, text => text
  | steps + 1, text =>
    match text.dropWhile isGap with
    | '#' :: rest => skipFlow steps (rest.dropWhile (· ≠ '\n'))
    | rest => rest

def afterFlowGap (text : List Char) : List Char := skipFlow (text.length + 1) text

def addField? (fields : List (String × Yaml)) (key : String) (value : Yaml) :
    Option (List (String × Yaml)) :=
  if (fields.lookup key).isSome then none else some (fields ++ [(key, value)])

def readFlowScalar? (text : List Char) : Option (Yaml × List Char) :=
  match readQuoted? text with
  | some (value, rest) => some (.string value, rest)
  | none =>
    if startsPlain true text then
      let (plain, rest) := readPlain true 0 (text.length + 1) text
      (ofPlain? plain).map (·, rest)
    else none

mutual

def readFlow : Nat → List Char → Option (Yaml × List Char)
  | 0, _ => none
  | steps + 1, text =>
    match afterFlowGap text with
    | '[' :: rest => (readFlowItems steps [] rest).map fun (items, rest) => (.list items, rest)
    | '{' :: rest =>
      (readFlowFields steps [] rest).map fun (fields, rest) => (.mapping fields, rest)
    | rest => readFlowScalar? rest

def readFlowItems : Nat → List Yaml → List Char → Option (List Yaml × List Char)
  | 0, _, _ => none
  | steps + 1, items, text =>
    match afterFlowGap text with
    | ']' :: rest => some (items, rest)
    | start =>
      match readFlow steps start with
      | none => none
      | some (item, rest) =>
        match afterFlowGap rest with
        | ']' :: rest => some (items ++ [item], rest)
        | ',' :: rest => readFlowItems steps (items ++ [item]) rest
        | _ => none

def readFlowFields : Nat → List (String × Yaml) → List Char →
    Option (List (String × Yaml) × List Char)
  | 0, _, _ => none
  | steps + 1, fields, text =>
    match afterFlowGap text with
    | '}' :: rest => some (fields, rest)
    | start =>
      match (readFlowScalar? start).bind fun (key, rest) => key.keyText?.map (·, rest) with
      | none => none
      | some (key, rest) =>
        let found :=
          match afterFlowGap rest with
          | ':' :: rest =>
            match afterFlowGap rest with
            | ',' :: rest => some (.null, ',' :: rest)
            | '}' :: rest => some (.null, '}' :: rest)
            | rest => readFlow steps rest
          | rest => some (.null, rest)
        match found with
        | none => none
        | some (value, rest) =>
          match addField? fields key value, afterFlowGap rest with
          | some fields, '}' :: rest => some (fields, rest)
          | some fields, ',' :: rest => readFlowFields steps fields rest
          | _, _ => none

end

end CallAtlas.Yaml
