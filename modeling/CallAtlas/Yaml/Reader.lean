import CallAtlas.Text.Piece
import CallAtlas.Yaml.Flow

set_option autoImplicit false
set_option relaxedAutoImplicit false

/-!
Reading YAML: one document of block mappings, block lists and scalars, whose nesting is given by
the indentation.  Anchors, tags and keys marked as such are not read.
-/

namespace CallAtlas.Yaml

/-- The text at the next line that holds more than blanks and a comment, from the start of a
line. -/
def skipLines : Nat → List Char → List Char
  | 0, text => text
  | steps + 1, text =>
    match text.dropWhile isSpace with
    | [] => []
    | '\n' :: rest => skipLines steps rest
    | '#' :: rest => skipLines steps ((rest.dropWhile (· ≠ '\n')).drop 1)
    | _ => text

def nextContent (text : List Char) : List Char := skipLines (text.length + 1) text

def endLine? (text : List Char) : Option (List Char) :=
  match text.dropWhile isSpace with
  | [] => some []
  | '\n' :: rest => some rest
  | '#' :: rest => some ((rest.dropWhile (· ≠ '\n')).drop 1)
  | _ => none

def startsItem : List Char → Bool
  | '-' :: rest => endsKey false rest
  | _ => false

def readKey? (text : List Char) : Option (String × List Char) :=
  match readQuoted? text with
  | some (key, rest) =>
    match rest.dropWhile isSpace with
    | ':' :: rest => if endsKey false rest then some (key, rest) else none
    | _ => none
  | none =>
    if startsPlain false text then
      match plainLine false false text with
      | (plain, ':' :: rest) =>
        ((ofPlain? (trimEnd plain)).bind keyText?).map (·, rest)
      | _ => none
    else none

def readBlockScalar? (fold : Bool) (least : Nat) (text : List Char) :
    Option (Yaml × List Char) :=
  let head := text.takeWhile fun c => !isGap c
  match blockHead? none .clip head, endLine? (text.dropWhile fun c => !isGap c) with
  | some (given, chomping), some rest =>
    let lines := Text.pieces '\n' rest
    let found := ((lines.find? fun line => !isBlankLine line).map indentOf).getD 0
    let indent := (given.map (· + (least - 1))).getD (max found least)
    let (block, others) := blockLines indent lines
    some (.string (String.ofList (blockText fold chomping block)), Text.joinWith '\n' others)
  | _, _ => none

/-- Reads a value that starts inside a line and gives the text at the start of a later line. -/
def readInline? (least : Nat) (text : List Char) : Option (Yaml × List Char) :=
  let finish (value : Yaml) (rest : List Char) := (endLine? rest).map (value, ·)
  match text with
  | '|' :: rest => readBlockScalar? false least rest
  | '>' :: rest => readBlockScalar? true least rest
  | c :: _ =>
    if c = '[' ∨ c = '{' then
      (readFlow (2 * text.length + 1) text).bind fun (value, rest) => finish value rest
    else
      match readQuoted? text with
      | some (value, rest) => finish (.string value) rest
      | none =>
        if startsPlain false text then
          let (plain, rest) := readPlain false least (text.length + 1) text
          (ofPlain? plain).bind fun value => finish value rest
        else none
  | [] => none

mutual

def readBlock : Nat → Nat → Nat → List Char → Option (Yaml × List Char)
  | 0, _, _, _ => none
  | steps + 1, least, column, text =>
    if startsItem text then
      (readItems steps column text).map fun (items, rest) => (.list items, rest)
    else if (readKey? text).isSome then
      (readFields steps column [] text).map fun (fields, rest) => (.mapping fields, rest)
    else readInline? least text

/-- Reads the value below a key or an item mark, indented by at least the given width. -/
def readBelow : Nat → Nat → List Char → Option (Yaml × List Char)
  | 0, _, _ => none
  | steps + 1, least, text =>
    let next := nextContent text
    let indent := indentOf next
    if next.isEmpty || indent < least || (indent = 0 && atMark next) then some (.null, text)
    else readBlock steps least indent (next.drop indent)

def readItems : Nat → Nat → List Char → Option (List Yaml × List Char)
  | 0, _, _ => none
  | steps + 1, column, text =>
    let rest := text.drop 1
    let spaces := (rest.takeWhile (· = ' ')).length
    let item :=
      match endLine? rest with
      | some rest => readBelow steps (column + 1) rest
      | none => readBlock steps (column + 1) (column + 1 + spaces) (rest.drop spaces)
    match item with
    | none => none
    | some (item, rest) =>
      let next := nextContent rest
      let here := next.drop (indentOf next)
      if indentOf next = column && startsItem here && !(column = 0 && atMark here) then
        (readItems steps column here).map fun (items, rest) => (item :: items, rest)
      else some ([item], rest)

def readFields : Nat → Nat → List (String × Yaml) → List Char →
    Option (List (String × Yaml) × List Char)
  | 0, _, _, _ => none
  | steps + 1, column, fields, text =>
    match readKey? text with
    | none => none
    | some (key, rest) =>
      let value :=
        match endLine? rest with
        | some rest =>
          let next := nextContent rest
          if indentOf next = column && startsItem (next.drop column) &&
              !(column = 0 && atMark next) then
            readBelow steps column rest
          else readBelow steps (column + 1) rest
        | none => readInline? (column + 1) (rest.dropWhile isSpace)
      match value.bind fun (value, rest) => (addField? fields key value).map (·, rest) with
      | none => none
      | some (fields, rest) =>
        let next := nextContent rest
        if next.isEmpty || indentOf next < column || (column = 0 && atMark next) then
          some (fields, rest)
        else if indentOf next = column then readFields steps column fields (next.drop column)
        else none

end

def withNewlines : List Char → List Char
  | '\r' :: '\n' :: rest => '\n' :: withNewlines rest
  | '\r' :: rest => '\n' :: withNewlines rest
  | c :: rest => c :: withNewlines rest
  | [] => []

def isFinished (text : List Char) : Bool :=
  match nextContent text with
  | [] => true
  | '.' :: '.' :: '.' :: rest => (endLine? rest).any fun rest => (nextContent rest).isEmpty
  | _ => false

/-- Reads a text that is one document; an empty one is an empty mapping. -/
def read? (source : List Char) : Option Yaml :=
  let text := withNewlines source
  let steps := 2 * text.length + 2
  match nextContent text with
  | [] => some (.mapping [])
  | '-' :: '-' :: '-' :: rest =>
    let found :=
      match endLine? rest with
      | some rest => readBelow steps 0 rest
      | none => readInline? 0 (rest.dropWhile isSpace)
    found.bind fun (value, rest) => if isFinished rest then some value else none
  | _ => (readBelow steps 0 text).bind fun (value, rest) =>
    if isFinished rest then some value else none

end CallAtlas.Yaml
