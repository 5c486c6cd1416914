import CallAtlas.Settings.Basic
import CallAtlas.Settings.Layer
import CallAtlas.Settings.Mismatch

set_option autoImplicit false
set_option relaxedAutoImplicit false

namespace CallAtlas.Settings

abbrev Reading (α : Type) := Except Mismatch α

/-- Reads a text; numbers and booleans pass for the texts that spell them. -/
def readText (key : String) : Value → Reading String
  | .leaf _ (.text value) => .ok value
  | .leaf _ (.boolean value) => .ok (if value then "true" else "false")
  | .leaf _ (.integer value) => .ok (String.ofList (Text.signedDecimal value))
  | .leaf _ (.real value) => .ok value.toText
  | .leaf origin .nothing => .error ⟨.kind "unit value" .string, key, origin⟩
  | .list origin _ => .error ⟨.kind "sequence" .string, key, origin⟩
  | .table origin _ => .error ⟨.kind "map" .string, key, origin⟩

/-- The number that a text stands for: a word for yes or no, or a numeral. -/
def numberOfText? (text : String) : Option Nat :=
  let lower := String.ofList (text.toList.map Char.toLower)
  if ["true", "on", "yes"].contains lower then some 1
  else if ["false", "off", "no"].contains lower then some 0
  else (Text.readWord text.toList).toOption

/-- Reads a number of a 64-bit word.  A real number goes to the nearest one. -/
def readNumber (key : String) : Value → Reading Nat
  | .leaf origin (.integer value) =>
    if 0 ≤ value then .ok value.toNat
    else
      let found := "64-bit integer `" ++ String.ofList (Text.signedDecimal value) ++ "`"
      .error ⟨.kind found .unsigned, key, origin⟩
  | .leaf _ (.real value) => .ok value.toWord
  | .leaf _ (.boolean value) => .ok (if value then 1 else 0)
  | .leaf origin (.text value) =>
    match numberOfText? value with
    | some number => .ok number
    | none => .error ⟨.kind (describeText value) .integer, key, origin⟩
  | .leaf origin .nothing => .error ⟨.kind "unit value" .integer, key, origin⟩
  | .list origin _ => .error ⟨.kind "sequence" .integer, key, origin⟩
  | .table origin _ => .error ⟨.kind "map" .integer, key, origin⟩

def columnOf? (name : String) : Option Reference.Column :=
  if name = "last" then some .last else if name = "second" then some .second else none

/-- Reads a column: its name, or a table with the name as its only key. -/
def readColumn (key : String) (value : Value) : Reading Reference.Column :=
  let named (name : String) : Reading Reference.Column :=
    match columnOf? name with
    | some column => .ok column
    | none => .error ⟨.choice name, key, none⟩
  match value with
  | .leaf _ (.text name) => named name
  | .table _ [(name, _)] => named name
  | _ => .error ⟨.choiceShape, key, none⟩

def readPath (key : String) (value : Value) : Reading Path := (readText key value).map Path.mk

def readPath? (key : String) : Value → Reading (Option Path)
  | .leaf _ .nothing => .ok none
  | value => (readPath key value).map some

/-- A part of a record with its key: by its name in a table, by its position in a list. -/
def part? (key : String) (position : Nat) (name : String) : Value → Option (String × Value)
  | .table _ fields => (fields.lookup name).map (key ++ "." ++ name, ·)
  | .list _ items =>
    items[position]?.map (key ++ "[" ++ String.ofList (Text.decimal position) ++ "]", ·)
  | .leaf _ _ => none

def readPart {α : Type} (read : String → Value → Reading α) (standard : α)
    (part : Option (String × Value)) : Reading α :=
  match part with
  | some (key, value) => read key value
  | none => .ok standard

def checkRecord (record key : String) : Value → Reading Unit
  | .leaf _ scalar => .error ⟨.kind scalar.describe (.record record), key, none⟩
  | _ => .ok ()

def readTools (key : String) (value : Value) : Reading Tools := do
  checkRecord "ToolsConfig" key value
  let standard := Tools.standard
  let search ← readPart readText standard.search (part? key 0 "search" value)
  let tags ← readPart readText standard.tags (part? key 1 "tags" value)
  let crossReference ← readPart readText standard.crossReference (part? key 2 "xref" value)
  let seconds ← readPart readNumber standard.seconds (part? key 3 "timeout_secs" value)
  let column ← readPart readColumn standard.column (part? key 4 "callee_column" value)
  pure ⟨search, tags, crossReference, seconds, column⟩

def readGraph (key : String) (value : Value) : Reading Graph := do
  checkRecord "CallgraphConfig" key value
  let standard := Graph.standard
  let limit ← readPart readNumber standard.limit (part? key 0 "limit" value)
  let output ← readPart readPath standard.output (part? key 1 "output" value)
  pure ⟨limit, output⟩

def ofFields (fields : Fields) : Reading Settings := do
  let part (name : String) : Option (String × Value) := (fields.lookup name).map (name, ·)
  let pattern ← readPart readText standard.pattern (part "pattern")
  let root ← readPart readPath? standard.root (part "root")
  let tools ← readPart readTools standard.tools (part "tools")
  let graph ← readPart readGraph standard.graph (part "callgraph")
  pure ⟨pattern, root, tools, graph⟩

def ofLayers (layers : List Layer) : Reading Settings := ofFields (Fields.ofLayers layers)

end CallAtlas.Settings
