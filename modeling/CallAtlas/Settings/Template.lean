import CallAtlas.Json.Quoted
import CallAtlas.Settings.Basic
import CallAtlas.Text.Line

set_option autoImplicit false
set_option relaxedAutoImplicit false

namespace CallAtlas.Settings

def textLine (name text : String) : List Char := name.toList ++ [' ', '=', ' '] ++ Json.quote text

def numberLine (name : String) (number : Nat) : List Char :=
  name.toList ++ [' ', '=', ' '] ++ Text.decimal number

def headerLine (name : String) : List Char := '[' :: name.toList ++ [']']

def columnName : Reference.Column → String
  | .last => "last"
  | .second => "second"

def Tools.lines (tools : Tools) : List (List Char) :=
  [headerLine "tools", textLine "search" tools.search, textLine "tags" tools.tags,
    textLine "xref" tools.crossReference, numberLine "timeout_secs" tools.seconds,
    textLine "callee_column" (columnName tools.column)]

def Graph.lines (graph : Graph) : List (List Char) :=
  [headerLine "callgraph", numberLine "limit" graph.limit, textLine "output" graph.output.text]

def fileText (settings : Settings) : String :=
  let root := (settings.root.map fun root => textLine "root" root.text).toList
  let head := textLine "pattern" settings.pattern :: root
  String.ofList
    (Text.unlines (head ++ [] :: settings.tools.lines ++ [] :: settings.graph.lines))

end CallAtlas.Settings
