import CallAtlas.CallGraph.Basic
import CallAtlas.Text.Numeral

set_option autoImplicit false
set_option relaxedAutoImplicit false

namespace CallAtlas.CallGraph

def escapeChar (c : Char) : List Char :=
  if c = '"' then ['\\', '"']
  else if c = '\\' then ['\\', '\\']
  else if c = '\n' then ['\\', 'l']
  else [c]

def escape (name : List Char) : List Char := name.flatMap escapeChar

def nodeLine (index : Nat) (name : String) : List Char :=
  "    ".toList ++ Text.decimal index ++ " [ label = \"".toList ++ escape name.toList ++
    "\" ]\n".toList

def edgeLine (link : Nat × Nat) : List Char :=
  "    ".toList ++ Text.decimal link.1 ++ " -> ".toList ++ Text.decimal link.2 ++ " [ ]\n".toList

def nodeLines : Nat → List String → List Char
  | _, [] => []
  | index, name :: rest => nodeLine index name ++ nodeLines (index + 1) rest

def dotChars (graph : CallGraph) : List Char :=
  "digraph \x7b\n".toList ++ nodeLines 0 graph.names ++ graph.links.flatMap edgeLine ++
    "\x7d\n".toList

def dot (graph : CallGraph) : String := String.ofList graph.dotChars

end CallAtlas.CallGraph
