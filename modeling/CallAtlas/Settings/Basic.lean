import CallAtlas.Path.Basic
import CallAtlas.Reference.Row
import CallAtlas.Tool.Duration

set_option autoImplicit false
set_option relaxedAutoImplicit false

namespace CallAtlas

/-- The external programs and how they are used.  A time limit of zero seconds is none. -/
structure Settings.Tools where
  search : String
  tags : String
  crossReference : String
  seconds : Nat
  column : Reference.Column
  deriving DecidableEq

structure Settings.Graph where
  limit : Nat
  output : Path
  deriving DecidableEq

structure Settings where
  pattern : String
  root : Option Path
  tools : Settings.Tools
  graph : Settings.Graph
  deriving DecidableEq

namespace Settings

def Tools.standard : Tools := ⟨"rg", "ctags", "cscope", 300, .last⟩

def Graph.standard : Graph := ⟨10, ⟨"trace_callgraph.dot"⟩⟩

def standard : Settings := ⟨"trace", none, Tools.standard, Graph.standard⟩

def limitOf (seconds : Nat) : Option Duration :=
  if seconds = 0 then none else some (Duration.ofSeconds seconds)

/-- The time limit of one run of a program: the seconds given, or else those of the settings. -/
def Tools.limit (tools : Tools) (given : Option Nat) : Option Duration :=
  limitOf (given.getD tools.seconds)

end Settings

end CallAtlas
