import CallAtlas.CallGraph.Basic
import CallAtlas.Reference.Database

set_option autoImplicit false
set_option relaxedAutoImplicit false

namespace CallAtlas.CallGraph

variable {m : Type → Type} [Monad m]

def addFunction (graph : CallGraph) (function : String) (calls : List Reference.Call) :
    CallGraph :=
  (graph.addNode function).2.addCalls calls

def expand (services : Services m) (database : Reference.Database) (graph : CallGraph) :
    List String → m (Except Tool.Error CallGraph)
  | [] => pure (.ok graph)
  | function :: rest => do
    match ← database.callsOf services function with
    | .error error => pure (.error error)
    | .ok calls => expand services database (graph.addFunction function calls) rest

/-- The graph of the calls that functions make.  Without functions no database is built. -/
def assemble (services : Services m) (scratch : Scratch m) (functions : List String)
    (scope : Scope) (column : Reference.Column) : m (Except Tool.Error CallGraph) := do
  if functions.isEmpty then pure (.ok empty)
  else
    match ← Reference.Database.build services scratch scope column with
    | .error error => pure (.error error)
    | .ok database => do
      let result ← expand services database empty functions
      database.close scratch
      pure result

end CallAtlas.CallGraph
