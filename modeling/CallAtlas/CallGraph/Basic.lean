import CallAtlas.Ordered.Basic
import CallAtlas.Reference.Row

set_option autoImplicit false
set_option relaxedAutoImplicit false

namespace CallAtlas

/-- Functions in the order of their first appearance, and calls between them in that order. -/
structure CallGraph where
  names : List String
  links : List (Nat × Nat)
  deriving DecidableEq

namespace CallGraph

def empty : CallGraph := ⟨[], []⟩

def index? (graph : CallGraph) (name : String) : Option Nat := graph.names.idxOf? name

/-- The number of a name, which joins the nodes if it is new. -/
def addNode (graph : CallGraph) (name : String) : Nat × CallGraph :=
  match graph.index? name with
  | some index => (index, graph)
  | none => (graph.names.length, { graph with names := graph.names ++ [name] })

def addCall (graph : CallGraph) (call : Reference.Call) : CallGraph :=
  let (caller, graph) := graph.addNode call.caller
  let (callee, graph) := graph.addNode call.callee
  if (caller, callee) ∈ graph.links then graph
  else { graph with links := graph.links ++ [(caller, callee)] }

def addCalls (graph : CallGraph) (calls : List Reference.Call) : CallGraph :=
  calls.foldl addCall graph

def nodeCount (graph : CallGraph) : Nat := graph.names.length

def edgeCount (graph : CallGraph) : Nat := graph.links.length

def hasNode (graph : CallGraph) (name : String) : Bool := (graph.index? name).isSome

def hasEdge (graph : CallGraph) (caller callee : String) : Bool :=
  match graph.index? caller, graph.index? callee with
  | some a, some b => (a, b) ∈ graph.links
  | _, _ => false

def ends? (graph : CallGraph) (link : Nat × Nat) : Option (String × String) :=
  match graph.names[link.1]?, graph.names[link.2]? with
  | some caller, some callee => some (caller, callee)
  | _, _ => none

def nodes (graph : CallGraph) : List String := Ordered.ofList id graph.names

def edges (graph : CallGraph) : List (String × String) :=
  Ordered.ofList (fun pair => [pair.1, pair.2]) (graph.links.filterMap graph.ends?)

def callees (graph : CallGraph) (name : String) : List String :=
  match graph.index? name with
  | none => []
  | some index =>
    Ordered.ofList id
      ((graph.links.filter fun link => link.1 = index).filterMap fun link => graph.names[link.2]?)

end CallGraph

end CallAtlas
