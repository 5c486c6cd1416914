import CallAtlas.CallGraph.Assembly
import CallAtlas.Inventory
import CallAtlas.Occurrence.Attribution
import CallAtlas.Occurrence.Selection

set_option autoImplicit false
set_option relaxedAutoImplicit false

namespace CallAtlas

structure Survey.Located where
  hits : Hits
  inventory : Inventory

structure Survey.Attributed extends Survey.Located where
  table : Occurrence.Table
  selection : Occurrence.Selection

/-- How far a run came. -/
inductive Survey
  | unlocated (error : Tool.Error)
  | unattributed (found : Survey.Located) (error : Tool.Error)
  | unassembled (found : Survey.Attributed) (error : Tool.Error)
  | complete (found : Survey.Attributed) (graph : CallGraph)

namespace Survey

structure Request where
  pattern : String
  root : Path
  limit : Nat
  column : Reference.Column

variable {m : Type → Type} [Monad m]

def finish (services : Services m) (scratch : Scratch m) (request : Request)
    (found : Attributed) : m Survey := do
  match ← CallGraph.assemble services scratch found.selection.functions found.selection.scope
      request.column with
  | .error error => pure (.unassembled found error)
  | .ok graph => pure (.complete found graph)

def run (services : Services m) (scratch : Scratch m) (request : Request) : m Survey := do
  match ← services.search request.pattern request.root with
  | .error error => pure (.unlocated error)
  | .ok hits =>
    let located : Located := ⟨hits, Inventory.ofHits request.root hits⟩
    match ← Occurrence.tabulate services request.root hits with
    | .error error => pure (.unattributed located error)
    | .ok table =>
      finish services scratch request
        { located with
          table
          selection := Occurrence.select table request.root request.limit }

def failure? : Survey → Option Tool.Error
  | .unlocated error => some error
  | .unattributed _ error => some error
  | .unassembled _ error => some error
  | .complete _ _ => none

def located? : Survey → Option Located
  | .unlocated _ => none
  | .unattributed found _ => some found
  | .unassembled found _ => some found.toLocated
  | .complete found _ => some found.toLocated

def attributed? : Survey → Option Attributed
  | .unlocated _ => none
  | .unattributed _ _ => none
  | .unassembled found _ => some found
  | .complete found _ => some found

def graph? : Survey → Option CallGraph
  | .complete _ graph => some graph
  | _ => none

end Survey

end CallAtlas
