import CallAtlas.CallGraph.Assembly
import CallAtlas.CallGraph.Dot
import CallAtlas.Command.Search
import CallAtlas.Occurrence.Selection

set_option autoImplicit false
set_option relaxedAutoImplicit false

namespace CallAtlas.Command

def callGraphPlan (job : SearchJob) (limit : Nat) (output : Path) (manner : Manner) :
    List String :=
  match job.planHead "build call graph" with
  | heading :: rest =>
    manner.coloured "33" heading :: rest ++
      ["  Functions: top " ++ digits limit,
        "  Cross-reference tool: " ++ job.settings.tools.crossReference,
        "  Output: " ++ output.text]
  | [] => []

def runCallGraph (request : SearchRequest) (limit : Option Nat) (output : Option Path)
    (manner : Manner) : Action Unit := do
  let job ← request.prepare
  let limit := limit.getD job.settings.graph.limit
  let output := output.getD job.settings.graph.output
  if manner.dryRun then manner.say (callGraphPlan job limit output manner)
  else do
    let services := job.services manner
    let hits ← job.locate services
    let table ← job.tabulate services hits
    let chosen := Occurrence.select table job.root limit
    ExceptT.lift (World.notice (.expanding chosen.functions.length chosen.scope.size))
    let graph ← Action.ofTool "Failed to assemble call graph"
      (CallGraph.assemble services Scratch.temporary chosen.functions chosen.scope
        job.settings.tools.column)
    Action.ofSystem ("Failed to write " ++ output.text) (World.writeFile output graph.dot)
    let mark := if manner.plain then "" else manner.coloured "32" "✓" ++ " "
    manner.say [mark ++ "wrote " ++ output.text]

end CallAtlas.Command
