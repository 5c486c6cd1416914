import CallAtlas.Command.Search

set_option autoImplicit false
set_option relaxedAutoImplicit false

namespace CallAtlas.Command

def indexRow (row : Occurrence.Key × Nat) : String :=
  row.1.file ++ "\t" ++ row.1.function ++ "\t" ++ digits row.2

/-- Counts occurrences per file and function and prints the counts, in the order of the keys or
by falling counts. -/
def runIndex (request : SearchRequest) (byCount : Bool) (manner : Manner) : Action Unit := do
  let job ← request.prepare
  let tools := job.settings.tools
  if manner.dryRun then
    manner.say (job.planHead "index" ++
      ["  Search tool: " ++ tools.search, "  Tag tool: " ++ tools.tags])
  else do
    let services := job.services manner
    let hits ← job.locate services
    let table ← job.tabulate services hits
    Action.print ((if byCount then table.byCount else table.entries).map indexRow)
    manner.say [totalLine "(file, function) pairs" job.pattern table.size]

end CallAtlas.Command
