import CallAtlas.Command.Search
import CallAtlas.Inventory

set_option autoImplicit false
set_option relaxedAutoImplicit false

namespace CallAtlas.Command

def inventoryRow (row : String × Nat) : String := row.1 ++ "\t" ++ digits row.2

def runInventory (request : SearchRequest) (manner : Manner) : Action Unit := do
  let job ← request.prepare
  if manner.dryRun then
    manner.say (job.planHead "count occurrences per file" ++
      ["  Search tool: " ++ job.settings.tools.search])
  else do
    let hits ← job.locate (job.services manner)
    let counts := Inventory.ofHits job.root hits
    Action.print (counts.entries.map inventoryRow)
    manner.say [totalLine "files" job.pattern counts.size]

end CallAtlas.Command
