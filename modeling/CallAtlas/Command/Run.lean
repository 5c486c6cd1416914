import CallAtlas.Command.CallGraph
import CallAtlas.Command.Completions
import CallAtlas.Command.Index
import CallAtlas.Command.Init
import CallAtlas.Command.Inventory

set_option autoImplicit false
set_option relaxedAutoImplicit false

namespace CallAtlas

def Command.run (manner : Manner) : Command → Action Unit
  | .inventory search => runInventory search manner
  | .index search byCount => runIndex search byCount manner
  | .callGraph search limit output => runCallGraph search limit output manner
  | .init directory force => runInit directory force manner
  | .completions shell directory toOutput => runCompletions shell directory toOutput manner

def Request.perform (request : Request) (world : World) : Except Failure Unit × World :=
  (request.command.run request.manner).run world

end CallAtlas
