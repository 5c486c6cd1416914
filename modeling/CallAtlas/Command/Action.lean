import CallAtlas.CommandLine.Request
import CallAtlas.Failure

set_option autoImplicit false
set_option relaxedAutoImplicit false

namespace CallAtlas

abbrev Action (α : Type) := ExceptT Failure (StateM World) α

namespace Action

variable {α : Type}

def ofTool (context : String) (question : StateM World (Except Tool.Error α)) : Action α :=
  ExceptT.mk do
    match ← question with
    | .ok answer => pure (.ok answer)
    | .error error => pure (.error (Failure.ofTool context error))

def ofSystem (context : String) (request : StateM World (Except SystemError α)) : Action α :=
  ExceptT.mk do
    match ← request with
    | .ok answer => pure (.ok answer)
    | .error error => pure (.error (Failure.ofSystem context error))

def ofExcept (result : Except Failure α) : Action α := ExceptT.mk (pure result)

def fail (message : String) : Action α := ofExcept (.error (Failure.plain message))

def print (lines : List String) : Action Unit := ExceptT.lift (World.print lines)

end Action

/-- Prints lines that are no result: quiet commands leave them out. -/
def Manner.say (manner : Manner) (lines : List String) : Action Unit :=
  if manner.quiet then pure () else Action.print lines

def Manner.coloured (manner : Manner) (code text : String) : String :=
  if manner.plain then text else "\x1B[" ++ code ++ "m" ++ text ++ "\x1B[39m"

end CallAtlas
