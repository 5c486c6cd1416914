import CallAtlas.Text.Blank
import CallAtlas.Tool.Duration
import CallAtlas.Tool.SystemError

set_option autoImplicit false
set_option relaxedAutoImplicit false

namespace CallAtlas.Tool

inductive Service
  | search
  | tag
  | build
  | query
  deriving DecidableEq

def Service.name : Service → String
  | .search => "search"
  | .tag => "tag"
  | .build => "database build"
  | .query => "cross-reference query"

/-- Why a tool did not do its work: it ended with an error, with its exit status if no signal
ended it; it could not be started; it ran beyond the time limit; or the files around its run could
not be used. -/
inductive Fault
  | failed (status : Option Int) (diagnostic : String)
  | unavailable (cause : SystemError)
  | timedOut (limit : Duration)
  | workspace (cause : SystemError)
  deriving DecidableEq

structure Error where
  service : Service
  fault : Fault
  deriving DecidableEq

namespace Error

def statusText : Option Int → String
  | some status => "status " ++ String.ofList (Text.signedDecimal status)
  | none => "no status (terminated by signal)"

def message (error : Error) : String :=
  error.service.name ++
    match error.fault with
    | .failed status diagnostic =>
      " service exited with " ++ statusText status ++ ": " ++
        String.ofList (Text.trim diagnostic.toList)
    | .unavailable cause => " service is unavailable: " ++ cause.message
    | .timedOut limit => " service timed out after " ++ limit.text
    | .workspace cause => " service workspace error: " ++ cause.message

def cause? (error : Error) : Option SystemError :=
  match error.fault with
  | .unavailable cause => some cause
  | .workspace cause => some cause
  | _ => none

def exitStatus? (error : Error) : Option Int :=
  match error.fault with
  | .failed status _ => status
  | _ => none

def isTimeout (error : Error) : Bool :=
  match error.fault with
  | .timedOut _ => true
  | _ => false

def chain (error : Error) : List String :=
  error.message :: (error.cause?.map SystemError.message).toList

end Error

end CallAtlas.Tool
