import CallAtlas.Tool.Error

set_option autoImplicit false
set_option relaxedAutoImplicit false

namespace CallAtlas

/-- Why a command ended without success: its messages, the outermost first. -/
structure Failure where
  message : String
  causes : List String
  deriving DecidableEq

namespace Failure

def chain (failure : Failure) : List String := failure.message :: failure.causes

def plain (message : String) : Failure := ⟨message, []⟩

def ofSystem (context : String) (error : SystemError) : Failure := ⟨context, [error.message]⟩

def ofTool (context : String) (error : Tool.Error) : Failure := ⟨context, error.chain⟩

end Failure

end CallAtlas
