import CallAtlas.Command.Action
import CallAtlas.Occurrence.Attribution
import CallAtlas.Root
import CallAtlas.Settings.Load

set_option autoImplicit false
set_option relaxedAutoImplicit false

namespace CallAtlas

structure SearchJob where
  settings : Settings
  root : Path
  pattern : String
  mode : SearchMode

def SearchRequest.prepare (request : SearchRequest) : Action SearchJob := do
  let settings ← ExceptT.lift Settings.loadOrStandard
  let world ← get
  let root ← Action.ofExcept (Root.resolve world request.root settings.root)
  let pattern := request.pattern.getD settings.pattern
  if pattern = "" then Action.fail "Search pattern must not be empty"
  else pure ⟨settings, root, pattern, request.mode⟩

namespace SearchJob

def services (job : SearchJob) (manner : Manner) : Services (StateM World) :=
  let tools := job.settings.tools
  Services.programs
    ⟨tools.search, tools.tags, tools.crossReference, tools.limit manner.seconds, job.mode⟩

def locate (job : SearchJob) (services : Services (StateM World)) : Action Hits :=
  Action.ofTool ("Failed to search for '" ++ job.pattern ++ "' under " ++ job.root.text)
    (services.search job.pattern job.root)

def tabulate (job : SearchJob) (services : Services (StateM World)) (hits : Hits) :
    Action Occurrence.Table :=
  Action.ofTool "Failed to attribute matches to functions"
    (Occurrence.tabulate services job.root hits)

def planHead (job : SearchJob) (heading : String) : List String :=
  ["DRY RUN: Would " ++ heading ++ ":", "  Root: " ++ job.root.text,
    "  Pattern: " ++ job.pattern]

end SearchJob

def digits (n : Nat) : String := String.ofList (Text.decimal n)

/-- The line about how many rows were found for a pattern, after an empty one. -/
def totalLine (rows pattern : String) (count : Nat) : String :=
  "\nTotal " ++ rows ++ " containing '" ++ pattern ++ "': " ++ digits count

end CallAtlas
