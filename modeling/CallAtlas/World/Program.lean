import CallAtlas.Text.Utf8
import CallAtlas.Tool.Error
import CallAtlas.World.Basic

set_option autoImplicit false
set_option relaxedAutoImplicit false

/-!
Running programs: finding the executable, starting it, and waiting for its end or for the time
limit.  What it writes is kept in two spool files in the temporary directory and read as UTF-8.
-/

namespace CallAtlas.World

structure Command where
  program : String
  arguments : List String
  workdir : Option Path

/-- What a program left behind.  A program that a signal ended has no exit status. -/
structure Outcome where
  status : Option Int
  output : String
  errors : String
  deriving DecidableEq

def temporary (world : World) : Path :=
  match world.lookupVariable "TMPDIR" with
  | some text => world.absolute ⟨text⟩
  | none => ⟨"/tmp"⟩

def spoolFault? (world : World) : Option SystemError :=
  match world.disk.lookup world.workdir world.temporary with
  | .ok (_, .directory) => none
  | .ok _ => some .notDirectory
  | .error error => some error

def executable (disk : Disk) (workdir : Location) (path : Path) : Except SystemError Location :=
  match disk.lookup workdir path with
  | .error error => .error error
  | .ok (location, .program) => .ok location
  | .ok _ => .error .denied

/-- Looks for a program in directories.  A forbidden file is remembered while the search goes on;
a fault other than a missing file ends it. -/
def searchIn (disk : Disk) (workdir : Location) (name : String) (denied : Bool) :
    List (List Char) → Except SystemError Location
  | [] => .error (if denied then .denied else .notFound)
  | directory :: rest =>
    let path : Path :=
      if directory = [] then ⟨name⟩ else (Path.mk (String.ofList directory)).join ⟨name⟩
    match executable disk workdir path with
    | .ok location => .ok location
    | .error error =>
      if error = .denied then searchIn disk workdir name true rest
      else if error = .notFound ∨ error = .notDirectory then
        searchIn disk workdir name denied rest
      else .error error

def searchPath (world : World) : List (List Char) :=
  Text.pieces ':' ((world.lookupVariable "PATH").getD "/bin:/usr/bin").toList

/-- The executable of a program name: a path is taken as it is, any other name is looked for. -/
def locate (world : World) (workdir : Location) (name : String) : Except SystemError Location :=
  if name = "" then .error .notFound
  else if name.toList.contains '/' then executable world.disk workdir ⟨name⟩
  else if Disk.nameMax < name.utf8ByteSize then .error .nameTooLong
  else searchIn world.disk workdir name false world.searchPath

def nulInArgument : SystemError := .free "nul byte found in provided data"

/-- The size in bytes from which on an argument is refused. -/
def argumentMax : Nat := 131072

def commandWorkdir (world : World) (command : Command) : Except SystemError Location :=
  match command.workdir with
  | none => .ok world.workdir
  | some path =>
    match world.disk.lookup world.workdir path with
    | .ok (location, .directory) => .ok location
    | .ok _ => .error .notDirectory
    | .error error => .error error

def invocation (world : World) (command : Command) : Except SystemError Invocation :=
  let texts := command.program :: command.arguments ++ (command.workdir.map Path.text).toList
  if texts.any Disk.holdsNul then .error nulInArgument
  else
    match commandWorkdir world command with
    | .error error => .error error
    | .ok workdir =>
      match world.locate workdir command.program with
      | .error error => .error error
      | .ok program =>
        if command.arguments.any fun argument => argumentMax ≤ argument.utf8ByteSize then
          .error .argumentsTooLong
        else .ok ⟨program, command.arguments, workdir, world.disk⟩

/-- What is left of a reaction.  Only a time limit ends a program that hangs.  Without one the wait
has no end of its own; what is said of it holds once somebody ends the program by a signal. -/
def Outcome.ofReaction (service : Tool.Service) (limit : Option Duration) (reaction : Reaction) :
    Except Tool.Error Outcome :=
  let ended (status : Option Int) : Except Tool.Error Outcome :=
    .ok ⟨status, Text.decodeLossy reaction.output, Text.decodeLossy reaction.errors⟩
  match reaction.ending, limit with
  | .exited status, _ => ended (some ((status % 256 : Nat) : Int))
  | .signalled _, _ => ended none
  | .hanging, some limit => .error ⟨service, .timedOut limit⟩
  | .hanging, none => ended none

def run (service : Tool.Service) (limit : Option Duration) (command : Command) :
    StateM World (Except Tool.Error Outcome) := do
  let world ← get
  match world.spoolFault? with
  | some cause => pure (.error ⟨service, .workspace cause⟩)
  | none =>
    match world.invocation command with
    | .error cause => pure (.error ⟨service, .unavailable cause⟩)
    | .ok invocation => do
      set { world with started := world.started ++ [invocation] }
      pure (Outcome.ofReaction service limit (world.react invocation))

def Outcome.failure (service : Tool.Service) (outcome : Outcome) : Tool.Error :=
  ⟨service, .failed outcome.status outcome.errors⟩

def Outcome.requireSuccess (service : Tool.Service) (outcome : Outcome) :
    Except Tool.Error Outcome :=
  if outcome.status = some 0 then .ok outcome else .error (outcome.failure service)

end CallAtlas.World
