import CallAtlas.Text.Line
import CallAtlas.World.Disk

set_option autoImplicit false
set_option relaxedAutoImplicit false

/-!
Worlds: all that a command can see and change.  A world is a value: a disk, a working directory,
an environment, the way programs react, and a record of what has been started, printed and
logged so far.
-/

namespace CallAtlas

inductive Ending
  | exited (status : Nat)
  | signalled (signal : Nat)
  | hanging
  deriving DecidableEq

structure Reaction where
  output : List UInt8
  errors : List UInt8
  ending : Ending

/-- A program that was started, with the disk as it found it. -/
structure Invocation where
  program : Location
  arguments : List String
  workdir : Location
  disk : Disk

inductive Notice
  | defaultsUsed (reason : List String)
  | expanding (functions files : Nat)
  deriving DecidableEq

/-- All that a command can see and change.  Names, arguments and variables are texts.  Programs do
not change the disk: what they would write for themselves is not part of a world.  The script that
completes commands in a shell is made elsewhere: it is given by the name of the shell, without the
newline at its end. -/
structure World where
  disk : Disk
  workdir : Location
  environment : List (String × String)
  react : Invocation → Reaction
  completion : String → String
  started : List Invocation
  printed : List String
  notices : List Notice

namespace World

def lookupVariable (world : World) (name : String) : Option String := world.environment.lookup name

def absolute (world : World) (path : Path) : Path := world.workdir.path.join path

def print (lines : List String) : StateM World Unit :=
  modify fun world => { world with printed := world.printed ++ lines }

def notice (event : Notice) : StateM World Unit :=
  modify fun world => { world with notices := world.notices ++ [event] }

def output (world : World) : String :=
  String.ofList (Text.unlines (world.printed.map String.toList))

def writeFile (path : Path) (text : String) : StateM World (Except SystemError Unit) := do
  let world ← get
  match world.disk.write world.workdir path text with
  | .error error => pure (.error error)
  | .ok disk => do
    set { world with disk }
    pure (.ok ())

end World

end CallAtlas
