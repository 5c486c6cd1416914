import CallAtlas.Services.Basic
import CallAtlas.World.Program

set_option autoImplicit false
set_option relaxedAutoImplicit false

namespace CallAtlas

inductive SearchMode
  | literal
  | regex
  deriving DecidableEq

/-- The programs that answer, the time each of them gets, and how patterns are understood. -/
structure Toolbox where
  search : String
  tags : String
  crossReference : String
  limit : Option Duration
  mode : SearchMode

namespace Toolbox

def searchArguments (mode : SearchMode) (pattern : String) (root : Path) : List String :=
  ["--no-heading", "--with-filename", "--line-number", "--ignore-case", "--only-matching",
      "--null", "--color", "never"] ++
    (match mode with
      | .literal => ["--fixed-strings"]
      | .regex => []) ++
    ["--regexp", pattern, root.text]

/-- Status zero comes with hits and status one without any. -/
def readSearch (outcome : World.Outcome) : Except Tool.Error Hits :=
  if outcome.status = some 0 then .ok (Hits.read outcome.output)
  else if outcome.status = some 1 then .ok Hits.empty
  else .error (outcome.failure .search)

def runChecked (toolbox : Toolbox) (service : Tool.Service) (command : World.Command) :
    StateM World (Except Tool.Error World.Outcome) := do
  match ← World.run service toolbox.limit command with
  | .error error => pure (.error error)
  | .ok outcome => pure (outcome.requireSuccess service)

end Toolbox

/-- The questions as commands of a world.  A program is given the text of a path; the paths that come
up in a world, from settings, arguments and outputs, are texts. -/
def Services.programs (toolbox : Toolbox) : Services (StateM World) where
  search pattern root := do
    match ← World.run .search toolbox.limit
        ⟨toolbox.search, Toolbox.searchArguments toolbox.mode pattern root, none⟩ with
    | .error error => pure (.error error)
    | .ok outcome => pure (Toolbox.readSearch outcome)
  tag file := do
    match ← toolbox.runChecked .tag
        ⟨toolbox.tags, ["--output-format=json", "--fields=+n", "-o", "-", file.text], none⟩ with
    | .error error => pure (.error error)
    | .ok outcome => pure (.ok (Tag.read outcome.output))
  build workdir manifest := do
    match ← toolbox.runChecked .build
        ⟨toolbox.crossReference, ["-b", "-q", "-i", manifest.text], some workdir⟩ with
    | .error error => pure (.error error)
    | .ok _ => pure (.ok ())
  query workdir function := do
    match ← toolbox.runChecked .query
        ⟨toolbox.crossReference, ["-d", "-L", "-2", function], some workdir⟩ with
    | .error error => pure (.error error)
    | .ok outcome => pure (.ok ((Text.lines outcome.output.toList).map String.ofList))

namespace World

def scratchName (number : Nat) : String :=
  "tracegraph-xref-" ++ String.ofList (Text.decimal number)

/-- Whether nothing stands at a place or below it. -/
def isFree (disk : Disk) (location : Location) : Bool :=
  disk.entries.all fun entry => !location.isPrefixOf entry.1

def freeScratchName (disk : Disk) (directory : Location) : String :=
  let numbers := List.range (disk.entries.length + 1)
  scratchName ((numbers.find? fun number => isFree disk (directory ++ [scratchName number])).getD 0)

def createScratch : StateM World (Except SystemError Path) := do
  let world ← get
  match world.disk.lookup world.workdir world.temporary with
  | .ok (directory, .directory) =>
    let path := world.temporary.join ⟨freeScratchName world.disk directory⟩
    match world.disk.makeDirectory world.workdir path with
    | .error error => pure (.error (.located error path))
    | .ok disk => do
      set { world with disk }
      pure (.ok path)
  | .ok _ => pure (.error (.located .notDirectory (world.temporary.join ⟨scratchName 0⟩)))
  | .error error => pure (.error (.located error (world.temporary.join ⟨scratchName 0⟩)))

def removeScratch (path : Path) : StateM World Unit := do
  let world ← get
  match world.disk.lookup world.workdir path with
  | .ok (location, .directory) => set { world with disk := world.disk.remove location }
  | _ => pure ()

end World

def Scratch.temporary : Scratch (StateM World) where
  create := World.createScratch
  write := World.writeFile
  remove := World.removeScratch

end CallAtlas
