import CallAtlas.Path.Relative
import CallAtlas.Text.Utf8
import CallAtlas.Tool.SystemError

set_option autoImplicit false
set_option relaxedAutoImplicit false

/-!
Disks: a tree of directories, files, programs and symbolic links, and the way a path leads
through it.  Every step of a path must start in a directory, and at most forty links are
followed.  The file system takes only texts for names and refuses other paths.
-/

namespace CallAtlas

/-- A place on a disk: the names on the way from the root. -/
abbrev Location := List String

/-- What can stand at a place.  Only files that hold a text are considered. -/
inductive Node
  | directory
  | file (text : String)
  | program
  | link (target : String)
  deriving DecidableEq

/-- What stands where.  The root is always a directory. -/
structure Disk where
  entries : List (Location × Node)

def Location.path (location : Location) : Path :=
  ⟨String.ofList ('/' :: Text.joinWith '/' (location.map String.toList))⟩

namespace Disk

def node? (disk : Disk) (location : Location) : Option Node :=
  if location = [] then some .directory else disk.entries.lookup location

def put (disk : Disk) (location : Location) (node : Node) : Disk :=
  ⟨(location, node) :: disk.entries.filter fun entry => entry.1 ≠ location⟩

def remove (disk : Disk) (location : Location) : Disk :=
  ⟨disk.entries.filter fun entry => !location.isPrefixOf entry.1⟩

inductive Step
  | stay
  | up
  | down (name : String)
  deriving DecidableEq

def Step.ofPiece (piece : List Char) : Step :=
  if piece = [] ∨ piece = ['.'] then .stay
  else if piece = ['.', '.'] then .up
  else .down (String.ofList piece)

def steps (text : String) : List Step := (Text.pieces '/' text.toList).map Step.ofPiece

/-- Where a path leads.  Only what its last name stands for may be missing. -/
structure Arrival where
  location : Location
  node : Option Node

def nameMax : Nat := 255

def pathMax : Nat := 4095

def linksMax : Nat := 40

/-- Walks along steps from a place.  A link is handed to `follow` with the steps after it, but a
last link is followed only on demand. -/
def walkWith (disk : Disk) (followLast : Bool)
    (follow : Location → List Step → Except SystemError Arrival) (here : Location) :
    List Step → Except SystemError Arrival
  | [] => .ok ⟨here, disk.node? here⟩
  | step :: rest =>
    match disk.node? here with
    | none => .error .notFound
    | some .directory =>
      match step with
      | .stay => walkWith disk followLast follow here rest
      | .up => walkWith disk followLast follow here.dropLast rest
      | .down name =>
        let there := here ++ [name]
        if nameMax < name.utf8ByteSize then .error .nameTooLong
        else
          match disk.node? there with
          | none => if rest.isEmpty then .ok ⟨there, none⟩ else .error .notFound
          | some (.link target) =>
            if rest.isEmpty && !followLast then .ok ⟨there, some (.link target)⟩
            else
              follow (if (Path.mk target).isAbsolute then [] else here) (steps target ++ rest)
          | some _ => walkWith disk followLast follow there rest
    | some _ => .error .notDirectory

def walk (disk : Disk) (followLast : Bool) : Nat → Location → List Step → Except SystemError Arrival
  | 0, here, steps => walkWith disk followLast (fun _ _ => .error .linkLoop) here steps
  | links + 1, here, steps => walkWith disk followLast (walk disk followLast links) here steps

def holdsNul (text : String) : Bool := text.toList.contains '\x00'

def nulInPath : SystemError := .free "file name contained an unexpected NUL byte"

def arrive (disk : Disk) (followLast : Bool) (workdir : Location) (path : Path) :
    Except SystemError Arrival :=
  if holdsNul path.text then .error nulInPath
  else if path.text = "" then .error .notFound
  else if ¬path.IsText then .error .noText
  else if pathMax < path.text.utf8ByteSize then .error .nameTooLong
  else walk disk followLast linksMax (if path.isAbsolute then [] else workdir) (steps path.text)

def lookup (disk : Disk) (workdir : Location) (path : Path) :
    Except SystemError (Location × Node) :=
  match disk.arrive true workdir path with
  | .error error => .error error
  | .ok ⟨_, none⟩ => .error .notFound
  | .ok ⟨location, some node⟩ => .ok (location, node)

def exists? (disk : Disk) (workdir : Location) (path : Path) : Bool :=
  (disk.lookup workdir path).toOption.isSome

def isDirectory (disk : Disk) (workdir : Location) (path : Path) : Bool :=
  match disk.lookup workdir path with
  | .ok (_, .directory) => true
  | _ => false

/-- The text of the file that a path leads to; a program has none to read. -/
def read (disk : Disk) (workdir : Location) (path : Path) : Except SystemError String :=
  match disk.lookup workdir path with
  | .error error => .error error
  | .ok (_, .file text) => .ok text
  | .ok (_, .program) => .ok ""
  | .ok _ => .error .isDirectory

/-- The path without slashes at its end, unless it is nothing but slashes. -/
def withoutSlashes (path : Path) : Path :=
  match path.bytes.reverse.dropWhile (· = Path.slash) with
  | [] => path
  | rest => ⟨rest.reverse⟩

/-- Where writing to a path would put a file.  A path with a slash after its last name can only
name a directory. -/
def target (disk : Disk) (workdir : Location) (path : Path) : Except SystemError Location :=
  match disk.arrive true workdir path with
  | .ok ⟨location, none⟩ => .ok location
  | .ok ⟨_, some .directory⟩ => .error .isDirectory
  | .ok ⟨location, some _⟩ => .ok location
  | .error error =>
    if path.text.toList.getLast? = some '/' then
      match disk.arrive false workdir (withoutSlashes path) with
      | .ok _ => .error .isDirectory
      | .error error => .error error
    else .error error

def write (disk : Disk) (workdir : Location) (path : Path) (text : String) :
    Except SystemError Disk :=
  match disk.target workdir path with
  | .error error => .error error
  | .ok location => .ok (disk.put location (.file text))

def makeDirectory (disk : Disk) (workdir : Location) (path : Path) : Except SystemError Disk :=
  match disk.arrive false workdir (withoutSlashes path) with
  | .error error => .error error
  | .ok ⟨_, some _⟩ => .error .alreadyExists
  | .ok ⟨location, none⟩ => .ok (disk.put location .directory)

/-- Makes a directory and those above it that are missing, at most the given number of levels.
What has been made stays, also before a fault. -/
def makeDirectories (workdir : Location) : Nat → Disk → Path → Option SystemError × Disk
  | 0, disk, _ => (some .notFound, disk)
  | levels + 1, disk, path =>
    if path.text = "" then (none, disk)
    else
      match disk.makeDirectory workdir path with
      | .ok made => (none, made)
      | .error .notFound =>
        match path.parent? with
        | none => (some (.free "failed to create whole tree"), disk)
        | some parent =>
          match makeDirectories workdir levels disk parent with
          | (some error, disk) => (some error, disk)
          | (none, disk) =>
            match disk.makeDirectory workdir path with
            | .ok made => (none, made)
            | .error error =>
              if disk.isDirectory workdir path then (none, disk) else (some error, disk)
      | .error error =>
        if disk.isDirectory workdir path then (none, disk) else (some error, disk)

end Disk

end CallAtlas
