import CallAtlas.World.Basic

set_option autoImplicit false
set_option relaxedAutoImplicit false

namespace CallAtlas

def Location.ofPath (path : Path) : Location :=
  ((Text.pieces Path.slash path.bytes).filter fun piece => !Path.isIdle piece).map Text.decodeLossy

namespace Disk

def empty : Disk := ⟨[]⟩

def ensureFrom (here : Location) : List String → Disk → Disk
  | [], disk => disk
  | name :: rest, disk =>
    let there := here ++ [name]
    match disk.node? there with
    | none => ensureFrom there rest (disk.put there .directory)
    | some _ => ensureFrom there rest disk

def ensure (disk : Disk) (location : Location) : Disk := ensureFrom [] location disk

def install (disk : Disk) (location : Location) (node : Node) : Disk :=
  (disk.ensure location.dropLast).put location node

def filesBelow (disk : Disk) (location : Location) : List (Location × String) :=
  disk.entries.filterMap fun (there, node) =>
    match node with
    | .file text =>
      if location.isPrefixOf there then some (there.drop location.length, text) else none
    | _ => none

end Disk

def Reaction.silent : Reaction := ⟨[], [], .exited 0⟩

/-- A reaction to invocations with a certain first and a certain last argument, as far as they are
given. -/
structure Rule where
  first : Option String
  last : Option String
  reaction : Reaction

def Rule.applies (rule : Rule) (arguments : List String) : Bool :=
  (rule.first.isNone || arguments.head? == rule.first) &&
    (rule.last.isNone || arguments.getLast? == rule.last)

abbrev Script := List Rule

def Script.react (script : Script) (arguments : List String) : Reaction :=
  ((script.find? fun rule => rule.applies arguments).map Rule.reaction).getD Reaction.silent

namespace World

/-- The reaction of programs that follow the scripts at their places. -/
def reactWith (scripts : List (Location × Script)) (invocation : Invocation) : Reaction :=
  ((scripts.lookup invocation.program).getD []).react invocation.arguments

def start (disk : Disk) (workdir : Location) (environment : List (String × String))
    (scripts : List (Location × Script)) : World :=
  let withPrograms := scripts.foldl (fun disk script => disk.install script.1 .program) disk
  { disk := withPrograms.ensure workdir
    workdir
    environment
    react := reactWith scripts
    completion := id
    started := []
    printed := []
    notices := [] }

end World

end CallAtlas
