import CallAtlas.Json.Reader
import CallAtlas.Program
import CallAtlas.World.Description

set_option autoImplicit false
set_option relaxedAutoImplicit false

namespace CallAtlas.Main

partial def readAll (stream : IO.FS.Stream) (text : String) : IO String := do
  let line ← stream.getLine
  if line.isEmpty then pure text else readAll stream (text ++ line)

def writeFiles (old new : Disk) : IO Unit := do
  let known := old.filesBelow []
  for (location, text) in new.filesBelow [] do
    if !known.contains (location, text) then
      IO.FS.createDirAll (Location.path location.dropLast).text
      IO.FS.writeFile location.path.text text

end CallAtlas.Main

open CallAtlas

def main (arguments : List String) : IO UInt32 := do
  let description ← Main.readAll (← IO.getStdin) ""
  match Json.read? description.toList with
  | none => do
    (← IO.getStderr).putStrLn "the description of the world is not valid JSON"
    pure 2
  | some json => do
    let world := World.ofJson json
    let done := Program.run arguments world
    Main.writeFiles world.disk done.world.disk
    (← IO.getStdout).putStr done.output
    (← IO.getStderr).putStr done.errors
    pure done.status.toUInt32
