import CallAtlas.Command.Action
import CallAtlas.CommandLine.Parse

set_option autoImplicit false
set_option relaxedAutoImplicit false

namespace CallAtlas

def World.makeDirectories (path : Path) : StateM World (Except SystemError Unit) := do
  let world ← get
  let (fault, disk) :=
    Disk.makeDirectories world.workdir (path.text.length + 1) world.disk path
  set { world with disk }
  match fault with
  | some error => pure (.error error)
  | none => pure (.ok ())

def Shell.completionFile : Shell → String
  | .bash => CommandLine.program ++ ".bash"
  | .elvish => CommandLine.program ++ ".elv"
  | .fish => CommandLine.program ++ ".fish"
  | .powershell => "_" ++ CommandLine.program ++ ".ps1"
  | .zsh => "_" ++ CommandLine.program

namespace Command

def runCompletions (shell : Shell) (directory : Option Path) (toOutput : Bool)
    (manner : Manner) : Action Unit := do
  let world ← get
  let script := world.completion shell.name
  if toOutput then Action.print [script]
  else
    match directory with
    | none => Action.fail "--out-dir is required unless --stdout is set"
    | some directory => do
      Action.ofSystem ("Failed to create " ++ directory.text) (World.makeDirectories directory)
      let file := directory.join ⟨shell.completionFile⟩
      Action.ofSystem "Failed to write completion script"
        (World.writeFile file (script ++ "\n"))
      manner.say ["Wrote " ++ shell.name ++ " completions to " ++ file.text]

end Command

end CallAtlas
