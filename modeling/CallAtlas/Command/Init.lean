import CallAtlas.Command.Action
import CallAtlas.Settings.Load
import CallAtlas.Settings.Template

set_option autoImplicit false
set_option relaxedAutoImplicit false

namespace CallAtlas.Command

/-- Writes the settings file into a directory; an old one is overwritten only on demand. -/
def runInit (directory : Path) (force : Bool) (manner : Manner) : Action Unit := do
  let file := directory.join ⟨Settings.fileName⟩
  let world ← get
  if world.disk.exists? world.workdir file && !force then
    Action.fail ("Config file already exists at " ++ file.text ++ ". Use --force to overwrite.")
  else do
    Action.ofSystem "Failed to write config file"
      (World.writeFile file (Settings.fileText Settings.standard))
    manner.say ["Created config file at " ++ file.text]

end CallAtlas.Command
