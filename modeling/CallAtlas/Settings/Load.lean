import CallAtlas.Failure
import CallAtlas.Json.Reader
import CallAtlas.Settings.Environment
import CallAtlas.Settings.Reading
import CallAtlas.Toml.Reader
import CallAtlas.World.Basic
import CallAtlas.Yaml.Reader

set_option autoImplicit false
set_option relaxedAutoImplicit false

namespace CallAtlas.Settings

inductive Format
  | toml
  | yaml
  | json
  deriving DecidableEq

def fileName : String := "tracegraph.toml"

/-- The settings files; the first that exists is read. -/
def files : List (String × Format) :=
  [(fileName, .toml), ("tracegraph.yaml", .yaml), ("tracegraph.json", .json),
    (".tracegraph.toml", .toml)]

def withoutMark : List Char → List Char
  | '\uFEFF' :: rest => rest
  | text => text

/-- The layer of a file's text, which must be one table. -/
def Layer.read? (format : Format) (name : String) (text : String) : Option Layer :=
  let origin := some (Origin.file name)
  let source := withoutMark text.toList
  match format with
  | .toml => (Toml.read? source).map (Value.fieldsOfToml origin)
  | .json =>
    match Json.read? source with
    | some (.object fields) => some (Value.fieldsOfJson origin fields)
    | _ => none
  | .yaml =>
    match Yaml.read? source with
    | some (.mapping fields) => some (Value.fieldsOfYaml origin fields)
    | _ => none

def file? (world : World) : Option (String × Format) :=
  files.find? fun file => world.disk.exists? world.workdir ⟨file.1⟩

/-- The layer of the settings file; without a file it is empty.  A file that cannot be read has
none. -/
def fileLayer? (world : World) : Option Layer :=
  match file? world with
  | none => some []
  | some (name, format) =>
    match world.disk.read world.workdir ⟨name⟩ with
    | .error _ => none
    | .ok text => Layer.read? format name text

def unreadable : Failure := ⟨"Failed to load configuration", ["unreadable configuration file"]⟩

def load (world : World) : Except Failure Settings :=
  match fileLayer? world with
  | none => .error unreadable
  | some layer =>
    match ofLayers [layer, Layer.ofEnvironment world.environment] with
    | .ok settings => .ok settings
    | .error mismatch => .error ⟨"Failed to parse configuration", [mismatch.message]⟩

/-- Loads the settings, or takes the standard ones with a notice. -/
def loadOrStandard : StateM World Settings := do
  match load (← get) with
  | .ok settings => pure settings
  | .error failure => do
    World.notice (.defaultsUsed failure.chain)
    pure standard

end CallAtlas.Settings
