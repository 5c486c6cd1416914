import CallAtlas.Path.Scope
import CallAtlas.Reference.Row
import CallAtlas.Services.Basic

set_option autoImplicit false
set_option relaxedAutoImplicit false

namespace CallAtlas.Reference

variable {m : Type → Type} [Monad m]

def manifestName : Path := ⟨"cscope.files"⟩

structure Database where
  workdir : Path
  manifest : Path
  size : Nat
  column : Column

namespace Database

def buildIn (services : Services m) (scratch : Scratch m) (scope : Scope) (column : Column)
    (workdir : Path) : m (Except Tool.Error Database) := do
  let manifest := workdir.join manifestName
  match ← scratch.write manifest scope.manifest with
  | .error cause => pure (.error ⟨.build, .workspace cause⟩)
  | .ok _ =>
    match ← services.build workdir manifest with
    | .error error => pure (.error error)
    | .ok _ => pure (.ok ⟨workdir, manifest, scope.size, column⟩)

/-- Builds the database of a scope in a new directory, which is removed if that fails. -/
def build (services : Services m) (scratch : Scratch m) (scope : Scope) (column : Column) :
    m (Except Tool.Error Database) := do
  match ← scratch.create with
  | .error cause => pure (.error ⟨.build, .workspace cause⟩)
  | .ok workdir =>
    match ← buildIn services scratch scope column workdir with
    | .error error => do
      scratch.remove workdir
      pure (.error error)
    | .ok database => pure (.ok database)

def close (scratch : Scratch m) (database : Database) : m Unit :=
  scratch.remove database.workdir

def callsOf (services : Services m) (database : Database) (function : String) :
    m (Except Tool.Error (List Call)) := do
  match ← services.query database.workdir function with
  | .error error => pure (.error error)
  | .ok rows => pure (.ok (calls database.column function rows))

end Database

end CallAtlas.Reference
