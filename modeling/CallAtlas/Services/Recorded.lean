import CallAtlas.Path.Relative
import CallAtlas.Services.Basic

set_option autoImplicit false
set_option relaxedAutoImplicit false

/-!
Collaborators that answer from a given behaviour.  Every question is kept in a journal, and an
answer may depend on the questions before it.
-/

namespace CallAtlas

/-- What was asked of the collaborators and of the scratch space. -/
inductive Event
  | search (pattern : String) (root : Path)
  | tag (file : Path)
  | build (workdir manifest : Path) (listing : Option String)
  | query (workdir : Path) (function : String)
  | create (workdir : Path)
  | write (file : Path) (text : String)
  | remove (workdir : Path)
  deriving DecidableEq

structure Behaviour where
  search : List Event → String → Path → Except Tool.Error Hits
  tag : List Event → Path → Except Tool.Error (List Tag.Record)
  build : List Event → Option String → Except Tool.Error Unit
  query : List Event → String → Except Tool.Error (List String)

/-- The events so far, the oldest first, with the scratch directories and files there are. -/
structure Session where
  journal : List Event
  directories : List Path
  files : List (Path × String)

namespace Session

def start : Session := ⟨[], [], []⟩

def note (event : Event) (session : Session) : Session :=
  { session with journal := session.journal ++ [event] }

def nextDirectory (session : Session) : Path :=
  ⟨String.ofList ("/scratch/".toList ++ Nat.toDigits 10 session.journal.length)⟩

def textOf? (session : Session) (file : Path) : Option String := session.files.lookup file

end Session

def Services.recorded (behaviour : Behaviour) : Services (StateM Session) where
  search pattern root := do
    let session ← get
    set (session.note (.search pattern root))
    pure (behaviour.search session.journal pattern root)
  tag file := do
    let session ← get
    set (session.note (.tag file))
    pure (behaviour.tag session.journal file)
  build workdir manifest := do
    let session ← get
    let listing := session.textOf? manifest
    set (session.note (.build workdir manifest listing))
    pure (behaviour.build session.journal listing)
  query workdir function := do
    let session ← get
    set (session.note (.query workdir function))
    pure (behaviour.query session.journal function)

/-- Scratch directories of a session, which can always be made and written to. -/
def Scratch.recorded : Scratch (StateM Session) where
  create := do
    let session ← get
    let workdir := session.nextDirectory
    set { session.note (.create workdir) with directories := workdir :: session.directories }
    pure (.ok workdir)
  write file text := do
    let session ← get
    set { session.note (.write file text) with files := (file, text) :: session.files }
    pure (.ok ())
  remove workdir := do
    let session ← get
    set { session.note (.remove workdir) with
      directories := session.directories.filter (· ≠ workdir)
      files := session.files.filter fun entry => (Path.below? workdir entry.1).isNone }

end CallAtlas
