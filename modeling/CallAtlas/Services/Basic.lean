import CallAtlas.Hits.Record
import CallAtlas.Tag.Record
import CallAtlas.Tool.Error

set_option autoImplicit false
set_option relaxedAutoImplicit false

/-!
The external collaborators, as the questions that can be put to them.  Everything that needs a
collaborator is written for any monad in which the questions are answered, so that a run against
recorded answers and a run against programs are the same run.
-/

namespace CallAtlas

/-- The questions to the search, tag and cross-reference tools. -/
structure Services (m : Type → Type) where
  search : String → Path → m (Except Tool.Error Hits)
  tag : Path → m (Except Tool.Error (List Tag.Record))
  /-- Builds the reference database in a directory from the list of files in a manifest. -/
  build : Path → Path → m (Except Tool.Error Unit)
  /-- The rows about the functions that a function calls, from the database in a directory. -/
  query : Path → String → m (Except Tool.Error (List String))

structure Scratch (m : Type → Type) where
  create : m (Except SystemError Path)
  write : Path → String → m (Except SystemError Unit)
  remove : Path → m Unit

end CallAtlas
