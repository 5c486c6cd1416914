import CallAtlas.Path.Basic

set_option autoImplicit false
set_option relaxedAutoImplicit false

namespace CallAtlas

structure Scope where
  files : List Path
  increasing : Ordered.Increasing Path.segments files

namespace Scope

def ofList (files : List Path) : Scope :=
  ⟨Ordered.ofList Path.segments files, Ordered.increasing_ofList _ _⟩

def size (scope : Scope) : Nat := scope.files.length

/-- The list of the files, a newline between each two. -/
def manifest (scope : Scope) : String :=
  String.ofList (Text.joinWith '\n' (scope.files.map fun file => file.text.toList))

end Scope

end CallAtlas
