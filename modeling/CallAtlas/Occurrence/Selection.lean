import CallAtlas.Occurrence.Table
import CallAtlas.Path.Scope

set_option autoImplicit false
set_option relaxedAutoImplicit false

namespace CallAtlas.Occurrence

/-- Functions to expand, the most frequent first, and the files that a reference database about
them must cover. -/
structure Selection where
  functions : List String
  scope : Scope

def topKeys (table : Table) (limit : Nat) : List Key :=
  ((table.byCount.map Prod.fst).filter fun key => !key.isGlobal).take limit

/-- The functions of the most frequent keys, each once, and their files below the root. -/
def select (table : Table) (root : Path) (limit : Nat) : Selection :=
  let keys := topKeys table limit
  ⟨(keys.map Key.function).eraseDups, Scope.ofList (keys.map fun key => root.join ⟨key.file⟩)⟩

end CallAtlas.Occurrence
