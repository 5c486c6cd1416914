import CallAtlas.Hits.Basic
import CallAtlas.Ordered.Tally
import CallAtlas.Path.Relative

set_option autoImplicit false
set_option relaxedAutoImplicit false

namespace CallAtlas

abbrev Inventory := Tally String

/-- Counts every occurrence, also several on one line. -/
def Inventory.ofHits (root : Path) (hits : Hits) : Inventory :=
  hits.files.foldl (fun counts entry => counts.add (Path.label root entry.file) entry.lines.length)
    Tally.empty

end CallAtlas
