import CallAtlas.Path.Basic

set_option autoImplicit false
set_option relaxedAutoImplicit false

/-!
The part of a path below a directory, and the label of a file in a tree.  Segments are compared,
but the part below is a cutout of the spelling: idle pieces inside it stay.
-/

namespace CallAtlas.Path

def dropSegments : Nat → List (List UInt8) → List (List UInt8)
  | 0, pieces => pieces
  | _, [] => []
  | count + 1, piece :: rest =>
    if isIdle piece then dropSegments (count + 1) rest else dropSegments count rest

def trimEnd (pieces : List (List UInt8)) : List (List UInt8) :=
  (pieces.reverse.dropWhile isIdle).reverse

def trim (pieces : List (List UInt8)) : List (List UInt8) := trimEnd (pieces.dropWhile isIdle)

def spell : Anchor → List (List UInt8) → Path
  | .root, pieces => ⟨slash :: Text.joinWith slash pieces⟩
  | .here, pieces => ⟨Text.joinWith slash ([dot] :: pieces)⟩
  | .unwritten, pieces => ⟨Text.joinWith slash pieces⟩

/-- The part of a path below a directory, `none` if the path is not below it.  A directory
without segments takes nothing away but the idle end. -/
def below? (directory path : Path) : Option Path :=
  let steps := directory.segments
  if steps.isPrefixOf path.segments then
    let (anchor, pieces) := path.cut
    if steps.isEmpty then some (spell anchor (trimEnd pieces))
    else
      let dropped := steps.length - anchor.segments.length
      some (spell .unwritten (trim (dropSegments dropped pieces)))
  else none

/-- The path without its last segment; the root and the empty path have none. -/
def parent? (path : Path) : Option Path :=
  let (anchor, pieces) := path.cut
  match trimEnd pieces, anchor with
  | [], .here => some (spell .unwritten [])
  | [], _ => none
  | pieces, anchor => some (spell anchor (trimEnd pieces.dropLast))

/-- The part of a file below a root, or the whole file outside of it. -/
def part (root file : Path) : Path := (below? root file).getD file

/-- The label of a file in the tree under a root: the text of its part below the root, or of all of
it outside the tree. -/
def label (root file : Path) : String := (part root file).text

end CallAtlas.Path
