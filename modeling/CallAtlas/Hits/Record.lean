import CallAtlas.Text.Blank
import CallAtlas.Text.Line
import CallAtlas.Text.Numeral
import CallAtlas.Text.Piece
import CallAtlas.Hits.Basic

set_option autoImplicit false
set_option relaxedAutoImplicit false

/-!
Search output: a row is a path, a separator, a line number, a colon and the matched text.  The
separator is the first NUL of the row if it has one and the first colon otherwise.  Rows of any
other form are passed over.
-/

namespace CallAtlas.Hits

structure Occurrence where
  file : Path
  line : Nat
  deriving DecidableEq

def cutRow? (row : List Char) : Option (List Char × List Char) :=
  match Text.cutAt? '\x00' row with
  | some parts => some parts
  | none => Text.cutAt? ':' row

def lineBeforeColon? (rest : List Char) : Option Nat :=
  match Text.cutAt? ':' rest with
  | none => none
  | some (number, _) =>
    match Text.readWord (Text.trim number) with
    | .ok 0 => none
    | .ok line => some line
    | .error _ => none

def Occurrence.read? (row : List Char) : Option Occurrence :=
  match cutRow? row with
  | none => none
  | some (path, rest) =>
    match lineBeforeColon? rest with
    | none => none
    | some line => if path = [] then none else some ⟨⟨String.ofList path⟩, line⟩

def ofOccurrences (occurrences : List Occurrence) : Hits :=
  occurrences.foldl (fun hits occurrence => hits.add occurrence.file [occurrence.line]) empty

def read (output : String) : Hits :=
  ofOccurrences ((Text.lines output.toList).filterMap Occurrence.read?)

end CallAtlas.Hits
