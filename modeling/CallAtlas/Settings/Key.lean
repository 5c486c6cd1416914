import CallAtlas.Text.Numeral
import CallAtlas.Text.Piece

set_option autoImplicit false
set_option relaxedAutoImplicit false

namespace CallAtlas.Settings

inductive Step
  | field (name : String)
  | item (index : Int)
  deriving DecidableEq

structure Key where
  name : String
  steps : List Step
  deriving DecidableEq

namespace Key

def isNameChar (c : Char) : Bool := c.isAlphanum || c = '_' || c = '-'

def readIndex? (text : List Char) : Option Int :=
  if text.head? = some '+' then none else Text.readSigned? text

def readSteps? : Nat → List Char → Option (List Step)
  | _, [] => some []
  | steps + 1, '.' :: rest =>
    let name := rest.takeWhile isNameChar
    if name.isEmpty then none
    else
      (readSteps? steps (rest.dropWhile isNameChar)).map (.field (String.ofList name) :: ·)
  | steps + 1, '[' :: rest =>
    match Text.cutAt? ']' rest with
    | none => none
    | some (inside, rest) =>
      match readIndex? inside with
      | none => none
      | some index => (readSteps? steps rest).map (.item index :: ·)
  | _, _ => none

def read? (text : List Char) : Option Key :=
  let name := text.takeWhile isNameChar
  if name.isEmpty then none
  else (readSteps? text.length (text.dropWhile isNameChar)).map (⟨String.ofList name, ·⟩)

def ofText (text : String) : Key := (read? text.toList).getD ⟨text, []⟩

end Key

end CallAtlas.Settings
