import CallAtlas.Text.Blank
import CallAtlas.Text.Line
import CallAtlas.Json.Reader

set_option autoImplicit false
set_option relaxedAutoImplicit false

/-!
Tag output: one JSON object a line, each a record of free fields.  A record starts a function if
it is no pseudo tag, has the kind of a function, a name that is not empty, and a positive line
number, written as a number or as a numeral in a string.
-/

namespace CallAtlas.Tag

abbrev Record := Json.Fields

structure Start where
  name : String
  line : Nat
  deriving DecidableEq

def functionKind : String := "function"

def lineOf? : Json → Option Nat
  | .integer (.ofNat line) => some line
  | .string text => (Text.readWord (Text.trim text.toList)).toOption
  | _ => none

def isPseudo (record : Record) : Bool :=
  match record.get? "_type" with
  | some (.string type) => type ≠ "tag"
  | _ => false

def start? (record : Record) : Option Start :=
  if isPseudo record then none
  else
    match record.get? "kind", record.get? "name", (record.get? "line").bind lineOf? with
    | some (.string kind), some (.string name), some line =>
      if kind = functionKind ∧ name ≠ "" ∧ line ≠ 0 then some ⟨name, line⟩ else none
    | _, _, _ => none

def readLine? (line : List Char) : Option Record := (Json.read? line).bind Json.fields?

/-- The records of a tag output; lines that are no object are passed over. -/
def read (output : String) : List Record := (Text.lines output.toList).filterMap readLine?

end CallAtlas.Tag
