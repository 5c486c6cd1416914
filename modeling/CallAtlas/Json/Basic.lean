import CallAtlas.Binary64.Basic
import CallAtlas.Ordered.Basic

set_option autoImplicit false
set_option relaxedAutoImplicit false

namespace CallAtlas

/-- A JSON value.  A number is an integer of the range of 64-bit words, signed or unsigned, or a
real number. -/
inductive Json
  | null
  | boolean (value : Bool)
  | integer (value : Int)
  | real (value : Binary64)
  | string (value : String)
  | list (items : List Json)
  | object (fields : List (String × Json))

namespace Json

abbrev Fields := List (String × Json)

/-- Sorts fields by name; of fields with one name the last one stays. -/
def Fields.ofList (fields : Fields) : Fields := Ordered.ofList Prod.fst fields

def Fields.get? (fields : Fields) (name : String) : Option Json := fields.lookup name

def string? : Json → Option String
  | .string value => some value
  | _ => none

def fields? : Json → Option Fields
  | .object fields => some fields
  | _ => none

def items? : Json → Option (List Json)
  | .list items => some items
  | _ => none

end Json

end CallAtlas
