import CallAtlas.Toml.Basic

set_option autoImplicit false
set_option relaxedAutoImplicit false

/-!
TOML documents while they are read.  A table remembers how it came about, because that decides
how it may be extended: a header may be given once, a table that stands only on the way to another
one may get its header later, and dotted keys extend only what dotted keys or the way to another
table have made.
-/

namespace CallAtlas.Toml

/-- How a table came about. -/
inductive Making
  | header
  | passing
  | dotted
  deriving DecidableEq

/-- A part of a document: a finished value, a table, or an array of tables. -/
inductive Part
  | leaf (value : Toml)
  | table (making : Making) (fields : List (String × Part))
  | tables (elements : List (List (String × Part)))

namespace Part

abbrev Fields := List (String × Part)

def Fields.replace (fields : Fields) (key : String) (part : Part) : Fields :=
  fields.map fun field => if field.1 = key then (key, part) else field

/-- Changes the table at the end of a way of keys.  Missing tables on the way are made; dotted
keys do not lead through a table that has a header. -/
def modify (dotted : Bool) (change : Making → Fields → Option Fields) :
    List String → Making → Fields → Option Fields
  | [], making, fields => change making fields
  | key :: rest, _, fields =>
    match fields.lookup key with
    | none =>
      let making := if dotted then Making.dotted else Making.passing
      (modify dotted change rest making []).map fun inner => fields ++ [(key, .table making inner)]
    | some (.leaf _) => none
    | some (.table making inner) =>
      if dotted && making = .header then none
      else (modify dotted change rest making inner).map fun inner =>
        fields.replace key (.table making inner)
    | some (.tables elements) =>
      match elements.reverse with
      | [] => none
      | last :: before =>
        (modify dotted change rest .header last).map fun last =>
          fields.replace key (.tables (before.reverse ++ [last]))

def addField (direct : Bool) (key : String) (value : Toml) (making : Making) (fields : Fields) :
    Option Fields :=
  if direct == decide (making = .dotted) then none
  else if (fields.lookup key).isSome then none
  else some (fields ++ [(key, .leaf value)])

def assign (keys : List String) (value : Toml) (fields : Fields) : Option Fields :=
  match keys.getLast? with
  | none => none
  | some key =>
    modify true (addField (keys.length = 1) key value) keys.dropLast .header fields

def openTable (keys : List String) (fields : Fields) : Option Fields :=
  match keys.getLast? with
  | none => none
  | some key =>
    let change (_ : Making) (fields : Fields) : Option Fields :=
      match fields.lookup key with
      | none => some (fields ++ [(key, .table .header [])])
      | some (.table .passing inner) => some (fields.replace key (.table .header inner))
      | some _ => none
    modify false change keys.dropLast .header fields

def openElement (keys : List String) (fields : Fields) : Option Fields :=
  match keys.getLast? with
  | none => none
  | some key =>
    let change (_ : Making) (fields : Fields) : Option Fields :=
      match fields.lookup key with
      | none => some (fields ++ [(key, .tables [[]])])
      | some (.tables elements) => some (fields.replace key (.tables (elements ++ [[]])))
      | some _ => none
    modify false change keys.dropLast .header fields

def assignIn (header keys : List String) (value : Toml) (fields : Fields) : Option Fields :=
  modify false (fun _ inner => assign keys value inner) header .header fields

mutual

def toToml : Part → Toml
  | .leaf value => value
  | .table _ fields => .table (fieldsToToml fields)
  | .tables elements => .list (elementsToToml elements)

def fieldsToToml : List (String × Part) → List (String × Toml)
  | [] => []
  | (key, part) :: rest => (key, toToml part) :: fieldsToToml rest

def elementsToToml : List (List (String × Part)) → List Toml
  | [] => []
  | fields :: rest => .table (fieldsToToml fields) :: elementsToToml rest

end

end Part

end CallAtlas.Toml
