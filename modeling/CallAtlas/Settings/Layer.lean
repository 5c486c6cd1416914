import CallAtlas.Settings.Key
import CallAtlas.Settings.Value

set_option autoImplicit false
set_option relaxedAutoImplicit false

/-!
Layers of settings.  A layer is a list of assignments, and layers are laid on top of each other
by carrying out their assignments one after the other: a table is merged field by field into what
is there, and any other value takes its place.
-/

namespace CallAtlas.Settings

/-- What one source of settings assigns, under its keys as they are spelled. -/
abbrev Layer := List (String × Value)

def Fields.modify (change : Value → Value) (name : String) : Fields → Fields
  | [] => [(name, change Value.missing)]
  | (other, value) :: rest =>
    if other = name then (other, change value) :: rest
    else (other, value) :: Fields.modify change name rest

namespace Value

mutual

def overlay : Value → Value → Value
  | .table _ incoming, old => .table none (overlayFields incoming old.fields)
  | .leaf origin scalar, _ => .leaf origin scalar
  | .list origin items, _ => .list origin items

def overlayFields : List (String × Value) → Fields → Fields
  | [], old => old
  | (name, value) :: rest, old => overlayFields rest (Fields.modify (overlay value) name old)

end

/-- A list with the value at a position changed.  A list that is too short is filled up; a
negative position counts from the end, and one before the start makes room there. -/
def modifyItem (change : Value → Value) (index : Int) (items : List Value) : List Value :=
  let size : Int := items.length
  let place := if index < 0 then size + index else index
  if place < 0 then
    change missing :: List.replicate ((-place).toNat - 1) missing ++ items
  else if place < size then items.modify place.toNat change
  else items ++ List.replicate (place - size).toNat missing ++ [change missing]

/-- Changes the value at the end of steps.  What stands in the way is replaced. -/
def modifyAt (change : Value → Value) : List Step → Value → Value
  | [], value => change value
  | .field name :: rest, .table origin fields =>
    .table origin (Fields.modify (modifyAt change rest) name fields)
  | .field name :: rest, _ => .table none (Fields.modify (modifyAt change rest) name [])
  | .item index :: rest, .list origin items =>
    .list origin (modifyItem (modifyAt change rest) index items)
  | .item index :: rest, _ => .list none (modifyItem (modifyAt change rest) index [])

end Value

def Fields.assign (fields : Fields) (key : String) (value : Value) : Fields :=
  let key := Key.ofText key
  Fields.modify (Value.modifyAt value.overlay key.steps) key.name fields

def Layer.onto (layer : Layer) (fields : Fields) : Fields :=
  layer.foldl (fun fields (key, value) => fields.assign key value) fields

def Fields.ofLayers (layers : List Layer) : Fields :=
  layers.foldl (fun fields layer => layer.onto fields) []

end CallAtlas.Settings
