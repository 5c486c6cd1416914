import CallAtlas.Binary64.Numeral
import CallAtlas.Settings.Layer

set_option autoImplicit false
set_option relaxedAutoImplicit false

/-!
Settings from environment variables.  `TRACEGRAPH__TOOLS__SEARCH` sets `tools.search`: after the
first two underscores, each further two stand for a point, and the letter case does not count.
-/

namespace CallAtlas.Settings

def variableStart : String := "tracegraph__"

def withPoints : List Char → List Char
  | '_' :: '_' :: rest => '.' :: withPoints rest
  | c :: rest => c :: withPoints rest
  | [] => []

def keyOfVariable? (name : String) : Option String :=
  let size := variableStart.length
  if (name.toList.take size).map Char.toLower = variableStart.toList then
    some (String.ofList ((withPoints (name.toList.drop size)).map Char.toLower))
  else none

def scalarOfVariable (text : String) : Scalar :=
  let lower := String.ofList (text.toList.map Char.toLower)
  if lower = "true" then .boolean true
  else if lower = "false" then .boolean false
  else
    match Text.readSigned? text.toList with
    | some value => .integer value
    | none =>
      match Binary64.read? text.toList with
      | some value => .real value
      | none => .text text

/-- The layer of the environment, in the order of the variables.  The order counts only where one
key is another one or stands below it, as `tools.search` does below `tools`; an environment without
an order is any of its orders. -/
def Layer.ofEnvironment (environment : List (String × String)) : Layer :=
  environment.filterMap fun (name, text) =>
    (keyOfVariable? name).map fun key =>
      (key, .leaf (some .environment) (scalarOfVariable text))

end CallAtlas.Settings
