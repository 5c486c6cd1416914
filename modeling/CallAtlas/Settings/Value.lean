import CallAtlas.Binary64.Basic
import CallAtlas.Json.Basic
import CallAtlas.Toml.Basic
import CallAtlas.Yaml.Basic

set_option autoImplicit false
set_option relaxedAutoImplicit false

/-!
Raw settings: values as they stand in a file or in the environment, each with the place it comes
from.  A table that was merged from several places has no origin of its own.
-/

namespace CallAtlas.Settings

inductive Origin
  | file (name : String)
  | environment
  deriving DecidableEq

def Origin.text : Origin → String
  | .file name => name
  | .environment => "the environment"

inductive Scalar
  | nothing
  | boolean (value : Bool)
  | integer (value : Int)
  | real (value : Binary64)
  | text (value : String)
  deriving DecidableEq

inductive Value
  | leaf (origin : Option Origin) (scalar : Scalar)
  | list (origin : Option Origin) (items : List Value)
  | table (origin : Option Origin) (fields : List (String × Value))

/-- The fields of a table in the order of their first appearance. -/
abbrev Fields := List (String × Value)

namespace Value

def missing : Value := .leaf none .nothing

def fields : Value → Fields
  | .table _ fields => fields
  | _ => []

def items : Value → List Value
  | .list _ items => items
  | _ => []

mutual

/-- The raw value of a JSON value.  An integer beyond the signed words counts as a real number. -/
def ofJson (origin : Option Origin) : Json → Value
  | .null => .leaf origin .nothing
  | .boolean value => .leaf origin (.boolean value)
  | .integer value =>
    .leaf origin
      (if value ≤ (Text.signedMax : Int) then .integer value
        else .real (Binary64.ofNat value.toNat))
  | .real value => .leaf origin (.real value)
  | .string value => .leaf origin (.text value)
  | .list items => .list origin (itemsOfJson origin items)
  | .object fields => .table origin (fieldsOfJson origin fields)

def itemsOfJson (origin : Option Origin) : List Json → List Value
  | [] => []
  | item :: rest => ofJson origin item :: itemsOfJson origin rest

def fieldsOfJson (origin : Option Origin) : List (String × Json) → Fields
  | [] => []
  | (name, value) :: rest => (name, ofJson origin value) :: fieldsOfJson origin rest

end

mutual

def ofToml (origin : Option Origin) : Toml → Value
  | .string value => .leaf origin (.text value)
  | .integer value => .leaf origin (.integer value)
  | .real value => .leaf origin (.real value)
  | .boolean value => .leaf origin (.boolean value)
  | .moment text => .leaf origin (.text text)
  | .list items => .list origin (itemsOfToml origin items)
  | .table fields => .table origin (fieldsOfToml origin fields)

def itemsOfToml (origin : Option Origin) : List Toml → List Value
  | [] => []
  | item :: rest => ofToml origin item :: itemsOfToml origin rest

def fieldsOfToml (origin : Option Origin) : List (String × Toml) → Fields
  | [] => []
  | (name, value) :: rest => (name, ofToml origin value) :: fieldsOfToml origin rest

end

mutual

def ofYaml (origin : Option Origin) : Yaml → Value
  | .null => .leaf origin .nothing
  | .boolean value => .leaf origin (.boolean value)
  | .integer value => .leaf origin (.integer value)
  | .real value => .leaf origin (.real value)
  | .string value => .leaf origin (.text value)
  | .list items => .list origin (itemsOfYaml origin items)
  | .mapping fields => .table origin (fieldsOfYaml origin fields)

def itemsOfYaml (origin : Option Origin) : List Yaml → List Value
  | [] => []
  | item :: rest => ofYaml origin item :: itemsOfYaml origin rest

def fieldsOfYaml (origin : Option Origin) : List (String × Yaml) → Fields
  | [] => []
  | (name, value) :: rest => (name, ofYaml origin value) :: fieldsOfYaml origin rest

end

end Value

end CallAtlas.Settings
