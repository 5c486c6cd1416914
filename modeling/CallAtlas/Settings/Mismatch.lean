import CallAtlas.Binary64.Shortest
import CallAtlas.Text.Printable
import CallAtlas.Settings.Value

set_option autoImplicit false
set_option relaxedAutoImplicit false

namespace CallAtlas.Settings

inductive Expectation
  | string
  | integer
  | unsigned
  | record (name : String)
  deriving DecidableEq

def Expectation.text : Expectation → String
  | .string => "a string"
  | .integer => "an integer"
  | .unsigned => "an unsigned 64 bit or less integer"
  | .record name => "struct " ++ name

inductive Fault
  | kind (found : String) (expected : Expectation)
  | choice (name : String)
  | choiceShape

def columnChoices : String := "CalleeColumn"

def Fault.message : Fault → String
  | .kind found expected => "invalid type: " ++ found ++ ", expected " ++ expected.text
  | .choice name => "enum " ++ columnChoices ++ " does not have variant constructor " ++ name
  | .choiceShape =>
    "value of enum " ++ columnChoices ++
      " should be represented by either string or table with exactly one key"

structure Mismatch where
  fault : Fault
  key : String
  origin : Option Origin

def Mismatch.message (mismatch : Mismatch) : String :=
  mismatch.fault.message ++ " for key `" ++ mismatch.key ++ "`" ++
    (match mismatch.origin with
      | some origin => " in " ++ origin.text
      | none => "")

def describeText (text : String) : String := "string " ++ Text.inspect text

def withPlace (value : Binary64) : String :=
  let text := value.toText
  if value.isFinite && !text.toList.contains '.' then text ++ ".0" else text

def Scalar.describe : Scalar → String
  | .nothing => "unit value"
  | .boolean value => "boolean `" ++ (if value then "true" else "false") ++ "`"
  | .integer value => "integer `" ++ String.ofList (Text.signedDecimal value) ++ "`"
  | .real value => "floating point `" ++ withPlace value ++ "`"
  | .text value => describeText value

end CallAtlas.Settings
