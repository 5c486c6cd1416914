import CallAtlas.Text.Numeral
import CallAtlas.Binary64.Numeral
import CallAtlas.Json.Quoted

set_option autoImplicit false
set_option relaxedAutoImplicit false

namespace CallAtlas

/-- A YAML value.  The keys of a mapping are texts. -/
inductive Yaml
  | null
  | boolean (value : Bool)
  | integer (value : Int)
  | real (value : Binary64)
  | string (value : String)
  | list (items : List Yaml)
  | mapping (fields : List (String × Yaml))

namespace Yaml

def digitsOf? (base : Nat) (digits : List Char) : Option Nat :=
  if digits.isEmpty then none
  else
    digits.foldl
      (fun value c =>
        value.bind fun value =>
          (Json.hexDigit? c).bind fun digit =>
            if digit < base then some (base * value + digit) else none)
      (some 0)

def readBase? (base : Nat) (text : List Char) : Option Int :=
  match text with
  | '-' :: digits =>
    (digitsOf? base digits).bind fun size =>
      if size ≤ Text.signedMax + 1 then some (-(size : Int)) else none
  | '+' :: digits =>
    (digitsOf? base digits).bind fun size =>
      if size ≤ Text.signedMax then some (size : Int) else none
  | digits =>
    (digitsOf? base digits).bind fun size =>
      if size ≤ Text.signedMax then some (size : Int) else none

def integer? (text : List Char) : Option Int :=
  let marked :=
    match text with
    | '0' :: 'x' :: rest => readBase? 16 rest
    | '0' :: 'o' :: rest => readBase? 8 rest
    | '+' :: rest => readBase? 10 rest
    | _ => none
  marked.or (readBase? 10 text)

/-- A word that stands for infinity or for no number; such values are not supported. -/
def isUnbounded (text : List Char) : Bool :=
  [".inf", ".Inf", ".INF", "+.inf", "+.Inf", "+.INF", "-.inf", "-.Inf", "-.INF", ".nan", ".NaN",
    ".NAN"].contains (String.ofList text)

def ofPlain? (text : List Char) : Option Yaml :=
  let word := String.ofList text
  if ["", "~", "null"].contains word then some .null
  else if ["true", "True", "TRUE"].contains word then some (.boolean true)
  else if ["false", "False", "FALSE"].contains word then some (.boolean false)
  else if isUnbounded text then none
  else
    match integer? text with
    | some value => some (.integer value)
    | none =>
      match if text.any Char.isDigit then Binary64.read? text else none with
      | some value => some (.real value)
      | none => some (.string word)

def keyText? : Yaml → Option String
  | .string value => some value
  | .integer value => some (String.ofList (Text.signedDecimal value))
  | .boolean value => some (if value then "true" else "false")
  | _ => none

end Yaml

end CallAtlas
