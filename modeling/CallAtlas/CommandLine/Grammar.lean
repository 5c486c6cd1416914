set_option autoImplicit false
set_option relaxedAutoImplicit false

namespace CallAtlas.CommandLine

/-- What the value of a switch or of an operand is read as. -/
inductive Domain
  | text
  | path
  | number
  | choice (names : List String)

inductive Form
  | flag
  | counter
  | value (shown : String) (domain : Domain)
  | help
  | version

structure Switch where
  name : String
  short : Option Char
  form : Form
  about : String

inductive Occurs
  | once
  | optional
  | repeated
  deriving DecidableEq

structure Operand where
  name : String
  occurs : Occurs
  domain : Domain
  about : String

/-- A command with what it takes.  A command that takes further commands has names for them. -/
structure Grammar where
  words : String
  about : String
  operands : List Operand
  switches : List Switch
  commands : List (String × String)

def Switch.shown (switch : Switch) : String :=
  match switch.form with
  | .value shown _ => "--" ++ switch.name ++ " <" ++ shown ++ ">"
  | .counter => "--" ++ switch.name ++ "..."
  | _ => "--" ++ switch.name

def Operand.shown (operand : Operand) : String :=
  match operand.occurs with
  | .once => "<" ++ operand.name ++ ">"
  | .optional => "[" ++ operand.name ++ "]"
  | .repeated => "[" ++ operand.name ++ "]..."

namespace Grammar

def switch? (grammar : Grammar) (name : String) : Option Switch :=
  grammar.switches.find? fun switch => switch.name = name

def letter? (grammar : Grammar) (letter : Char) : Option Switch :=
  grammar.switches.find? fun switch => switch.short = some letter

def isCommand (grammar : Grammar) (word : String) : Bool :=
  (grammar.commands.lookup word).isSome

end Grammar

end CallAtlas.CommandLine
