import CallAtlas.Text.Numeral

set_option autoImplicit false
set_option relaxedAutoImplicit false

namespace CallAtlas.CommandLine

/-- Why arguments do not lead to a command.  Asking for a help text or for the version is one of
the reasons. -/
inductive Refusal
  | help (text : String)
  | version (text : String)
  | nothingGiven (help : String)
  | unknownArgument (shown : String)
  | unknownCommand (word : String)
  | missingCommand (program : String)
  | missingOperand
  | repeated (shown : String)
  | needlessValue (value shown : String)
  | missingValue (shown : String)
  | unknownChoice (value shown : String)
  | badNumber (value shown : String) (error : Text.NumeralError)
  deriving DecidableEq

namespace Refusal

def message : Refusal → String
  | .help text => text
  | .version text => text
  | .nothingGiven text => text
  | .unknownArgument shown => "error: unexpected argument '" ++ shown ++ "' found"
  | .unknownCommand word => "error: unrecognized subcommand '" ++ word ++ "'"
  | .missingCommand program =>
    "error: '" ++ program ++ "' requires a subcommand but one was not provided"
  | .missingOperand => "error: the following required arguments were not provided:"
  | .repeated shown => "error: the argument '" ++ shown ++ "' cannot be used multiple times"
  | .needlessValue value shown =>
    "error: unexpected value '" ++ value ++ "' for '" ++ shown ++
      "' found; no more were expected"
  | .missingValue shown => "error: a value is required for '" ++ shown ++ "' but none was supplied"
  | .unknownChoice value shown => "error: invalid value '" ++ value ++ "' for '" ++ shown ++ "'"
  | .badNumber value shown error =>
    "error: invalid value '" ++ value ++ "' for '" ++ shown ++ "': " ++ error.message

def isWanted : Refusal → Bool
  | .help _ => true
  | .version _ => true
  | _ => false

end Refusal

end CallAtlas.CommandLine
