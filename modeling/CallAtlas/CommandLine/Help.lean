import CallAtlas.CommandLine.Grammar

set_option autoImplicit false
set_option relaxedAutoImplicit false

namespace CallAtlas.CommandLine

def helpRow (width : Nat) (row : String × String) : String :=
  let gap := String.ofList (List.replicate (width - row.1.length) ' ')
  "  " ++ row.1 ++ gap ++ "  " ++ row.2 ++ "\n"

def helpSection (heading : String) (rows : List (String × String)) : String :=
  let width := rows.foldl (fun width row => max width row.1.length) 0
  if rows.isEmpty then ""
  else "\n" ++ heading ++ ":\n" ++ String.join (rows.map (helpRow width))

def Switch.column (switch : Switch) : String :=
  match switch.short with
  | some letter => "-" ++ letter.toString ++ ", " ++ switch.shown
  | none => "    " ++ switch.shown

namespace Grammar

def usage (grammar : Grammar) : List String :=
  [grammar.words] ++ (if grammar.switches.isEmpty then [] else ["[OPTIONS]"]) ++
    grammar.operands.map Operand.shown ++
    (if grammar.commands.isEmpty then [] else ["<COMMAND>"])

def help (grammar : Grammar) : String :=
  grammar.about ++ "\n\nUsage: " ++ " ".intercalate grammar.usage ++ "\n" ++
    helpSection "Arguments" (grammar.operands.map fun operand => (operand.shown, operand.about)) ++
    helpSection "Commands" grammar.commands ++
    helpSection "Options" (grammar.switches.map fun switch => (switch.column, switch.about))

end Grammar

end CallAtlas.CommandLine
