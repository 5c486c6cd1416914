import CallAtlas.CommandLine.Request
import CallAtlas.CommandLine.Scan

set_option autoImplicit false
set_option relaxedAutoImplicit false

namespace CallAtlas.CommandLine

def program : String := "tracegraph"

def version : String := program ++ " 0.1.0\n"

def flag (name about : String) : Switch := ⟨name, none, .flag, about⟩

def option (name shown : String) (domain : Domain) (about : String) : Switch :=
  ⟨name, none, .value shown domain, about⟩

def common : List Switch :=
  [flag "no-color" "Disable colored output",
    flag "quiet" "Suppress progress bars and non-essential output",
    flag "dry-run" "Show what would be done without executing",
    ⟨"verbose", some 'v', .counter, "Increase log verbosity (-v info, -vv debug, -vvv trace)"⟩,
    option "timeout" "SECS" .number
      "Time limit per external tool invocation in seconds (0 = none)",
    ⟨"help", some 'h', .help, "Print help"⟩]

def searchOperand : Operand :=
  ⟨"PATTERN", .optional, .text,
    "Pattern to look for, case-insensitive (default from config: \"trace\")"⟩

def searchSwitches : List Switch :=
  [option "root" "ROOT" .path
      "Root of the source tree (default: config root or current directory)",
    flag "regex" "Treat the pattern as a regular expression instead of a plain substring"]

def commandGrammar (name about : String) (operand : Operand) (switches : List Switch) : Grammar :=
  ⟨program ++ " " ++ name, about, [operand], switches ++ common, []⟩

def directoryOperand : Operand :=
  ⟨"PATH", .optional, .path, "Directory to initialize config in [default: .]"⟩

def shellOperand : Operand :=
  ⟨"SHELL", .once, .choice (Shell.all.map Shell.name),
    "Target shell [possible values: " ++ ", ".intercalate (Shell.all.map Shell.name) ++ "]"⟩

def commands : List (String × Grammar) :=
  [("inventory", commandGrammar "inventory" "Count pattern occurrences per file" searchOperand
      searchSwitches),
    ("index", commandGrammar "index" "Count pattern occurrences per (file, function)"
      searchOperand (searchSwitches ++
        [flag "by-count" "Order rows by descending count instead of by file and function"])),
    ("callgraph", commandGrammar "callgraph"
      "Write a call graph of the functions with the most occurrences" searchOperand
      (searchSwitches ++
        [option "limit" "LIMIT" .number "Number of top (file, function) pairs to analyse",
          ⟨"out", some 'o', .value "OUT" .path, "Output DOT file"⟩])),
    ("init", commandGrammar "init" "Initialize a tracegraph.toml config file" directoryOperand
      [flag "force" "Overwrite existing config file"]),
    ("completions", commandGrammar "completions" "Generate shell completions" shellOperand
      [option "out-dir" "OUT_DIR" .path
          "Directory to write the script into (required without --stdout)",
        flag "stdout" "Print completion script to stdout instead of a file"])]

def helpAbout : String := "Print this message or the help of the given subcommand(s)"

def helpGrammar : Grammar :=
  ⟨program ++ " help", helpAbout,
    [⟨"COMMAND", .repeated, .text, "Print help for the subcommand(s)"⟩], [], []⟩

def grammar : Grammar :=
  ⟨program,
    "Attribute pattern occurrences to their enclosing functions and expand them into a call graph",
    [], common ++ [⟨"version", some 'V', .version, "Print version"⟩],
    (commands.map fun (name, grammar) => (name, grammar.about)) ++ [("help", helpAbout)]⟩

def helpOn : List String → Refusal
  | [] => .help grammar.help
  | name :: rest =>
    match (commands ++ [("help", helpGrammar)]).lookup name, rest with
    | none, _ => .unknownCommand name
    | some grammar, [] => .help grammar.help
    | some _, word :: _ => .unknownCommand word

def Scan.text? (scan : Scan) (name : String) : Option String :=
  match scan.given? name with
  | some (.text value) => some value
  | _ => none

def Scan.number? (scan : Scan) (name : String) : Option Nat :=
  match scan.given? name with
  | some (.number value) => some value
  | _ => none

def Scan.has (scan : Scan) (name : String) : Bool := (scan.given? name).isSome

def Scan.path? (scan : Scan) (name : String) : Option Path := (scan.text? name).map Path.mk

def Scan.search (scan : Scan) : SearchRequest :=
  ⟨scan.text? "PATTERN", scan.path? "root", if scan.has "regex" then .regex else .literal⟩

def Scan.command? (scan : Scan) (name : String) : Option Command :=
  match name with
  | "inventory" => some (.inventory scan.search)
  | "index" => some (.index scan.search (scan.has "by-count"))
  | "callgraph" => some (.callGraph scan.search (scan.number? "limit") (scan.path? "out"))
  | "init" => some (.init ((scan.path? "PATH").getD ⟨"."⟩) (scan.has "force"))
  | "completions" =>
    ((scan.text? "SHELL").bind Shell.ofName?).map fun shell =>
      .completions shell (scan.path? "out-dir") (scan.has "stdout")
  | _ => none

def Scan.count? (scan : Scan) (name : String) : Option Nat :=
  match scan.given? name with
  | some (.times count) => some count
  | _ => none

/-- The request of a command and of what was given before and after its name.  What was given
after the name goes first. -/
def request (before after : Scan) (command : Command) : Request :=
  let has (name : String) : Bool := after.has name || before.has name
  { command
    manner :=
      { quiet := has "quiet"
        plain := has "no-color"
        dryRun := has "dry-run"
        seconds := (after.number? "timeout").or (before.number? "timeout") }
    verbosity := ((after.count? "verbose").or (before.count? "verbose")).getD 0 }

def withoutCommand (scan : Scan) : Refusal :=
  if scan.given.isEmpty then .nothingGiven grammar.help else .missingCommand program

def parse (arguments : List String) : Except Refusal Request := do
  let (before, found) ← Scanner.run ⟨grammar, version⟩ Scan.start arguments
  match found with
  | none => throw (withoutCommand (← before.settle))
  | some (name, rest) =>
    match commands.lookup name with
    | none => throw (helpOn rest)
    | some grammar =>
      let after ← Scanner.complete ⟨grammar, version⟩ rest
      let before ← before.settle
      match after.command? name with
      | some command => pure (request before after command)
      | none => throw .missingOperand

end CallAtlas.CommandLine
