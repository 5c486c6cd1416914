import CallAtlas.CommandLine.Help
import CallAtlas.CommandLine.Refusal
import CallAtlas.Text.Piece

set_option autoImplicit false
set_option relaxedAutoImplicit false

/-!
Scanning arguments by a grammar, one after the other.  A value is not looked at before the next
switch or operand, or the end: until then an unknown argument is the more urgent fault.
-/

namespace CallAtlas.CommandLine

inductive Given
  | present
  | times (count : Nat)
  | text (value : String)
  | number (value : Nat)
  deriving DecidableEq

/-- A place for a value: its name, how messages show it, and what it is read as. -/
structure Slot where
  name : String
  shown : String
  domain : Domain

def Operand.slot (operand : Operand) : Slot := ⟨operand.name, operand.shown, operand.domain⟩

/-- A slot that is being filled, and its value as soon as it is there. -/
structure Pending where
  slot : Slot
  value : Option String

structure Scan where
  given : List (String × Given)
  pending : Option Pending
  operands : Nat
  onlyOperands : Bool

namespace Scan

def start : Scan := ⟨[], none, 0, false⟩

def isWaiting (scan : Scan) : Bool := scan.pending.any fun pending => pending.value.isNone

def given? (scan : Scan) (name : String) : Option Given := scan.given.lookup name

def keep (scan : Scan) (name : String) (given : Given) : Scan :=
  { scan with given := (name, given) :: scan.given.filter fun entry => entry.1 ≠ name }

def readValue (slot : Slot) (value : String) : Except Refusal Given :=
  match slot.domain with
  | .text => .ok (.text value)
  | .path => if value = "" then .error (.missingValue slot.shown) else .ok (.text value)
  | .number =>
    match Text.readWord value.toList with
    | .ok number => .ok (.number number)
    | .error error => .error (.badNumber value slot.shown error)
  | .choice names =>
    if value = "" then .error (.missingValue slot.shown)
    else if names.contains value then .ok (.text value)
    else .error (.unknownChoice value slot.shown)

def fill (scan : Scan) (slot : Slot) (value : String) : Except Refusal Scan :=
  if (scan.given? slot.name).isSome then .error (.repeated slot.shown)
  else (readValue slot value).map (scan.keep slot.name)

def settle (scan : Scan) : Except Refusal Scan :=
  match scan.pending with
  | none => .ok scan
  | some ⟨slot, none⟩ => .error (.missingValue slot.shown)
  | some ⟨slot, some value⟩ => fill { scan with pending := none } slot value

def countMax : Nat := 255

def take (scan : Scan) (help version : String) (switch : Switch) : Except Refusal Scan := do
  let scan ← scan.settle
  match switch.form with
  | .counter =>
    let count :=
      match scan.given? switch.name with
      | some (.times count) => count
      | _ => 0
    pure (scan.keep switch.name (.times (min (count + 1) countMax)))
  | .help => throw (.help help)
  | .version => throw (.version version)
  | _ =>
    if (scan.given? switch.name).isSome then throw (.repeated switch.shown)
    else pure (scan.keep switch.name .present)

def takeValue (scan : Scan) (slot : Slot) : Option String → Except Refusal Scan
  | some value => scan.settle.bind fun scan => scan.fill slot value
  | none => scan.settle.map fun scan => { scan with pending := some ⟨slot, none⟩ }

def slotOf? (switch : Switch) : Option Slot :=
  match switch.form with
  | .value _ domain => some ⟨switch.name, switch.shown, domain⟩
  | _ => none

end Scan

structure Scanner where
  grammar : Grammar
  version : String

namespace Scanner

def takeLong (scanner : Scanner) (scan : Scan) (text : List Char) : Except Refusal Scan :=
  let (name, value) :=
    match Text.cutAt? '=' text with
    | some (name, value) => (String.ofList name, some (String.ofList value))
    | none => (String.ofList text, none)
  match scanner.grammar.switch? name with
  | none => .error (.unknownArgument ("--" ++ name))
  | some switch =>
    match Scan.slotOf? switch, value with
    | some slot, value => scan.takeValue slot value
    | none, some value => .error (.needlessValue value switch.shown)
    | none, none => scan.take scanner.grammar.help scanner.version switch

/-- Takes switches by their letters.  What follows the letter of a switch with a value is the
value, after an equals sign or not. -/
def takeLetters (scanner : Scanner) (scan : Scan) : List Char → Except Refusal Scan
  | [] => .ok scan
  | letter :: rest =>
    match scanner.grammar.letter? letter with
    | none => .error (.unknownArgument ("-" ++ letter.toString))
    | some switch =>
      match Scan.slotOf? switch with
      | some slot =>
        let value :=
          match rest with
          | [] => none
          | '=' :: value => some (String.ofList value)
          | value => some (String.ofList value)
        scan.takeValue slot value
      | none =>
        match scan.take scanner.grammar.help scanner.version switch with
        | .error refusal => .error refusal
        | .ok scan => takeLetters scanner scan rest

def takeOperand (scanner : Scanner) (scan : Scan) (argument : String) : Except Refusal Scan :=
  match scanner.grammar.operands[scan.operands]? with
  | some operand =>
    scan.settle.map fun scan =>
      { scan with pending := some ⟨operand.slot, some argument⟩, operands := scan.operands + 1 }
  | none =>
    if scanner.grammar.commands.isEmpty ||
        (scan.onlyOperands && scanner.grammar.isCommand argument) then
      .error (.unknownArgument argument)
    else .error (.unknownCommand argument)

def step (scanner : Scanner) (scan : Scan) (argument : String) : Except Refusal Scan :=
  if scan.onlyOperands then scanner.takeOperand scan argument
  else
    match argument.toList with
    | ['-', '-'] => .ok { scan with onlyOperands := true }
    | '-' :: '-' :: text => scanner.takeLong scan text
    | '-' :: letter :: letters => scanner.takeLetters scan (letter :: letters)
    | _ =>
      match scan.pending with
      | some ⟨slot, none⟩ => .ok { scan with pending := some ⟨slot, some argument⟩ }
      | _ => scanner.takeOperand scan argument

/-- Scans arguments up to the name of a further command, which comes with the arguments after
it. -/
def run (scanner : Scanner) :
    Scan → List String → Except Refusal (Scan × Option (String × List String))
  | scan, [] => .ok (scan, none)
  | scan, argument :: rest =>
    if !scan.onlyOperands && !scan.isWaiting && scanner.grammar.isCommand argument then
      .ok (scan, some (argument, rest))
    else
      match scanner.step scan argument with
      | .error refusal => .error refusal
      | .ok scan => run scanner scan rest

def lacksOperand (scanner : Scanner) (scan : Scan) : Bool :=
  scanner.grammar.operands.any fun operand =>
    operand.occurs = .once && (scan.given? operand.name).isNone

def complete (scanner : Scanner) (arguments : List String) : Except Refusal Scan := do
  let (scan, _) ← scanner.run Scan.start arguments
  let scan ← scan.settle
  if scanner.lacksOperand scan then throw .missingOperand else pure scan

end Scanner

end CallAtlas.CommandLine
