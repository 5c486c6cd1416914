import CallAtlas.Text.Numeral
import CallAtlas.Text.Piece
import CallAtlas.World.Basic

set_option autoImplicit false
set_option relaxedAutoImplicit false

namespace CallAtlas.Log

/-- The weight of a notice, and the bound of a directive.  `off` admits nothing. -/
inductive Level
  | off
  | error
  | warn
  | info
  | debug
  | trace
  deriving DecidableEq

def Level.rank : Level → Nat
  | .off => 0
  | .error => 1
  | .warn => 2
  | .info => 3
  | .debug => 4
  | .trace => 5

def Level.names : List (String × Level) :=
  [("off", .off), ("error", .error), ("warn", .warn), ("info", .info), ("debug", .debug),
    ("trace", .trace), ("0", .off), ("1", .error), ("2", .warn), ("3", .info), ("4", .debug),
    ("5", .trace)]

def Level.ofName? (name : List Char) : Option Level :=
  Level.names.lookup (String.ofList (name.map Char.toLower))

/-- What is shown about topics that start in a certain way. -/
structure Directive where
  topic : List Char
  level : Level

def Directive.read? (text : List Char) : Option Directive :=
  match Text.cutAt? '=' text with
  | some (topic, level) => (Level.ofName? level).map (⟨topic, ·⟩)
  | none =>
    match Level.ofName? text with
    | some level => some ⟨[], level⟩
    | none => some ⟨text, .trace⟩

abbrev Filter := List Directive

def Filter.ofLevel (level : Level) : Filter := [⟨[], level⟩]

/-- Reads a filter: directives with commas between them.  Without any, errors are shown. -/
def Filter.read? (text : String) : Option Filter :=
  match (Text.pieces ',' text.toList).filter fun piece => !piece.isEmpty with
  | [] => some (Filter.ofLevel .error)
  | pieces => pieces.mapM Directive.read?

/-- The directive with the longest topic that a topic starts with; of equal ones the last. -/
def Filter.directive? (filter : Filter) (topic : List Char) : Option Directive :=
  filter.foldl
    (fun best directive =>
      if !directive.topic.isPrefixOf topic then best
      else
        match best with
        | none => some directive
        | some other =>
          if other.topic.length ≤ directive.topic.length then some directive else some other)
    none

def Filter.admits (filter : Filter) (topic : List Char) (level : Level) : Bool :=
  (filter.directive? topic).any fun directive => level.rank ≤ directive.level.rank

def level : Notice → Level
  | .defaultsUsed _ => .warn
  | .expanding _ _ => .info

def topic : Notice → String
  | .defaultsUsed _ => "tracegraph::infra::config"
  | .expanding _ _ => "tracegraph::core::callgraph"

def line : Notice → String
  | .defaultsUsed reason => "WARN using default configuration: " ++ ": ".intercalate reason
  | .expanding functions files =>
    "INFO expanding top functions functions=" ++ String.ofList (Text.decimal functions) ++
      " files=" ++ String.ofList (Text.decimal files)

def levelOf : Nat → Level
  | 0 => .warn
  | 1 => .info
  | 2 => .debug
  | _ => .trace

/-- The filter of a world: that of its environment, if it has a valid one, or else that of the
number of times that more was asked for. -/
def filterOf (world : World) (verbosity : Nat) : Filter :=
  ((world.lookupVariable "RUST_LOG").bind Filter.read?).getD (Filter.ofLevel (levelOf verbosity))

def lines (filter : Filter) (notices : List Notice) : List String :=
  (notices.filter fun notice => filter.admits (topic notice).toList (level notice)).map line

end CallAtlas.Log
