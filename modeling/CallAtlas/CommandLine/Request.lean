import CallAtlas.Path.Basic
import CallAtlas.World.Services

set_option autoImplicit false
set_option relaxedAutoImplicit false

namespace CallAtlas

inductive Shell
  | bash
  | elvish
  | fish
  | powershell
  | zsh
  deriving DecidableEq

namespace Shell

def all : List Shell := [bash, elvish, fish, powershell, zsh]

def name : Shell → String
  | .bash => "bash"
  | .elvish => "elvish"
  | .fish => "fish"
  | .powershell => "powershell"
  | .zsh => "zsh"

def ofName? (name : String) : Option Shell := all.find? fun shell => shell.name = name

end Shell

structure SearchRequest where
  pattern : Option String
  root : Option Path
  mode : SearchMode
  deriving DecidableEq

inductive Command
  | inventory (search : SearchRequest)
  | index (search : SearchRequest) (byCount : Bool)
  | callGraph (search : SearchRequest) (limit : Option Nat) (output : Option Path)
  | init (directory : Path) (force : Bool)
  | completions (shell : Shell) (directory : Option Path) (toOutput : Bool)
  deriving DecidableEq

def Command.searches : Command → Bool
  | .inventory _ => true
  | .index _ _ => true
  | .callGraph _ _ _ => true
  | .init _ _ => false
  | .completions _ _ _ => false

structure Manner where
  quiet : Bool
  plain : Bool
  dryRun : Bool
  seconds : Option Nat
  deriving DecidableEq

structure Request where
  command : Command
  manner : Manner
  verbosity : Nat
  deriving DecidableEq

end CallAtlas
