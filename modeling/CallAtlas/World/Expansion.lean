import CallAtlas.Text.Alphanumeric
import CallAtlas.Text.Piece
import CallAtlas.World.Basic

set_option autoImplicit false
set_option relaxedAutoImplicit false

/-!
Expanding the variables and the home directory in a path.  `$name` and `${name}` stand for a
variable, `${name:-text}` for the text if the variable is not set, `$$` for one dollar sign, and a
tilde at the start for the home directory.
-/

namespace CallAtlas.World

abbrev Environment := List (String × String)

def isNameChar (c : Char) : Bool := Text.isAlphanumeric c || c = '_'

/-- What a dollar sign begins, and the text after it. -/
inductive Token
  | dollar (rest : List Char)
  | unclosed (rest : List Char)
  | variable (name : List Char) (other : Option (List Char)) (rest : List Char)

/-- Cuts the inside of braces at `:-`, which counts only after a name. -/
def cutDefault (inside : List Char) : List Char × Option (List Char) :=
  let rec find (name : List Char) : List Char → Option (List Char × List Char)
    | ':' :: '-' :: other => some (name.reverse, other)
    | c :: rest => find (c :: name) rest
    | [] => none
  match find [] inside with
  | some ([], _) => (inside, none)
  | some (name, other) => (name, some other)
  | none => (inside, none)

def Token.read : List Char → Token
  | '\x7b' :: rest =>
    match Text.cutAt? '\x7d' rest with
    | none => .unclosed rest
    | some (inside, rest) =>
      let (name, other) := cutDefault inside
      .variable name other rest
  | '$' :: rest => .dollar rest
  | text =>
    match text.takeWhile isNameChar with
    | [] => .dollar text
    | name => .variable name none (text.dropWhile isNameChar)

/-- Replaces the variables of a text in at most the given number of steps; a variable that is not
set and has no other text is the fault. -/
def expandWithin (environment : Environment) : Nat → List Char → Except String (List Char)
  | 0, text => .ok text
  | _, [] => .ok []
  | steps + 1, '$' :: rest =>
    match Token.read rest with
    | .dollar rest => (expandWithin environment steps rest).map ('$' :: ·)
    | .unclosed rest => (expandWithin environment steps rest).map (['$', '\x7b'] ++ ·)
    | .variable name other rest =>
      match environment.lookup (String.ofList name), other with
      | some value, _ => (expandWithin environment steps rest).map (value.toList ++ ·)
      | none, some value => (expandWithin environment steps rest).map (value ++ ·)
      | none, none => .error (String.ofList name)
  | steps + 1, c :: rest => (expandWithin environment steps rest).map (c :: ·)

def expandVariables (environment : Environment) (text : List Char) :
    Except String (List Char) :=
  expandWithin environment text.length text

def home? (environment : Environment) : Option String :=
  (environment.lookup "HOME").filter (· ≠ "")

/-- Replaces a tilde that stands alone or before a slash at the start of a text. -/
def expandHome (environment : Environment) (text : List Char) : List Char :=
  match text with
  | '~' :: rest =>
    if rest = [] ∨ rest.head? = some '/' then
      match home? environment with
      | some home => home.toList ++ rest
      | none => text
    else text
  | _ => text

/-- Replaces variables, then the home directory.  A tilde that came out of a variable stays. -/
def expand (environment : Environment) (text : String) : Except String String :=
  match expandVariables environment text.toList with
  | .error name => .error name
  | .ok expanded =>
    if text.toList.head? ≠ some '~' ∧ expanded.head? = some '~' then .ok (String.ofList expanded)
    else .ok (String.ofList (expandHome environment expanded))

end CallAtlas.World
