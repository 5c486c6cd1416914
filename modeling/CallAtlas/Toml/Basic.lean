import CallAtlas.Binary64.Basic

set_option autoImplicit false
set_option relaxedAutoImplicit false

namespace CallAtlas

/-- A TOML value.  Dates and times are kept in their normal spelling. -/
inductive Toml
  | string (value : String)
  | integer (value : Int)
  | real (value : Binary64)
  | boolean (value : Bool)
  | moment (text : String)
  | list (items : List Toml)
  | table (fields : List (String × Toml))

namespace Toml

/-- A character that may stand in a comment or a string on one line. -/
def isPlain (c : Char) : Bool := c = '\t' || (0x20 ≤ c.toNat && c.toNat ≠ 0x7F)

def isSpace (c : Char) : Bool := c = ' ' || c = '\t'

def skipSpace (text : List Char) : List Char := text.dropWhile isSpace

def afterNewline? : List Char → Option (List Char)
  | '\n' :: rest => some rest
  | '\r' :: '\n' :: rest => some rest
  | _ => none

def skipComment? : List Char → Option (List Char)
  | '#' :: rest =>
    match rest.dropWhile isPlain with
    | [] => some []
    | tail => if (afterNewline? tail).isSome then some tail else none
  | text => some text

def nextLine? (text : List Char) : Option (List Char) :=
  match skipComment? (skipSpace text) with
  | none => none
  | some [] => some []
  | some tail => afterNewline? tail

def skipLines? : Nat → List Char → Option (List Char)
  | 0, text => some text
  | lines + 1, text =>
    match skipSpace text with
    | [] => some []
    | '#' :: rest => (nextLine? ('#' :: rest)).bind (skipLines? lines)
    | tail =>
      match afterNewline? tail with
      | some rest => skipLines? lines rest
      | none => some tail

end Toml

end CallAtlas
