import CallAtlas.Binary64.Numeral
import CallAtlas.Json.Quoted
import CallAtlas.Toml.Basic

set_option autoImplicit false
set_option relaxedAutoImplicit false

namespace CallAtlas.Toml

def plainDigits? (isDigit : Char → Bool) : List Char → Option (List Char)
  | [] => none
  | [c] => if isDigit c then some [c] else none
  | c :: '_' :: rest =>
    if isDigit c then (plainDigits? isDigit rest).map (c :: ·) else none
  | c :: rest => if isDigit c then (plainDigits? isDigit rest).map (c :: ·) else none

def wholeDigits? (text : List Char) : Option (List Char) :=
  match plainDigits? Char.isDigit text with
  | some ['0'] => some ['0']
  | some ('0' :: _) => none
  | digits => digits

/-- Cuts a sign from a number; true for a minus. -/
def cutSign : List Char → Bool × List Char
  | '-' :: rest => (true, rest)
  | '+' :: rest => (false, rest)
  | text => (false, text)

def bounded? (n : Int) : Option Int :=
  if -(Text.signedMax : Int) - 1 ≤ n ∧ n ≤ (Text.signedMax : Int) then some n else none

def readBase? (base : Nat) (text : List Char) : Option Int :=
  let isDigit (c : Char) : Bool := (Json.hexDigit? c).any (· < base)
  match plainDigits? isDigit text with
  | none => none
  | some digits =>
    bounded? (digits.foldl (fun value c => base * value + (Json.hexDigit? c).getD 0) 0 : Nat)

def readInteger? (text : List Char) : Option Int :=
  match text with
  | '0' :: 'x' :: rest => readBase? 16 rest
  | '0' :: 'o' :: rest => readBase? 8 rest
  | '0' :: 'b' :: rest => readBase? 2 rest
  | text =>
    let (negative, magnitude) := cutSign text
    match wholeDigits? magnitude with
    | none => none
    | some digits =>
      let size : Int := (Binary64.digitsValue digits : Nat)
      bounded? (if negative then -size else size)

def readPower? (text : List Char) : Option Int :=
  let (negative, digits) := cutSign text
  (plainDigits? Char.isDigit digits).map fun digits =>
    let size : Int := (Binary64.digitsValue digits : Nat)
    if negative then -size else size

/-- Reads a real number without its sign: digits with a point and places, an exponent, or both.
A number that rounds to plus infinity is refused. -/
def readMagnitude? (negative : Bool) (text : List Char) : Option Binary64 := do
  let isMark (c : Char) : Bool := c = 'e' || c = 'E'
  let mantissa := text.takeWhile fun c => !isMark c
  let whole := mantissa.takeWhile (· ≠ '.')
  let places ←
    match mantissa.dropWhile (· ≠ '.') with
    | [] => some []
    | _ :: places => plainDigits? Char.isDigit places
  let power ←
    match text.dropWhile fun c => !isMark c with
    | [] => if places.isEmpty then none else some 0
    | _ :: power => readPower? power
  let digits ← wholeDigits? whole
  let value := Binary64.ofDecimal negative (Binary64.digitsValue (digits ++ places))
    (power - places.length)
  if value = .infinite false then none else some value

def readReal? (text : List Char) : Option Binary64 :=
  let (negative, magnitude) := cutSign text
  if magnitude = ['i', 'n', 'f'] then some (.infinite negative)
  else if magnitude = ['n', 'a', 'n'] then some .nan
  else readMagnitude? negative magnitude

end CallAtlas.Toml
