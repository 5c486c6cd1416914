import CallAtlas.Text.Numeral
import CallAtlas.Binary64.Basic

set_option autoImplicit false
set_option relaxedAutoImplicit false

namespace CallAtlas.Binary64

/-- A numeral cut into the digits before and after the point and the exponent. -/
structure Numeral where
  whole : List Char
  places : List Char
  exponent : Int

def digitsValue (digits : List Char) : Nat :=
  digits.foldl (fun value c => 10 * value + (Text.digit? c).getD 0) 0

def readExponent? (text : List Char) : Option Int :=
  let (negative, digits) :=
    match text with
    | '-' :: rest => (true, rest)
    | '+' :: rest => (false, rest)
    | rest => (false, rest)
  if digits.isEmpty || !digits.all Char.isDigit then none
  else
    let size : Int := digitsValue digits
    some (if negative then -size else size)

def Numeral.read? (text : List Char) : Option Numeral :=
  let whole := text.takeWhile Char.isDigit
  let (places, rest) :=
    match text.dropWhile Char.isDigit with
    | '.' :: rest => (rest.takeWhile Char.isDigit, rest.dropWhile Char.isDigit)
    | rest => ([], rest)
  if whole.isEmpty && places.isEmpty then none
  else
    match rest with
    | [] => some ⟨whole, places, 0⟩
    | mark :: tail =>
      if mark = 'e' ∨ mark = 'E' then (readExponent? tail).map (⟨whole, places, ·⟩) else none

def Numeral.round (negative : Bool) (numeral : Numeral) : Binary64 :=
  ofDecimal negative (digitsValue (numeral.whole ++ numeral.places))
    (numeral.exponent - numeral.places.length)

def readMagnitude? (negative : Bool) (text : List Char) : Option Binary64 :=
  let word := String.ofList (text.map Char.toLower)
  if word = "inf" ∨ word = "infinity" then some (.infinite negative)
  else if word = "nan" then some .nan
  else (Numeral.read? text).map (Numeral.round negative)

def read? : List Char → Option Binary64
  | '-' :: rest => readMagnitude? true rest
  | '+' :: rest => readMagnitude? false rest
  | text => readMagnitude? false text

end CallAtlas.Binary64
