import CallAtlas.Text.Numeral
import CallAtlas.Json.Basic

set_option autoImplicit false
set_option relaxedAutoImplicit false

/-!
JSON numbers.  A number without point and exponent that fits a signed or an unsigned word is an
integer; `-0` and every other number is real.

A real number is read from a significand of one word: digits that no longer fit are dropped, and
dropped digits before the point raise the exponent.  Significand and power of ten are rounded on
their own before they are multiplied or divided.
-/

namespace CallAtlas.Json

/-- Digits read so far as a word, the power of ten of the last one, and what follows. -/
structure Scan where
  significand : Nat
  exponent : Int
  rest : List Char

/-- Reads further digits into a word.  The first digit that does not fit stays in the rest. -/
def readSignificand (value : Nat) : List Char → Nat × List Char
  | [] => (value, [])
  | c :: rest =>
    match Text.digit? c with
    | none => (value, c :: rest)
    | some digit =>
      if 10 * value + digit ≤ Text.wordMax then readSignificand (10 * value + digit) rest
      else (value, c :: rest)

def skipDigits (text : List Char) : Nat × List Char :=
  ((text.takeWhile Char.isDigit).length, text.dropWhile Char.isDigit)

def roundedPower (exponent : Nat) : Nat :=
  match Binary64.ofNat (Nat.pow 10 exponent) with
  | .finite _ mantissa scale =>
    let (num, den) := Binary64.fraction mantissa scale
    num / den
  | _ => Nat.pow 10 exponent

/-- Divides by a power of ten, in steps of at most 308 places; zero stays. -/
def shrinkFar : Nat → Binary64 → Nat → Binary64
  | 0, value, places => value.shrinkBy (roundedPower places)
  | steps + 1, value, places =>
    if value.isZero then value
    else shrinkFar steps (value.shrinkBy (roundedPower 308)) (places - 308)

def scaled? (negative : Bool) (significand : Nat) (exponent : Int) : Option Binary64 :=
  let value := Binary64.ofNat significand
  let signed (x : Binary64) := if negative then x.negate else x
  if 0 ≤ exponent then
    if 308 < exponent then (if value.isZero then some (signed value) else none)
    else
      let product := value.scaleBy (roundedPower exponent.toNat)
      if product.isFinite then some (signed product) else none
  else
    let places := (-exponent).toNat
    some (signed (shrinkFar ((places - 1) / 308) value places))

def exponentMax : Nat := Nat.pow 2 31 - 1

/-- Reads the exponent after its mark and finishes the number.  An exponent beyond the greatest
one leaves zero, or is too large. -/
def finishExponent? (negative : Bool) (significand : Nat) (exponent : Int) (text : List Char) :
    Option (Binary64 × List Char) :=
  let (raised, text) :=
    match text with
    | '+' :: rest => (true, rest)
    | '-' :: rest => (false, rest)
    | rest => (true, rest)
  let digits := text.takeWhile Char.isDigit
  let rest := text.dropWhile Char.isDigit
  if digits.isEmpty then none
  else
    match Text.readDigits exponentMax 0 digits with
    | .error _ =>
      if significand ≠ 0 && raised then none else some (Binary64.zero negative, rest)
    | .ok size =>
      let total := if raised then exponent + size else exponent - size
      (scaled? negative significand total).map (·, rest)

def finish? (negative : Bool) (scan : Scan) : Option (Binary64 × List Char) :=
  match scan.rest with
  | 'e' :: rest => finishExponent? negative scan.significand scan.exponent rest
  | 'E' :: rest => finishExponent? negative scan.significand scan.exponent rest
  | rest => (scaled? negative scan.significand scan.exponent).map (·, rest)

/-- Reads the places after a point, at least one; places that do not fit the word are dropped. -/
def readPlaces? (significand : Nat) (exponent : Int) (text : List Char) : Option Scan :=
  if (text.head?.bind Text.digit?).isNone then none
  else
    let (value, rest) := readSignificand significand text
    let places := text.length - rest.length
    some ⟨value, exponent - places, (skipDigits rest).2⟩

def readUnsigned? (negative : Bool) (text : List Char) : Option (Json × List Char) :=
  let start : Option (Nat × List Char) :=
    match text with
    | '0' :: rest => if (rest.head?.bind Text.digit?).isSome then none else some (0, rest)
    | c :: _ => if (Text.digit? c).isSome then some (readSignificand 0 text) else none
    | [] => none
  match start with
  | none => none
  | some (significand, rest) =>
    let (dropped, rest) := skipDigits rest
    match rest with
    | '.' :: rest =>
      (readPlaces? significand dropped rest).bind fun scan =>
        (finish? negative scan).map fun (value, rest) => (.real value, rest)
    | rest =>
      let plain := rest.head? ≠ some 'e' && rest.head? ≠ some 'E'
      if plain && dropped = 0 && !negative then some (.integer significand, rest)
      else if plain && dropped = 0 && negative && 0 < significand &&
          significand ≤ Text.signedMax + 1 then
        some (.integer (-(significand : Int)), rest)
      else
        (finish? negative ⟨significand, dropped, rest⟩).map fun (value, rest) =>
          (.real value, rest)

def readNumber? : List Char → Option (Json × List Char)
  | '-' :: rest => readUnsigned? true rest
  | text => readUnsigned? false text

end CallAtlas.Json
