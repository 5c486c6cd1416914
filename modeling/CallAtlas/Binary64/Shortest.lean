import CallAtlas.Binary64.Basic

set_option autoImplicit false
set_option relaxedAutoImplicit false

/-!
The shortest decimal text of a floating point number: the fewest digits that read back as the
number, the nearest of those, written positionally.
-/

namespace CallAtlas.Binary64

structure Digits where
  value : Nat
  power : Int
  deriving DecidableEq

/-- The interval of reals that round to a positive number, in units of a quarter of its last
place: the lower end is nearer where the exponent changes. -/
def interval (mantissa : Nat) (exponent : Int) : Nat × Nat :=
  if mantissa = Nat.pow 2 52 ∧ exponent ≠ -1074 then (4 * mantissa - 1, 4 * mantissa + 2)
  else (4 * mantissa - 2, 4 * mantissa + 2)

def compareDecimal (value : Nat) (power : Int) (quarters : Nat) (exponent : Int) : Ordering :=
  let ten := Nat.pow 10 power.natAbs
  let two := Nat.pow 2 (exponent - 2).natAbs
  let left := if 0 ≤ power then value * ten else value
  let right := if 0 ≤ power then quarters else quarters * ten
  if 0 ≤ exponent - 2 then compare left (right * two) else compare (left * two) right

/-- Whether `value · 10 ^ power` reads back as the number; the ends of the interval count for an
even mantissa. -/
def readsBack (mantissa : Nat) (exponent : Int) (value : Nat) (power : Int) : Bool :=
  let (low, high) := interval mantissa exponent
  match compareDecimal value power low exponent, compareDecimal value power high exponent with
  | .gt, .lt => true
  | .eq, _ => mantissa % 2 = 0
  | _, .eq => mantissa % 2 = 0
  | _, _ => false

def floorAt (mantissa : Nat) (exponent : Int) (power : Int) : Nat :=
  let (num, den) := fraction mantissa exponent
  if 0 ≤ power then num / (den * Nat.pow 10 power.toNat)
  else num * Nat.pow 10 (-power).toNat / den

def upperIsNearer (mantissa : Nat) (exponent : Int) (value : Nat) (power : Int) : Bool :=
  let (num, den) := fraction mantissa exponent
  if 0 ≤ power then (2 * value + 1) * (den * Nat.pow 10 power.toNat) ≤ 2 * num
  else (2 * value + 1) * den ≤ 2 * (num * Nat.pow 10 (-power).toNat)

def digitsAt (mantissa : Nat) (exponent : Int) (power : Int) : Option Digits :=
  let below := floorAt mantissa exponent power
  match readsBack mantissa exponent below power, readsBack mantissa exponent (below + 1) power with
  | true, true =>
    if upperIsNearer mantissa exponent below power then some ⟨below + 1, power⟩
    else some ⟨below, power⟩
  | true, false => some ⟨below, power⟩
  | false, true => some ⟨below + 1, power⟩
  | false, false => none

def leadingPower (mantissa : Nat) (exponent : Int) : Int :=
  let (num, den) := fraction mantissa exponent
  if den ≤ num then ((Nat.toDigits 10 (num / den)).length : Int) - 1
  else
    let reciprocal := (den + num - 1) / num
    Int.neg (Nat.toDigits 10 (reciprocal - 1)).length

def searchDigits (mantissa : Nat) (exponent : Int) : Nat → Int → Digits
  | 0, power => ⟨floorAt mantissa exponent power, power⟩
  | rounds + 1, power =>
    match digitsAt mantissa exponent power with
    | some digits => digits
    | none => searchDigits mantissa exponent rounds (power - 1)

/-- The shortest digits of a positive number.  Seventeen always suffice; the search starts one
power above the first digit, because a power of ten may lie right above the number. -/
def shortest (mantissa : Nat) (exponent : Int) : Digits :=
  searchDigits mantissa exponent 18 (leadingPower mantissa exponent + 1)

def Digits.positional (digits : Digits) : List Char :=
  let text := Nat.toDigits 10 digits.value
  if 0 ≤ digits.power then text ++ List.replicate digits.power.toNat '0'
  else
    let places := (-digits.power).toNat
    let padded := List.replicate (places + 1 - text.length) '0' ++ text
    padded.take (padded.length - places) ++ '.' :: padded.drop (padded.length - places)

def toText : Binary64 → String
  | .finite negative mantissa exponent =>
    let magnitude := if mantissa = 0 then ['0'] else (shortest mantissa exponent).positional
    String.ofList (if negative then '-' :: magnitude else magnitude)
  | .infinite negative => if negative then "-inf" else "inf"
  | .nan => "NaN"

end CallAtlas.Binary64
