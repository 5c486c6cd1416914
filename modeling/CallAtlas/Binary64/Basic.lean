set_option autoImplicit false
set_option relaxedAutoImplicit false

/-!
Binary floating point numbers of 64 bits, as exact values `± m · 2 ^ e`.  Every operation computes
the exact rational result and rounds it once, to the nearest number and to the even one of two
equally near.
-/

namespace CallAtlas

/-- A floating point number of 64 bits.  A finite one has the value `± mantissa · 2 ^ exponent`
with `mantissa < 2 ^ 53` and `-1074 ≤ exponent ≤ 971`. -/
inductive Binary64
  | finite (negative : Bool) (mantissa : Nat) (exponent : Int)
  | infinite (negative : Bool)
  | nan
  deriving DecidableEq

namespace Binary64

def zero (negative : Bool) : Binary64 := .finite negative 0 (-1074)

/-- The quotient of two numbers rounded to the nearest integer, a half to the even one. -/
def roundQuotient (num den : Nat) : Nat :=
  let low := num / den
  let twice := 2 * (num % den)
  if twice < den then low
  else if den < twice then low + 1
  else if low % 2 = 0 then low else low + 1

def scaleDown (num den : Nat) (exponent : Int) : Nat × Nat :=
  if 0 ≤ exponent then (num, den * Nat.pow 2 exponent.toNat)
  else (num * Nat.pow 2 (-exponent).toNat, den)

/-- The exponent that leaves a mantissa of 53 bits for `num / den`, but not below the least
one. -/
def exponentFor (num den : Nat) : Int :=
  let gap : Int := (num.log2 : Int) - (den.log2 : Int)
  let (top, bottom) := scaleDown num den gap
  max (if bottom ≤ top then gap - 52 else gap - 53) (-1074)

def round (negative : Bool) (num den : Nat) : Binary64 :=
  if num = 0 then zero negative
  else
    let exponent := exponentFor num den
    let (top, bottom) := scaleDown num den exponent
    let mantissa := roundQuotient top bottom
    let (mantissa, exponent) :=
      if mantissa = Nat.pow 2 53 then (Nat.pow 2 52, exponent + 1) else (mantissa, exponent)
    if 971 < exponent then .infinite negative else .finite negative mantissa exponent

def ofNat (n : Nat) : Binary64 := round false n 1

/-- The number nearest to `± digits · 10 ^ exponent`.  Beyond the given magnitudes every number
rounds to infinity or to zero, so no larger power is ever computed. -/
def ofDecimal (negative : Bool) (digits : Nat) (exponent : Int) : Binary64 :=
  let magnitude : Int := ((Nat.toDigits 10 digits).length : Int) + exponent
  if digits = 0 then zero negative
  else if 310 < magnitude then .infinite negative
  else if magnitude < -330 then zero negative
  else if 0 ≤ exponent then round negative (digits * Nat.pow 10 exponent.toNat) 1
  else round negative digits (Nat.pow 10 (-exponent).toNat)

def fraction (mantissa : Nat) (exponent : Int) : Nat × Nat :=
  if 0 ≤ exponent then (mantissa * Nat.pow 2 exponent.toNat, 1)
  else (mantissa, Nat.pow 2 (-exponent).toNat)

def isZero : Binary64 → Bool
  | .finite _ mantissa _ => mantissa = 0
  | _ => false

def isFinite : Binary64 → Bool
  | .finite .. => true
  | _ => false

def negate : Binary64 → Binary64
  | .finite negative mantissa exponent => .finite (!negative) mantissa exponent
  | .infinite negative => .infinite (!negative)
  | .nan => .nan

def scaleBy (x : Binary64) (factor : Nat) : Binary64 :=
  match x with
  | .finite negative mantissa exponent =>
    let (num, den) := fraction mantissa exponent
    round negative (num * factor) den
  | other => other

def shrinkBy (x : Binary64) (divisor : Nat) : Binary64 :=
  match x with
  | .finite negative mantissa exponent =>
    let (num, den) := fraction mantissa exponent
    round negative num (den * divisor)
  | other => other

def toBits : Binary64 → Nat
  | .finite negative mantissa exponent =>
    let sign := if negative then Nat.pow 2 63 else 0
    let hidden := Nat.pow 2 52
    if mantissa < hidden then sign + mantissa
    else sign + (exponent + 1075).toNat * hidden + (mantissa - hidden)
  | .infinite negative => (if negative then Nat.pow 2 63 else 0) + 0x7FF * Nat.pow 2 52
  | .nan => 0x7FF8 * Nat.pow 2 48

/-- The nearest 64-bit word, a half away from zero: negative numbers and `nan` give zero, and
what is too large gives the greatest word. -/
def toWord : Binary64 → Nat
  | .finite true _ _ => 0
  | .finite false mantissa exponent =>
    let (num, den) := fraction mantissa exponent
    min ((2 * num + den) / (2 * den)) (Nat.pow 2 64 - 1)
  | .infinite negative => if negative then 0 else Nat.pow 2 64 - 1
  | .nan => 0

theorem roundQuotient_near (num den : Nat) (h : 0 < den) :
    2 * num ≤ 2 * (roundQuotient num den * den) + den ∧
      2 * (roundQuotient num den * den) ≤ 2 * num + den := by
  have split := Nat.div_add_mod num den
  have small := Nat.mod_lt num h
  have comm : den * (num / den) = num / den * den := Nat.mul_comm _ _
  have next : (num / den + 1) * den = num / den * den + den := by
    rw [Nat.add_mul, Nat.one_mul]
  unfold roundQuotient
  dsimp only
  split
  · omega
  · split
    · rw [next]; omega
    · split
      · omega
      · rw [next]; omega

example : (round false 1 10).toBits = 0x3FB999999999999A := by decide +kernel
example : (ofNat (Nat.pow 2 64 - 1)).toBits = 0x43F0000000000000 := by decide +kernel
example : (round false 5 2).toWord = 3 := by decide +kernel

end Binary64

end CallAtlas
