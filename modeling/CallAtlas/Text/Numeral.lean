set_option autoImplicit false
set_option relaxedAutoImplicit false

namespace CallAtlas.Text

def wordMax : Nat := Nat.pow 2 64 - 1

def signedMax : Nat := Nat.pow 2 63 - 1

inductive NumeralError
  | empty
  | invalidDigit
  | tooLarge
  deriving DecidableEq

def NumeralError.message : NumeralError → String
  | .empty => "cannot parse integer from empty string"
  | .invalidDigit => "invalid digit found in string"
  | .tooLarge => "number too large to fit in target type"

def digit? (c : Char) : Option Nat :=
  if c.isDigit then some (c.toNat - '0'.toNat) else none

/-- Reads digits after a number read so far; the first fault from the left decides. -/
def readDigits (bound : Nat) : Nat → List Char → Except NumeralError Nat
  | value, [] => .ok value
  | value, c :: rest =>
    match digit? c with
    | none => .error .invalidDigit
    | some digit =>
      if 10 * value + digit ≤ bound then readDigits bound (10 * value + digit) rest
      else .error .tooLarge

def readNumeral (bound : Nat) : List Char → Except NumeralError Nat
  | [] => .error .empty
  | '+' :: [] => .error .invalidDigit
  | '+' :: digits => readDigits bound 0 digits
  | digits => readDigits bound 0 digits

def readWord (text : List Char) : Except NumeralError Nat := readNumeral wordMax text

private def magnitude? (bound : Nat) (digits : List Char) : Option Nat :=
  if digits.isEmpty then none else (readDigits bound 0 digits).toOption

/-- Reads a signed numeral of a 64-bit word in two's complement. -/
def readSigned? : List Char → Option Int
  | '-' :: digits => (magnitude? (signedMax + 1) digits).map fun n => -(n : Int)
  | '+' :: digits => (magnitude? signedMax digits).map fun n => (n : Int)
  | digits => (magnitude? signedMax digits).map fun n => (n : Int)

def decimal (n : Nat) : List Char := Nat.toDigits 10 n

def signedDecimal (n : Int) : List Char :=
  if n < 0 then '-' :: decimal n.natAbs else decimal n.natAbs

/-- A numeral of at most `bound`: digits with that value, after one plus sign or none. -/
def IsNumeral (bound : Nat) (text : List Char) (n : Nat) : Prop :=
  ∃ digits, (text = digits ∨ text = '+' :: digits) ∧ digits ≠ [] ∧
    (∀ c ∈ digits, c.isDigit = true) ∧ Nat.ofDigitChars 10 digits 0 = n ∧ n ≤ bound

theorem le_ofDigitChars (digits : List Char) (value : Nat) :
    value ≤ Nat.ofDigitChars 10 digits value := by
  induction digits generalizing value with
  | nil => simp
  | cons c rest ih =>
    rw [Nat.ofDigitChars_cons]
    exact Nat.le_trans (by omega) (ih _)

theorem readDigits_eq_ok {bound value n : Nat} {digits : List Char} (small : value ≤ bound) :
    readDigits bound value digits = .ok n ↔
      (∀ c ∈ digits, c.isDigit = true) ∧ Nat.ofDigitChars 10 digits value = n ∧ n ≤ bound := by
  induction digits generalizing value with
  | nil =>
    simp only [readDigits, Except.ok.injEq, Nat.ofDigitChars_nil, List.not_mem_nil, false_implies,
      implies_true, true_and]
    constructor
    · rintro rfl
      exact ⟨rfl, small⟩
    · exact And.left
  | cons c rest ih =>
    rw [readDigits, digit?, List.forall_mem_cons, Nat.ofDigitChars_cons]
    by_cases digit : c.isDigit = true
    · rw [if_pos digit]
      dsimp only
      split
      · rename_i fits
        rw [ih fits]
        simp [digit]
      · rename_i beyond
        have grows := le_ofDigitChars rest (10 * value + (c.toNat - '0'.toNat))
        constructor
        · intro h
          cases h
        · rintro ⟨-, rfl, fits⟩
          omega
    · rw [if_neg digit]
      simp [digit]

theorem readNumeral_eq_ok {bound n : Nat} {text : List Char} :
    readNumeral bound text = .ok n ↔ IsNumeral bound text n := by
  have read (digits : List Char) := @readDigits_eq_ok bound 0 n digits (Nat.zero_le _)
  have plus : '+'.isDigit = false := by decide
  unfold readNumeral IsNumeral
  split
  · simp
  · simp [plus]
  · rename_i digits bare
    rw [read]
    constructor
    · intro h
      exact ⟨digits, .inr rfl, bare, h⟩
    · rintro ⟨other, rfl | same, -, h⟩
      · simp [plus] at h
      · obtain rfl := (List.cons.inj same).2
        exact h
  · rename_i unsigned
    rw [read]
    constructor
    · intro h
      exact ⟨text, .inl rfl, by assumption, h⟩
    · rintro ⟨other, rfl | rfl, some, h⟩
      · exact h
      · exact absurd rfl (unsigned other)

theorem not_isAlpha_of_isDigit {c : Char} (digit : c.isDigit = true) : c.isAlpha = false := by
  change (decide ('0'.val ≤ c.val) && decide (c.val ≤ '9'.val)) = true at digit
  change (decide ('A'.val ≤ c.val ∧ c.val ≤ 'Z'.val) ||
    decide ('a'.val ≤ c.val) && decide (c.val ≤ 'z'.val)) = false
  grind

theorem not_isAlpha_of_readSigned? {c : Char} {rest : List Char} {value : Int}
    (read : readSigned? (c :: rest) = some value) : c.isAlpha = false := by
  unfold readSigned? at read
  split at read
  · rename_i sign
    obtain rfl := (List.cons.inj sign).1
    decide
  · rename_i sign
    obtain rfl := (List.cons.inj sign).1
    decide
  · obtain ⟨n, digits, -⟩ := Option.map_eq_some_iff.mp read
    rw [magnitude?, readDigits, digit?] at digits
    by_cases digit : c.isDigit = true
    · exact not_isAlpha_of_isDigit digit
    · rw [if_neg digit] at digits
      cases digits

theorem isDigit_of_mem_decimal {n : Nat} {c : Char} (h : c ∈ decimal n) : c.isDigit = true :=
  Nat.isDigit_of_mem_toDigits (by decide) (by decide) h

theorem notMem_decimal {c : Char} (other : c.isDigit = false) (n : Nat) : c ∉ decimal n := by
  intro inside
  rw [isDigit_of_mem_decimal inside] at other
  cases other

theorem decimal_injective {n m : Nat} (same : decimal n = decimal m) : n = m := by
  have value (k : Nat) : Nat.ofDigitChars 10 (decimal k) 0 = k := Nat.ofDigitChars_ten_toDigits
  rw [← value n, ← value m, same]

theorem isNumeral_decimal {bound n : Nat} (small : n ≤ bound) :
    IsNumeral bound (decimal n) n :=
  ⟨decimal n, .inl rfl, Nat.toDigits_ne_nil, fun _ => isDigit_of_mem_decimal,
    Nat.ofDigitChars_ten_toDigits, small⟩

end CallAtlas.Text
