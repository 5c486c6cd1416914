import CallAtlas.Binary64.Basic
import Mathlib.Algebra.GroupWithZero.Nat

set_option autoImplicit false
set_option relaxedAutoImplicit false

namespace CallAtlas.Binary64

theorem log2_sub_log2_le {num den k : Nat} (some : num ≠ 0) (bound : num < den * 2 ^ k) :
    (num.log2 : Int) - den.log2 ≤ k := by
  have above : num < 2 ^ (den.log2 + 1 + k) := by
    calc num < den * 2 ^ k := bound
      _ ≤ 2 ^ (den.log2 + 1) * 2 ^ k := Nat.mul_le_mul_right _ (Nat.le_of_lt Nat.lt_log2_self)
      _ = 2 ^ (den.log2 + 1 + k) := (Nat.pow_add 2 _ k).symm
  have below := (Nat.log2_lt some).mpr above
  omega

theorem exponentFor_le {num den k : Nat} (some : num ≠ 0) (bound : num < den * 2 ^ k) :
    exponentFor num den ≤ max (k - 52 : Int) (-1074) := by
  have gap := log2_sub_log2_le some bound
  unfold exponentFor
  dsimp only
  split
  · omega
  · omega

theorem fraction_eq (mantissa : Nat) (exponent : Int) : fraction mantissa exponent =
    (mantissa * 2 ^ exponent.toNat, 2 ^ (-exponent).toNat) := by
  unfold fraction
  split
  · rename_i high
    rw [Int.toNat_of_nonpos (Int.neg_nonpos_of_nonneg high)]
    rfl
  · rename_i low
    rw [Int.toNat_of_nonpos (Int.le_of_not_le low), Nat.pow_zero, Nat.mul_one]
    rfl

theorem scaleDown_eq (num den : Nat) (exponent : Int) : scaleDown num den exponent =
    (num * 2 ^ (-exponent).toNat, den * 2 ^ exponent.toNat) := by
  unfold scaleDown
  split
  · rename_i high
    rw [Int.toNat_of_nonpos (Int.neg_nonpos_of_nonneg high), Nat.pow_zero, Nat.mul_one]
    rfl
  · rename_i low
    rw [Int.toNat_of_nonpos (Int.le_of_not_le low), Nat.pow_zero, Nat.mul_one]
    rfl

def mantissaFor (num den : Nat) (exponent : Int) : Nat :=
  roundQuotient (num * 2 ^ (-exponent).toNat) (den * 2 ^ exponent.toNat)

/-- A mantissa that was rounded up to one bit more gives that bit to the exponent. -/
def carry (mantissa : Nat) (exponent : Int) : Nat × Int :=
  if mantissa = 2 ^ 53 then (2 ^ 52, exponent + 1) else (mantissa, exponent)

theorem carry_le (mantissa : Nat) (exponent : Int) :
    (carry mantissa exponent).2 ≤ exponent + 1 := by
  unfold carry
  split
  · exact Int.le_refl _
  · exact Int.le_add_one (Int.le_refl _)

theorem round_of_bound {num den k : Nat} (some : num ≠ 0) (bound : num < den * 2 ^ k)
    (far : k ≤ 1000) (negative : Bool) :
    let carried := carry (mantissaFor num den (exponentFor num den)) (exponentFor num den)
    round negative num den = .finite negative carried.1 carried.2 := by
  intro carried
  have least := exponentFor_le some bound
  have small : ¬971 < carried.2 := by
    have most : carried.2 ≤ exponentFor num den + 1 := carry_le _ _
    omega
  unfold round
  rw [if_neg some]
  dsimp only
  rw [scaleDown_eq]
  change (if 971 < carried.2 then _ else Binary64.finite negative carried.1 carried.2) = _
  exact if_neg small

theorem isFinite_round {num den k : Nat} (bound : num < den * 2 ^ k) (far : k ≤ 1000)
    (negative : Bool) :
    (round negative num den).isFinite = true := by
  by_cases none : num = 0
  · subst none
    rfl
  · rw [round_of_bound none bound far]
    rfl

/-- The fraction of a number is at most an integer. -/
def FractionLe (mantissa : Nat) (exponent : Int) (n : Nat) : Prop :=
  mantissa * 2 ^ exponent.toNat ≤ n * 2 ^ (-exponent).toNat

theorem fractionLe_carry {mantissa n : Nat} {exponent : Int}
    (bounded : FractionLe mantissa exponent n) :
    FractionLe (carry mantissa exponent).1 (carry mantissa exponent).2 n := by
  unfold carry
  split
  · rename_i full
    subst full
    unfold FractionLe at *
    dsimp only
    rcases Int.lt_or_le exponent 0 with low | high
    · have halved : 2 ^ (-exponent).toNat = 2 * 2 ^ (-(exponent + 1)).toNat := by
        rw [show (-exponent).toNat = (-(exponent + 1)).toNat + 1 by omega, Nat.pow_succ']
      rw [halved, Nat.mul_left_comm, show exponent.toNat = 0 by omega] at bounded
      rw [show (exponent + 1).toNat = 0 by omega]
      omega
    · rw [show (exponent + 1).toNat = exponent.toNat + 1 by omega,
        show (-(exponent + 1)).toNat = (-exponent).toNat by omega, Nat.pow_succ]
      omega
  · exact bounded

theorem fractionLe_mantissaFor {n : Nat} (some : n ≠ 0) {exponent : Int}
    (small : exponent ≤ n.log2) : FractionLe (mantissaFor n 1 exponent) exponent (2 * n) := by
  have near := (roundQuotient_near (n * 2 ^ (-exponent).toNat) (1 * 2 ^ exponent.toNat)
    (by rw [Nat.one_mul]; exact Nat.two_pow_pos _)).2
  have least : 2 ^ exponent.toNat ≤ n := by
    calc 2 ^ exponent.toNat ≤ 2 ^ n.log2 := Nat.pow_le_pow_right (by decide) (by omega)
      _ ≤ n := Nat.log2_self_le some
  have grows : n ≤ n * 2 ^ (-exponent).toNat := Nat.le_mul_of_pos_right n (Nat.two_pow_pos _)
  rw [Nat.one_mul] at near
  rw [FractionLe, mantissaFor, Nat.one_mul, Nat.mul_assoc 2]
  omega

theorem ofNat_fractionLe {n k : Nat} (bound : n < 2 ^ k) (far : k ≤ 1000) : ∃ mantissa exponent,
    ofNat n = .finite false mantissa exponent ∧ FractionLe mantissa exponent (2 * n) := by
  by_cases none : n = 0
  · subst none
    exact ⟨0, -1074, rfl, by rw [FractionLe, Nat.zero_mul]; exact Nat.zero_le _⟩
  · have least : exponentFor n 1 ≤ n.log2 := by
      have above : n < 1 * 2 ^ (n.log2 + 1) := by
        rw [Nat.one_mul]
        exact Nat.lt_log2_self
      have := exponentFor_le none above
      omega
    exact ⟨_, _, round_of_bound none (by rwa [Nat.one_mul]) far false,
      fractionLe_carry (fractionLe_mantissaFor none least)⟩

theorem isFinite_scaleBy {n factor j k : Nat} (word : n < 2 ^ j) (near : j ≤ 1000)
    (bound : 2 * n * factor < 2 ^ k) (far : k ≤ 1000) :
    ((ofNat n).scaleBy factor).isFinite = true := by
  obtain ⟨mantissa, exponent, equal, bounded⟩ := ofNat_fractionLe word near
  rw [equal, scaleBy, fraction_eq]
  refine isFinite_round ?_ far false
  calc mantissa * 2 ^ exponent.toNat * factor
      ≤ 2 * n * 2 ^ (-exponent).toNat * factor := Nat.mul_le_mul_right _ bounded
    _ = 2 ^ (-exponent).toNat * (2 * n * factor) := by
        rw [Nat.mul_right_comm, Nat.mul_comm]
    _ < 2 ^ (-exponent).toNat * 2 ^ k := Nat.mul_lt_mul_of_pos_left bound (Nat.two_pow_pos _)

end CallAtlas.Binary64
