import CallAtlas.Ordered.Basic
import CallAtlas.Proofs.Text.Utf8

set_option autoImplicit false
set_option relaxedAutoImplicit false

namespace CallAtlas.Text

open String (utf8EncodeChar)

theorem byte_lt_iff {a b : Nat} (ha : a < 256) (hb : b < 256) :
    UInt8.ofNat a < UInt8.ofNat b ↔ a < b := by
  rw [UInt8.lt_iff_toNat_lt, toNat_ofNat_of_lt ha, toNat_ofNat_of_lt hb]

theorem byte_eq_iff {a b : Nat} (ha : a < 256) (hb : b < 256) :
    UInt8.ofNat a = UInt8.ofNat b ↔ a = b := by
  rw [← UInt8.toNat_inj, toNat_ofNat_of_lt ha, toNat_ofNat_of_lt hb]

theorem lt_iff_digits (m n : Nat) :
    m < n ↔ m / 64 < n / 64 ∨ m / 64 = n / 64 ∧ m % 64 < n % 64 := by
  omega

/-- The digits of a lesser number come first, where the front ones are kept as one number. -/
theorem digits_lt {m n : Nat} (less : m < n) :
    m / 262144 < n / 262144 ∨ m / 262144 = n / 262144 ∧ (m / 4096 % 64 < n / 4096 % 64 ∨
      m / 4096 % 64 = n / 4096 % 64 ∧ (m / 64 % 64 < n / 64 % 64 ∨
        m / 64 % 64 = n / 64 % 64 ∧ m % 64 < n % 64)) := by
  have four (k : Nat) : k / 64 / 64 = k / 4096 := Nat.div_div_eq_div_mul k 64 64
  have eight (k : Nat) : k / 4096 / 64 = k / 262144 := Nat.div_div_eq_div_mul k 4096 64
  rw [lt_iff_digits, lt_iff_digits (m / 64), four, four, lt_iff_digits (m / 4096), eight,
    eight] at less
  have split (k : Nat) : k / 64 = 64 * (k / 4096) + k / 64 % 64 := by omega
  have split' (k : Nat) : k / 4096 = 64 * (k / 262144) + k / 4096 % 64 := by omega
  have := split m
  have := split n
  have := split' m
  have := split' n
  omega

theorem toNat_lt (c : Char) : c.val.toNat < 0x110000 := by
  rcases c.valid with low | ⟨-, high⟩
  · exact Nat.lt_trans low (by decide)
  · exact high

theorem utf8EncodeChar_append_lt {c d : Char} (less : c.toNat < d.toNat)
    (rest others : List UInt8) : utf8EncodeChar c ++ rest < utf8EncodeChar d ++ others := by
  have small := toNat_lt c
  have small' := toNat_lt d
  unfold utf8EncodeChar
  unfold Char.toNat at less
  generalize c.val.toNat = m at *
  generalize d.val.toNat = n at *
  have digits := digits_lt less
  have front : m / 262144 % 8 = m / 262144 := Nat.mod_eq_of_lt (by omega)
  have front' : n / 262144 % 8 = n / 262144 := Nat.mod_eq_of_lt (by omega)
  dsimp only
  -- More bytes begin with a greater one, and as many hold the digits of the number.
  repeat' split
  all_goals
    simp (disch := omega) only [List.cons_append, List.nil_append, List.cons_lt_cons_iff,
      byte_lt_iff, byte_eq_iff, front, front']
    omega

theorem append_lt_append_iff (bytes : List UInt8) {a b : List UInt8} :
    bytes ++ a < bytes ++ b ↔ a < b := by
  induction bytes with
  | nil => rfl
  | cons byte rest ih => simp [ih]

theorem flatMap_utf8EncodeChar_lt_iff {a b : List Char} :
    a.flatMap utf8EncodeChar < b.flatMap utf8EncodeChar ↔ KeyOrder.below a b := by
  induction a generalizing b with
  | nil =>
    cases b with
    | nil => exact iff_of_false (List.lt_irrefl _) (KeyOrder.not_below_self _)
    | cons d others =>
      obtain ⟨byte, bytes, some⟩ := List.exists_cons_of_ne_nil (@String.utf8EncodeChar_ne_nil d)
      rw [List.flatMap_cons, some]
      exact iff_of_true (List.nil_lt_cons _ _) rfl
  | cons c rest ih =>
    cases b with
    | nil => exact iff_of_false (List.not_lt_nil _) Bool.false_ne_true
    | cons d others =>
      rw [List.flatMap_cons, List.flatMap_cons]
      refine Iff.trans ?_ KeyOrder.listBelow_cons.symm
      rcases KeyOrder.total c d with first | rfl | second
      · have less : c.toNat < d.toNat := by simpa [KeyOrder.below] using first
        exact iff_of_true (utf8EncodeChar_append_lt less _ _) (.inl first)
      · rw [append_lt_append_iff, ih]
        constructor
        · exact fun later => .inr ⟨rfl, later⟩
        · rintro (first | ⟨-, later⟩)
          · exact absurd first (KeyOrder.not_below_self c)
          · exact later
      · have less : d.toNat < c.toNat := by simpa [KeyOrder.below] using second
        refine iff_of_false (List.lt_asymm (utf8EncodeChar_append_lt less _ _)) ?_
        rintro (first | ⟨rfl, -⟩)
        · exact KeyOrder.asymm second first
        · exact KeyOrder.not_below_self _ second

/-- Texts stand in the order of their bytes. -/
theorem encode_lt_iff {a b : String} : encode a < encode b ↔ KeyOrder.below a b := by
  rw [encode_eq, encode_eq]
  exact flatMap_utf8EncodeChar_lt_iff

end CallAtlas.Text
