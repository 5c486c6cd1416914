import CallAtlas.Proofs.Binary64
import CallAtlas.Proofs.Json.Numeral

set_option autoImplicit false
set_option relaxedAutoImplicit false

namespace CallAtlas.Json

/-- A number below a power of ten in magnitude, its exponent included, which is written with a
signed word of 32 bits at most. -/
def IsBelow (size : Nat) (text : List Char) : Prop :=
  ∃ sign whole places power, text = sign ++ (whole ++ (places ++ power)) ∧
    (sign = [] ∨ sign = ['-']) ∧ IsWhole whole ∧ IsPlaces places ∧ IsPower power ∧
    exponentOf power ≤ exponentMax ∧
    Nat.ofDigitChars 10 (whole ++ places.drop 1) 0 * 10 ^ (exponentOf power).toNat <
      10 ^ (size + (places.drop 1).length + (-exponentOf power).toNat)

theorem ofDigitChars_lt {digits : List Char} (all : ∀ c ∈ digits, c.isDigit = true)
    (before : Nat) : Nat.ofDigitChars 10 digits before < (before + 1) * 10 ^ digits.length := by
  induction digits generalizing before with
  | nil => simp
  | cons c rest ih =>
    have single := digit?_le (digit?_eq_some (all c List.mem_cons_self))
    rw [Nat.ofDigitChars_cons, List.length_cons, Nat.pow_succ', ← Nat.mul_assoc]
    refine Nat.lt_of_lt_of_le (ih (fun d inside => all d (List.mem_cons_of_mem c inside)) _) ?_
    exact Nat.mul_le_mul_right _ (by omega)

namespace Keeps

variable {before after : Nat} {digits left : List Char}

theorem mul_pow_le (keeps : Keeps before digits after left) :
    after * 10 ^ left.length ≤ Nat.ofDigitChars 10 digits before := by
  obtain ⟨⟨kept, rfl, rfl⟩, -, -⟩ := keeps
  have split := @Nat.ofDigitChars_eq_ofDigitChars_zero left (Nat.ofDigitChars 10 kept before)
  rw [Nat.ofDigitChars_append, split, Nat.mul_comm]
  exact Nat.le_add_right _ _

theorem pos_of_left (keeps : Keeps before digits after left)
    (all : ∀ c ∈ digits, c.isDigit = true) (some : left ≠ []) : 0 < after := by
  obtain ⟨c, others, rfl⟩ := List.exists_cons_of_ne_nil some
  have large := keeps.most c others rfl
  have single := digit?_le (digit?_eq_some (keeps.isDigit all c List.mem_cons_self))
  have word : 9 < Text.wordMax := by decide
  rw [Nat.ofDigitChars_cons, Nat.ofDigitChars_nil] at large
  omega

end Keeps

/-- A significand is at most twice the digits that it stands for: of the digits after a point some
may be kept although others before it were dropped. -/
theorem Scans.significand_le {whole places : List Char} {significand : Nat} {exponent : Int}
    (scanned : Scans whole places significand exponent) (w : IsWhole whole) (h : IsPlaces places) :
    ∃ raised : Nat, exponent = raised - (places.drop 1).length ∧
      significand * 10 ^ raised ≤ 2 * Nat.ofDigitChars 10 (whole ++ places.drop 1) 0 := by
  cases scanned with
  | @bare _ dropped kept =>
    refine ⟨dropped.length, by simp, ?_⟩
    have bound := kept.mul_pow_le
    rw [List.drop_nil, List.append_nil]
    omega
  | @placed before _ digits dropped left kept placed =>
    have all : ∀ c ∈ digits, c.isDigit = true := by
      obtain ⟨_, same, number⟩ := h.resolve_left (List.cons_ne_nil _ _)
      exact (List.cons.inj same).2 ▸ number.2
    have shorter : left.length ≤ digits.length := by
      obtain ⟨⟨front, rfl, -⟩, -, -⟩ := placed
      simp
    refine ⟨dropped.length + left.length, ?_, ?_⟩
    · rw [List.drop_one, List.tail_cons]
      omega
    rw [List.drop_one, List.tail_cons, Nat.ofDigitChars_append]
    have first := kept.mul_pow_le
    have second := placed.mul_pow_le
    rw [Nat.ofDigitChars_eq_ofDigitChars_zero] at second ⊢
    have small := ofDigitChars_lt all 0
    generalize Nat.ofDigitChars 10 digits 0 = tail at second small ⊢
    generalize Nat.ofDigitChars 10 whole 0 = value at first ⊢
    rw [Nat.zero_add, Nat.one_mul] at small
    calc significand * 10 ^ (dropped.length + left.length)
        = significand * 10 ^ left.length * 10 ^ dropped.length := by
          rw [Nat.pow_add, Nat.mul_assoc, Nat.mul_comm (10 ^ dropped.length)]
      _ ≤ (10 ^ digits.length * before + tail) * 10 ^ dropped.length :=
          Nat.mul_le_mul_right _ second
      _ ≤ 10 ^ digits.length * value + tail * 10 ^ dropped.length := by
          rw [Nat.add_mul, Nat.mul_assoc]
          exact Nat.add_le_add_right (Nat.mul_le_mul_left _ first) _
      _ ≤ 2 * (10 ^ digits.length * value + tail) := by
          by_cases none : dropped = []
          · rw [none, List.length_nil, Nat.pow_zero, Nat.mul_one]
            omega
          · have positive := kept.pos_of_left w.isDigit none
            have behind : tail * 10 ^ dropped.length ≤ 10 ^ digits.length * value :=
              Nat.mul_le_mul (Nat.le_of_lt small)
                (Nat.le_trans (Nat.le_mul_of_pos_left _ positive) first)
            omega

theorem exists_two_pow {size : Nat} (few : size ≤ 300) : ∃ k ≤ 1000, 8 * 10 ^ size < 2 ^ k := by
  have base : 126 * 10 ^ 30 < 100 * 2 ^ 100 := by decide
  have raised := Nat.pow_lt_pow_left base (by decide : 10 ≠ 0)
  -- Both powers are generalized before they could be evaluated.
  have most (k : Nat) (few : size ≤ 30 * k) : 10 ^ size ≤ (10 ^ 30) ^ k := by
    rw [← Nat.pow_mul]
    exact Nat.pow_le_pow_right (by decide) few
  have bound := most 10 few
  rw [Nat.mul_pow, Nat.mul_pow] at raised
  refine ⟨100 * 10, by decide, ?_⟩
  rw [Nat.pow_mul]
  generalize (10 ^ 30) ^ 10 = ten at raised bound
  generalize (2 ^ 100) ^ 10 = two at raised ⊢
  omega

theorem roundedPower_le {exponent : Nat} (small : exponent ≤ 300) :
    roundedPower exponent ≤ 2 * 10 ^ exponent := by
  obtain ⟨k, far, bound⟩ := exists_two_pow small
  have near : 10 ^ exponent < 2 ^ k := by omega
  obtain ⟨mantissa, scale, equal, bounded⟩ := Binary64.ofNat_fractionLe near far
  unfold roundedPower
  rw [show Nat.pow 10 exponent = 10 ^ exponent from rfl, equal]
  dsimp only
  rw [Binary64.fraction_eq]
  exact Nat.div_le_of_le_mul (Nat.le_trans bounded (Nat.le_of_eq (Nat.mul_comm _ _)))

theorem le_of_mul_pow_lt {n power size : Nat} (some : n ≠ 0)
    (bound : n * 10 ^ power < 2 * 10 ^ size) : power ≤ size := by
  refine Nat.le_of_lt_succ ((Nat.pow_lt_pow_iff_right (by decide : 1 < 10)).mp ?_)
  have least := Nat.le_mul_of_pos_left (10 ^ power) (Nat.pos_of_ne_zero some)
  rw [Nat.pow_succ]
  omega

theorem scaled?_isSome {significand size : Nat} {exponent : Int} (few : size ≤ 300)
    (small : ∀ power : Nat, exponent = power → significand * 10 ^ power < 2 * 10 ^ size)
    (negative : Bool) : (scaled? negative significand exponent).isSome = true := by
  unfold scaled?
  dsimp only
  split
  · rename_i raised
    obtain ⟨power, rfl⟩ := Int.eq_ofNat_of_zero_le raised
    by_cases none : significand = 0
    · subst none
      have finite : ((Binary64.ofNat 0).scaleBy (roundedPower power)).isFinite = true :=
        @Binary64.isFinite_scaleBy 0 _ 0 0 (by decide) (by decide) (by simp) (by decide)
      split
      · rfl
      · rw [Int.toNat_natCast, if_pos finite]
        rfl
    · have bounded := small power rfl
      have fewer := le_of_mul_pow_lt none bounded
      obtain ⟨k, far, bound⟩ := exists_two_pow few
      have least : significand ≤ significand * 10 ^ power :=
        Nat.le_mul_of_pos_right _ (Nat.pow_pos (by decide))
      have near : significand < 2 ^ k := by omega
      have product : 2 * significand * roundedPower power < 2 ^ k := by
        calc 2 * significand * roundedPower power
            ≤ 2 * significand * (2 * 10 ^ power) :=
              Nat.mul_le_mul_left _ (roundedPower_le (Nat.le_trans fewer few))
          _ = 4 * (significand * 10 ^ power) := Nat.mul_mul_mul_comm 2 significand 2 _
          _ < 2 ^ k := by omega
      have finite := Binary64.isFinite_scaleBy near far product far
      rw [if_neg (by omega), Int.toNat_natCast, if_pos finite]
      rfl
  · rfl

theorem real?_isSome {significand size : Nat} {exponent written : Int} (few : size ≤ 300)
    (low : written ≤ exponentMax)
    (small : ∀ power : Nat, exponent + written = power → significand * 10 ^ power < 2 * 10 ^ size)
    (negative : Bool) : (real? negative significand exponent written).isSome = true := by
  unfold real?
  split
  · rw [if_neg (by omega)]
    rfl
  · exact scaled?_isSome few small negative

theorem isBelow_of_length_le {sign whole places : List Char} {size : Nat}
    (signed : sign = [] ∨ sign = ['-']) (w : IsWhole whole) (h : IsPlaces places)
    (short : whole.length ≤ size) : IsBelow size (sign ++ (whole ++ places)) := by
  refine ⟨sign, whole, places, [], by simp, signed, w, h, .inl rfl, by simp [exponentOf], ?_⟩
  have all : ∀ c ∈ whole ++ places.drop 1, c.isDigit = true := by
    rintro c inside
    rcases List.mem_append.mp inside with first | later
    · exact w.isDigit c first
    · rcases h with rfl | ⟨digits, rfl, number⟩
      · cases later
      · exact number.2 c later
  calc Nat.ofDigitChars 10 (whole ++ places.drop 1) 0 * 10 ^ (exponentOf []).toNat
      = Nat.ofDigitChars 10 (whole ++ places.drop 1) 0 := Nat.mul_one _
    _ < 10 ^ (whole ++ places.drop 1).length := by simpa using ofDigitChars_lt all 0
    _ ≤ 10 ^ (size + (places.drop 1).length + (-exponentOf []).toNat) :=
      Nat.pow_le_pow_right (by decide) (by rw [List.length_append, exponentOf]; omega)

/-- A number below `10 ^ 300` stands for something. -/
theorem IsBelow.exists_denotes {size : Nat} {text : List Char} (below : IsBelow size text)
    (few : size ≤ 300) : ∃ value, Denotes text value := by
  obtain ⟨sign, whole, places, power, rfl, signed, w, h, p, low, bound⟩ := below
  by_cases integer : IsInteger sign whole places power
  · obtain ⟨rfl, rfl, -⟩ := id integer
    exact ⟨_, by simpa using Denotes.integer w integer⟩
  · obtain ⟨significand, exponent, scanned⟩ := exists_scans w h
    obtain ⟨raised, rfl, most⟩ := scanned.significand_le w h
    have scaled : (real? (sign ≠ []) significand (raised - (places.drop 1).length)
        (exponentOf power)).isSome = true := by
      refine real?_isSome few low (fun total same => ?_) _
      generalize exponentOf power = written at bound same
      have balance : total + ((places.drop 1).length + (-written).toNat) =
          raised + written.toNat := by omega
      have scale : 0 < 10 ^ ((places.drop 1).length + (-written).toNat) :=
        Nat.pow_pos (by decide)
      refine Nat.lt_of_mul_lt_mul_right (a := 10 ^ ((places.drop 1).length + (-written).toNat)) ?_
      calc significand * 10 ^ total * 10 ^ ((places.drop 1).length + (-written).toNat)
          = significand * 10 ^ raised * 10 ^ written.toNat := by
            rw [Nat.mul_assoc, ← Nat.pow_add, balance, Nat.pow_add, Nat.mul_assoc]
        _ ≤ 2 * Nat.ofDigitChars 10 (whole ++ places.drop 1) 0 * 10 ^ written.toNat :=
            Nat.mul_le_mul_right _ most
        _ < 2 * 10 ^ (size + (places.drop 1).length + (-written).toNat) := by
            rw [Nat.mul_assoc]
            exact Nat.mul_lt_mul_of_pos_left bound (by decide)
        _ = 2 * 10 ^ size * 10 ^ ((places.drop 1).length + (-written).toNat) := by
            rw [Nat.add_assoc, Nat.pow_add, Nat.mul_assoc]
    obtain ⟨value, rounded⟩ := Option.isSome_iff_exists.mp scaled
    exact ⟨_, .real signed w h p integer scanned rounded⟩

end CallAtlas.Json
