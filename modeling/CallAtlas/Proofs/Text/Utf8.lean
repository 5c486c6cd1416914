import CallAtlas.Text.Piece
import CallAtlas.Text.Utf8
import Mathlib.Data.List.Basic

set_option autoImplicit false
set_option relaxedAutoImplicit false

namespace CallAtlas.Text

open String (utf8EncodeChar)

theorem encode_eq (text : String) : encode text = text.toList.flatMap utf8EncodeChar := by
  have bytes : text.toByteArray = (text.toList.flatMap utf8EncodeChar).toByteArray := by
    rw [← List.utf8Encode, ← String.toByteArray_ofList, String.ofList_toList]
  rw [encode, bytes, List.toList_data_toByteArray]

theorem encode_ofList (text : List Char) :
    encode (String.ofList text) = text.flatMap utf8EncodeChar := by
  rw [encode_eq, String.toList_ofList]

theorem toNat_ofNat_of_lt {n : Nat} (small : n < 256) : (UInt8.ofNat n).toNat = n := by
  rw [UInt8.toNat_ofNat', Nat.mod_eq_of_lt small]

theorem ofByte_ascii {byte : Nat} (small : byte < 0x80) :
    Lead.ofByte byte = .whole (Char.ofNat byte) := if_pos small

theorem ofByte_two {byte : Nat} (range : 0xC2 ≤ byte ∧ byte < 0xE0) :
    Lead.ofByte byte = .first ⟨byte - 0xC0, 1, 0x80, 0xBF⟩ := by
  rw [Lead.ofByte, if_neg (by omega), if_neg (by omega), if_pos range.2]

theorem ofByte_three {byte : Nat} (range : 0xE0 ≤ byte ∧ byte < 0xF0) :
    ∃ low high, Lead.ofByte byte = .first ⟨byte - 0xE0, 2, low, high⟩ ∧
      (low = 0x80 ∨ low = 0xA0 ∧ byte = 0xE0) ∧ (high = 0xBF ∨ high = 0x9F ∧ byte = 0xED) := by
  rw [Lead.ofByte, if_neg (by omega), if_neg (by omega), if_neg (by omega)]
  by_cases least : byte = 0xE0
  · subst least
    exact ⟨_, _, rfl, by simp⟩
  · by_cases surrogates : byte = 0xED
    · subst surrogates
      exact ⟨_, _, rfl, by simp⟩
    · rw [if_neg least, if_neg surrogates, if_pos range.2]
      exact ⟨_, _, rfl, by simp [least, surrogates]⟩

theorem ofByte_four {byte : Nat} (range : 0xF0 ≤ byte ∧ byte ≤ 0xF4) :
    ∃ low high, Lead.ofByte byte = .first ⟨byte - 0xF0, 3, low, high⟩ ∧
      (low = 0x80 ∨ low = 0x90 ∧ byte = 0xF0) ∧ (high = 0xBF ∨ high = 0x8F ∧ byte = 0xF4) := by
  rw [Lead.ofByte, if_neg (by omega), if_neg (by omega), if_neg (by omega), if_neg (by omega),
    if_neg (by omega), if_neg (by omega)]
  by_cases least : byte = 0xF0
  · subst least
    exact ⟨_, _, rfl, by simp⟩
  · by_cases greatest : byte = 0xF4
    · subst greatest
      exact ⟨_, _, rfl, by simp⟩
    · rw [if_neg least, if_pos (by omega)]
      exact ⟨_, _, rfl, by simp [least, greatest]⟩

theorem decodeFrom_first {byte : Nat} {state : Partial} (small : byte < 256)
    (lead : Lead.ofByte byte = .first state) (rest : List UInt8) :
    decodeFrom none (UInt8.ofNat byte :: rest) = decodeFrom (some state) rest := by
  rw [decodeFrom, toNat_ofNat_of_lt small, lead]

theorem decodeFrom_next {byte bits missing low high : Nat} (more : missing ≠ 1)
    (range : byte < 64) (above : low ≤ byte + 128) (below : byte + 128 ≤ high)
    (rest : List UInt8) :
    decodeFrom (some ⟨bits, missing, low, high⟩) (UInt8.ofNat (byte + 128) :: rest) =
      decodeFrom (some ⟨bits * 64 + byte, missing - 1, 0x80, 0xBF⟩) rest := by
  have digit : (byte + 128) % 64 = byte := by omega
  rw [decodeFrom, toNat_ofNat_of_lt (by omega), if_pos ⟨above, below⟩, digit]
  exact if_neg more

theorem decodeFrom_last {byte bits low high : Nat} (range : byte < 64)
    (above : low ≤ byte + 128) (below : byte + 128 ≤ high) (rest : List UInt8) :
    decodeFrom (some ⟨bits, 1, low, high⟩) (UInt8.ofNat (byte + 128) :: rest) =
      Char.ofNat (bits * 64 + byte) :: decodeFrom none rest := by
  have digit : (byte + 128) % 64 = byte := by omega
  rw [decodeFrom, toNat_ofNat_of_lt (by omega), if_pos ⟨above, below⟩, digit]
  rfl

theorem decodeFrom_utf8EncodeChar (c : Char) (rest : List UInt8) :
    decodeFrom none (utf8EncodeChar c ++ rest) = c :: decodeFrom none rest := by
  have same : Char.ofNat c.val.toNat = c := Char.ofNat_toNat c
  have valid := c.valid
  rw [UInt32.isValidChar, Nat.isValidChar] at valid
  unfold utf8EncodeChar
  generalize c.val.toNat = n at same valid
  dsimp only
  split
  · rw [List.singleton_append, decodeFrom, toNat_ofNat_of_lt (by omega), ofByte_ascii (by omega),
      same]
  · split
    · have value : (n / 64 % 32 + 192 - 0xC0) * 64 + n % 64 = n := by omega
      rw [List.cons_append, decodeFrom_first (by omega) (ofByte_two (by omega)), List.cons_append,
        decodeFrom_last (by omega) (by omega) (by omega), value, same]
      rfl
    · split
      · obtain ⟨low, high, lead, above, below⟩ := @ofByte_three (n / 4096 % 16 + 224) (by omega)
        have value : ((n / 4096 % 16 + 224 - 0xE0) * 64 + n / 64 % 64) * 64 + n % 64 = n := by omega
        rw [List.cons_append, decodeFrom_first (by omega) lead, List.cons_append,
          decodeFrom_next (by decide) (by omega) (by omega) (by omega), List.cons_append,
          decodeFrom_last (by omega) (by omega) (by omega), value, same]
        rfl
      · obtain ⟨low, high, lead, above, below⟩ := @ofByte_four (n / 262144 % 8 + 240) (by omega)
        have value : (((n / 262144 % 8 + 240 - 0xF0) * 64 + n / 4096 % 64) * 64 + n / 64 % 64) * 64 +
            n % 64 = n := by omega
        rw [List.cons_append, decodeFrom_first (by omega) lead, List.cons_append,
          decodeFrom_next (by decide) (by omega) (by omega) (by omega), List.cons_append,
          decodeFrom_next (by decide) (by omega) (by omega) (by omega), List.cons_append,
          decodeFrom_last (by omega) (by omega) (by omega), value, same]
        rfl

theorem decodeFrom_flatMap (text : List Char) :
    decodeFrom none (text.flatMap utf8EncodeChar) = text := by
  induction text with
  | nil => rfl
  | cons c rest ih => rw [List.flatMap_cons, decodeFrom_utf8EncodeChar, ih]

/-- An encoded text is read back. -/
@[simp] theorem decodeLossy_encode (text : String) : decodeLossy (encode text) = text := by
  rw [decodeLossy, encode_eq, decodeFrom_flatMap, String.ofList_toList]

@[simp] theorem encode_inj {text other : String} : encode text = encode other ↔ text = other := by
  constructor
  · intro same
    rw [← decodeLossy_encode text, same, decodeLossy_encode]
  · exact congrArg encode

variable {c : Char}

/-- The byte of a character below 128 stands for nothing else. -/
theorem eq_of_mem_utf8EncodeChar (small : c.toNat < 0x80) {d : Char}
    (inside : UInt8.ofNat c.toNat ∈ utf8EncodeChar d) : d = c := by
  have bytes {n : Nat} (range : n < 256) (same : UInt8.ofNat c.toNat = UInt8.ofNat n) :
      c.toNat = n := by
    have same := congrArg UInt8.toNat same
    rwa [toNat_ofNat_of_lt (by omega), toNat_ofNat_of_lt range] at same
  unfold utf8EncodeChar at inside
  dsimp only at inside
  split at inside
  · have same := bytes (by omega) (List.mem_singleton.mp inside)
    exact (Char.toNat_inj.mp same).symm
  · -- All bytes of a longer character are 128 at least.
    exfalso
    split at inside
    · simp only [List.mem_cons, List.not_mem_nil, or_false] at inside
      rcases inside with same | same
      all_goals
        have same := bytes (by omega) same
        omega
    · split at inside
      · simp only [List.mem_cons, List.not_mem_nil, or_false] at inside
        rcases inside with same | same | same
        all_goals
          have same := bytes (by omega) same
          omega
      · simp only [List.mem_cons, List.not_mem_nil, or_false] at inside
        rcases inside with same | same | same | same
        all_goals
          have same := bytes (by omega) same
          omega

theorem utf8EncodeChar_ascii (small : c.toNat < 0x80) :
    utf8EncodeChar c = [UInt8.ofNat c.toNat] :=
  if_pos (Nat.le_of_lt_succ small)

theorem mem_flatMap_utf8EncodeChar (small : c.toNat < 0x80) {text : List Char} :
    UInt8.ofNat c.toNat ∈ text.flatMap utf8EncodeChar ↔ c ∈ text := by
  rw [List.mem_flatMap]
  constructor
  · rintro ⟨d, inside, byte⟩
    exact eq_of_mem_utf8EncodeChar small byte ▸ inside
  · exact fun inside => ⟨c, inside, by simp [utf8EncodeChar_ascii small]⟩

theorem flatMap_joinWith (small : c.toNat < 0x80) (parts : List (List Char)) :
    (joinWith c parts).flatMap utf8EncodeChar =
      joinWith (UInt8.ofNat c.toNat) (parts.map fun part => part.flatMap utf8EncodeChar) := by
  induction parts with
  | nil => rfl
  | cons part rest ih =>
    cases rest with
    | nil => rfl
    | cons next others =>
      rw [List.map_cons, joinWith, List.flatMap_append, List.flatMap_cons, ih,
        utf8EncodeChar_ascii small]
      · rfl
      · exact List.cons_ne_nil _ _

theorem pieces_flatMap (small : c.toNat < 0x80) (text : List Char) :
    pieces (UInt8.ofNat c.toNat) (text.flatMap utf8EncodeChar) =
      (pieces c text).map fun piece => piece.flatMap utf8EncodeChar := by
  have split : text.flatMap utf8EncodeChar = joinWith (UInt8.ofNat c.toNat)
      ((pieces c text).map fun piece => piece.flatMap utf8EncodeChar) := by
    rw [← flatMap_joinWith small, joinWith_pieces]
  rw [split, pieces_joinWith (by simp [pieces_ne_nil])]
  intro part inside
  obtain ⟨piece, member, rfl⟩ := List.mem_map.mp inside
  exact mt (mem_flatMap_utf8EncodeChar small).mp (notMem_of_mem_pieces member)

def IsUtf8 (bytes : List UInt8) : Prop := ∃ text : List Char, bytes = text.flatMap utf8EncodeChar

theorem isUtf8_iff {bytes : List UInt8} : IsUtf8 bytes ↔ encode (decodeLossy bytes) = bytes := by
  constructor
  · rintro ⟨text, rfl⟩
    rw [decodeLossy, decodeFrom_flatMap, encode_ofList]
  · intro same
    exact ⟨_, same.symm.trans (encode_eq _)⟩

theorem IsUtf8.append {bytes others : List UInt8} (front : IsUtf8 bytes) (back : IsUtf8 others) :
    IsUtf8 (bytes ++ others) := by
  obtain ⟨text, rfl⟩ := front
  obtain ⟨other, rfl⟩ := back
  exact ⟨text ++ other, List.flatMap_append.symm⟩

theorem IsUtf8.of_mem_pieces (small : c.toNat < 0x80) {bytes piece : List UInt8}
    (whole : IsUtf8 bytes) (inside : piece ∈ pieces (UInt8.ofNat c.toNat) bytes) :
    IsUtf8 piece := by
  obtain ⟨text, rfl⟩ := whole
  rw [pieces_flatMap small] at inside
  obtain ⟨part, -, rfl⟩ := List.mem_map.mp inside
  exact ⟨part, rfl⟩

theorem isUtf8_joinWith (small : c.toNat < 0x80) {parts : List (List UInt8)}
    (each : ∀ part ∈ parts, IsUtf8 part) : IsUtf8 (joinWith (UInt8.ofNat c.toNat) parts) := by
  induction parts with
  | nil => exact ⟨[], rfl⟩
  | cons part rest ih =>
    have first := each part List.mem_cons_self
    have later := ih fun other inside => each other (List.mem_cons_of_mem _ inside)
    cases rest with
    | nil => exact first
    | cons next others =>
      rw [joinWith, ← List.singleton_append, ← utf8EncodeChar_ascii small]
      · exact first.append (IsUtf8.append ⟨[c], (List.flatMap_singleton ..).symm⟩ later)
      · exact List.cons_ne_nil _ _

end CallAtlas.Text
