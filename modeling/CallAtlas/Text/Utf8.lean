set_option autoImplicit false
set_option relaxedAutoImplicit false

/-!
Reading bytes as UTF-8 without ever failing.  Each longest sequence of bytes that starts a
character but does not complete it, and each byte that can start none, is read as one
replacement character.
-/

namespace CallAtlas.Text

def replacement : Char := Char.ofNat 0xFFFD

/-- A character whose first bytes have been read: the bits so far, the number of bytes still
to come, and the range that the next byte must lie in. -/
structure Partial where
  bits : Nat
  missing : Nat
  low : Nat
  high : Nat

inductive Lead
  | whole (c : Char)
  | first (state : Partial)
  | none

/-- The role of a byte at the start of a character: overlong forms, surrogates and code points
beyond the last one are excluded by the range of the second byte. -/
def Lead.ofByte (byte : Nat) : Lead :=
  if byte < 0x80 then .whole (Char.ofNat byte)
  else if byte < 0xC2 then .none
  else if byte < 0xE0 then .first ⟨byte - 0xC0, 1, 0x80, 0xBF⟩
  else if byte = 0xE0 then .first ⟨0, 2, 0xA0, 0xBF⟩
  else if byte = 0xED then .first ⟨13, 2, 0x80, 0x9F⟩
  else if byte < 0xF0 then .first ⟨byte - 0xE0, 2, 0x80, 0xBF⟩
  else if byte = 0xF0 then .first ⟨0, 3, 0x90, 0xBF⟩
  else if byte < 0xF4 then .first ⟨byte - 0xF0, 3, 0x80, 0xBF⟩
  else if byte = 0xF4 then .first ⟨4, 3, 0x80, 0x8F⟩
  else .none

def decodeFrom : Option Partial → List UInt8 → List Char
  | .none, [] => []
  | .some _, [] => [replacement]
  | .none, byte :: rest =>
    match Lead.ofByte byte.toNat with
    | .whole c => c :: decodeFrom .none rest
    | .first state => decodeFrom (.some state) rest
    | .none => replacement :: decodeFrom .none rest
  | .some state, byte :: rest =>
    if state.low ≤ byte.toNat ∧ byte.toNat ≤ state.high then
      let bits := state.bits * 64 + byte.toNat % 64
      if state.missing = 1 then Char.ofNat bits :: decodeFrom .none rest
      else decodeFrom (.some ⟨bits, state.missing - 1, 0x80, 0xBF⟩) rest
    else
      match Lead.ofByte byte.toNat with
      | .whole c => replacement :: c :: decodeFrom .none rest
      | .first next => replacement :: decodeFrom (.some next) rest
      | .none => replacement :: replacement :: decodeFrom .none rest

def decodeLossy (bytes : List UInt8) : String := String.ofList (decodeFrom .none bytes)

def encode (text : String) : List UInt8 := text.toByteArray.data.toList

end CallAtlas.Text
