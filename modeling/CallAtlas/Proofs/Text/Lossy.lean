import CallAtlas.Proofs.Text.Utf8

set_option autoImplicit false
set_option relaxedAutoImplicit false

namespace CallAtlas.Text

variable {c : Char}

/-- Between the bytes of a character no byte below 128 can follow, and the character will not be one
below 128 either. -/
structure Partial.IsInside (state : Partial) : Prop where
  low : 0x80 ≤ state.low
  high : state.high ≤ 0xBF
  great : 2 ≤ state.bits ∨ state.missing ≠ 1 ∧ (1 ≤ state.bits ∨ 0x82 ≤ state.low)

theorem Partial.isInside_of_ofByte {byte : Nat} {state : Partial}
    (lead : Lead.ofByte byte = .first state) : state.IsInside := by
  unfold Lead.ofByte at lead
  split_ifs at lead
  all_goals
    rw [← Lead.first.inj lead]
    refine ⟨?_, ?_, ?_⟩
    all_goals
      dsimp only
      omega

theorem Partial.IsInside.next {state : Partial} (inside : state.IsInside) {byte : Nat}
    (above : state.low ≤ byte) (below : byte ≤ state.high) (missing : Nat) :
    Partial.IsInside ⟨state.bits * 64 + byte % 64, missing, 0x80, 0xBF⟩ := by
  obtain ⟨low, high, great⟩ := inside
  refine ⟨Nat.le_refl _, Nat.le_refl _, .inl ?_⟩
  dsimp only
  omega

theorem Lead.eq_ofNat_of_whole {byte : Nat} {d : Char} (lead : ofByte byte = .whole d) :
    d = Char.ofNat byte := by
  unfold Lead.ofByte at lead
  split at lead
  · exact (Lead.whole.inj lead).symm
  · split_ifs at lead

theorem ofNat_ne {n : Nat} (some : c ≠ '\x00') (apart : n ≠ c.toNat) : Char.ofNat n ≠ c := by
  by_cases valid : n.isValidChar
  · rw [Char.ofNat, dif_pos valid]
    exact fun same => apart (congrArg Char.toNat same)
  · rw [Char.ofNat, dif_neg valid]
    exact fun same => some same.symm

def Sound (state : Option Partial) : Prop := ∀ inside, state = some inside → inside.IsInside

theorem sound_none : Sound none := fun _ none => nomatch none

theorem sound_some {state : Partial} (inside : state.IsInside) : Sound (some state) :=
  fun _ same => Option.some.inj same ▸ inside

/-- One more byte is read to some characters, of which none below 128 comes from another byte, and
leaves the state for the bytes behind it. -/
theorem exists_step {state : Option Partial} (sound : Sound state) (byte : UInt8) :
    ∃ read next, Sound next ∧
      (∀ rest, decodeFrom state (byte :: rest) = read ++ decodeFrom next rest) ∧
      ∀ c ∈ read, c.toNat < 0x80 → c ≠ '\x00' → byte = UInt8.ofNat c.toNat := by
  have whole {c d : Char} (lead : Lead.ofByte byte.toNat = .whole d) (some : c ≠ '\x00')
      (same : c = d) : byte = UInt8.ofNat c.toNat := by
    have equal : byte.toNat = c.toNat := by
      by_contra other
      exact ofNat_ne some other ((Lead.eq_ofNat_of_whole lead).symm.trans same.symm)
    rw [← equal, UInt8.ofNat_toNat]
  have apart {c : Char} (small : c.toNat < 0x80) : c ≠ replacement := by
    rintro rfl
    exact absurd small (by decide)
  cases state with
  | none =>
    cases first : Lead.ofByte byte.toNat with
    | whole d =>
      refine ⟨[d], none, sound_none, fun rest => by rw [decodeFrom, first]; rfl, ?_⟩
      exact fun c member _ some => whole first some (List.mem_singleton.mp member)
    | first next =>
      exact ⟨[], some next, sound_some (Partial.isInside_of_ofByte first),
        fun rest => by rw [decodeFrom, first]; rfl, fun c member => absurd member List.not_mem_nil⟩
    | none =>
      refine ⟨[replacement], none, sound_none, fun rest => by rw [decodeFrom, first]; rfl, ?_⟩
      exact fun c member small _ => absurd (List.mem_singleton.mp member) (apart small)
  | some state =>
    have inside := sound state rfl
    by_cases range : state.low ≤ byte.toNat ∧ byte.toNat ≤ state.high
    · by_cases last : state.missing = 1
      · refine ⟨[Char.ofNat (state.bits * 64 + byte.toNat % 64)], none, sound_none,
          fun rest => by rw [decodeFrom, if_pos range]; exact if_pos last, ?_⟩
        intro c member small some
        have great := inside.great
        exact absurd (List.mem_singleton.mp member).symm (ofNat_ne some (by omega))
      · exact ⟨[], _, sound_some (inside.next range.1 range.2 _),
          fun rest => by rw [decodeFrom, if_pos range]; exact if_neg last,
          fun c member => absurd member List.not_mem_nil⟩
    · cases first : Lead.ofByte byte.toNat with
      | whole d =>
        refine ⟨[replacement, d], none, sound_none,
          fun rest => by rw [decodeFrom, if_neg range, first]; rfl, ?_⟩
        intro c member small some
        have other := (List.mem_cons.mp member).resolve_left (apart small)
        exact whole first some (List.mem_singleton.mp other)
      | first next =>
        refine ⟨[replacement], some next, sound_some (Partial.isInside_of_ofByte first),
          fun rest => by rw [decodeFrom, if_neg range, first]; rfl, ?_⟩
        exact fun c member small _ => absurd (List.mem_singleton.mp member) (apart small)
      | none =>
        refine ⟨[replacement, replacement], none, sound_none,
          fun rest => by rw [decodeFrom, if_neg range, first]; rfl, ?_⟩
        intro c member small _
        have other := (List.mem_cons.mp member).resolve_left (apart small)
        exact absurd (List.mem_singleton.mp other) (apart small)

theorem decodeFrom_some_ne_nil (state : Partial) (bytes : List UInt8) :
    decodeFrom (some state) bytes ≠ [] := by
  induction bytes generalizing state with
  | nil => exact List.cons_ne_nil _ _
  | cons byte rest ih =>
    rw [decodeFrom]
    dsimp only
    split
    · split
      · exact List.cons_ne_nil _ _
      · exact ih _
    · split <;> exact List.cons_ne_nil _ _

theorem decodeFrom_eq_nil {bytes : List UInt8} (none : decodeFrom none bytes = []) :
    bytes = [] := by
  cases bytes with
  | nil => rfl
  | cons byte rest =>
    rw [decodeFrom] at none
    split at none
    · cases none
    · exact absurd none (decodeFrom_some_ne_nil _ _)
    · cases none

section Ascii

variable (small : c.toNat < 0x80)

include small

/-- A character below 128 is read by itself, whatever stands before and behind it. -/
theorem decodeFrom_append_ascii {state : Option Partial} (sound : Sound state)
    (bytes rest : List UInt8) :
    decodeFrom state (bytes ++ UInt8.ofNat c.toNat :: rest) =
      decodeFrom state bytes ++ c :: decodeFrom none rest := by
  induction bytes generalizing state with
  | nil =>
    have value : (UInt8.ofNat c.toNat).toNat = c.toNat := toNat_ofNat_of_lt (by omega)
    have lead : Lead.ofByte (UInt8.ofNat c.toNat).toNat = .whole c := by
      rw [value, ofByte_ascii small, Char.ofNat_toNat]
    cases state with
    | none =>
      rw [List.nil_append, decodeFrom, decodeFrom, lead]
      rfl
    | some inside =>
      have low := (sound inside rfl).low
      rw [List.nil_append, decodeFrom, decodeFrom, if_neg (by omega), lead]
      rfl
  | cons byte more ih =>
    obtain ⟨read, next, sound, step, -⟩ := exists_step sound byte
    rw [List.cons_append, step, step, ih sound, List.append_assoc]

theorem mem_of_mem_decodeFrom (some : c ≠ '\x00') {state : Option Partial} (sound : Sound state)
    {bytes : List UInt8} (member : c ∈ decodeFrom state bytes) : UInt8.ofNat c.toNat ∈ bytes := by
  induction bytes generalizing state with
  | nil =>
    cases state with
    | none => cases member
    | some inside =>
      obtain rfl := List.mem_singleton.mp member
      exact absurd small (by decide)
  | cons byte more ih =>
    obtain ⟨read, next, sound, step, only⟩ := exists_step sound byte
    rw [step, List.mem_append] at member
    rcases member with first | later
    · exact only c first small some ▸ List.mem_cons_self
    · exact List.mem_cons_of_mem _ (ih sound later)

theorem decodeFrom_joinWith (parts : List (List UInt8)) :
    decodeFrom none (joinWith (UInt8.ofNat c.toNat) parts) =
      joinWith c (parts.map (decodeFrom none)) := by
  induction parts with
  | nil => rfl
  | cons part rest ih =>
    cases rest with
    | nil => rfl
    | cons next others =>
      rw [joinWith, decodeFrom_append_ascii small sound_none, ih]
      · rfl
      · exact List.cons_ne_nil _ _

theorem head?_decodeFrom (some : c ≠ '\x00') {bytes : List UInt8} :
    (decodeFrom none bytes).head? = Option.some c ↔
      bytes.head? = Option.some (UInt8.ofNat c.toNat) := by
  constructor
  · intro first
    have member := mem_of_mem_decodeFrom small some sound_none (List.mem_of_head? first)
    obtain ⟨before, after, rfl, absent⟩ := List.eq_append_cons_of_mem member
    cases before with
    | nil => rfl
    | cons byte rest =>
      have filled : decodeFrom none (byte :: rest) ≠ [] :=
        mt decodeFrom_eq_nil (List.cons_ne_nil _ _)
      rw [decodeFrom_append_ascii small sound_none, List.head?_append_of_ne_nil _ filled] at first
      exact absurd (mem_of_mem_decodeFrom small some sound_none (List.mem_of_head? first)) absent
  · intro first
    obtain ⟨rest, rfl⟩ := List.head?_eq_some_iff.mp first
    exact congrArg List.head? (decodeFrom_append_ascii small sound_none [] rest)

theorem getLast?_decodeFrom (some : c ≠ '\x00') {bytes : List UInt8} :
    (decodeFrom none bytes).getLast? = Option.some c ↔
      bytes.getLast? = Option.some (UInt8.ofNat c.toNat) := by
  constructor
  · intro last
    have member := mem_of_mem_decodeFrom small some sound_none (List.mem_of_getLast? last)
    obtain ⟨after, before, split, absent⟩ :=
      List.eq_append_cons_of_mem (List.mem_reverse.mpr member)
    have whole := congrArg List.reverse split
    rw [List.reverse_reverse, List.reverse_append, List.reverse_cons, List.append_assoc,
      List.singleton_append] at whole
    rw [whole, decodeFrom_append_ascii small sound_none] at last
    cases tail : after.reverse with
    | nil => rw [whole, tail, List.getLast?_concat]
    | cons byte rest =>
      have filled : decodeFrom none (byte :: rest) ≠ [] :=
        mt decodeFrom_eq_nil (List.cons_ne_nil _ _)
      rw [tail, List.getLast?_append_of_ne_nil _ (List.cons_ne_nil _ _),
        List.getLast?_cons_of_ne_nil filled] at last
      have inside := mem_of_mem_decodeFrom small some sound_none (List.mem_of_getLast? last)
      exact absurd (List.mem_reverse.mp (tail ▸ inside)) absent
  · intro last
    obtain ⟨before, rfl⟩ := List.getLast?_eq_some_iff.mp last
    rw [decodeFrom_append_ascii small sound_none]
    exact List.getLast?_concat

theorem mem_decodeFrom (some : c ≠ '\x00') {bytes : List UInt8} :
    c ∈ decodeFrom none bytes ↔ UInt8.ofNat c.toNat ∈ bytes := by
  refine ⟨mem_of_mem_decodeFrom small some sound_none, fun member => ?_⟩
  obtain ⟨before, after, rfl⟩ := List.append_of_mem member
  rw [decodeFrom_append_ascii small sound_none]
  exact List.mem_append_right _ List.mem_cons_self

theorem decodeFrom_eq_singleton (some : c ≠ '\x00') {bytes : List UInt8}
    (single : decodeFrom none bytes = [c]) : bytes = [UInt8.ofNat c.toNat] := by
  have member := mem_of_mem_decodeFrom small some sound_none (single ▸ List.mem_singleton_self c)
  obtain ⟨before, after, rfl⟩ := List.append_of_mem member
  rw [decodeFrom_append_ascii small sound_none, List.append_eq_singleton_iff] at single
  rcases single with ⟨front, back⟩ | ⟨-, back⟩
  · rw [decodeFrom_eq_nil front, decodeFrom_eq_nil (List.cons.inj back).2]
    rfl
  · cases back

theorem pieces_decodeFrom (some : c ≠ '\x00') (bytes : List UInt8) :
    pieces c (decodeFrom none bytes) =
      (pieces (UInt8.ofNat c.toNat) bytes).map (decodeFrom none) := by
  have joined := decodeFrom_joinWith small (pieces (UInt8.ofNat c.toNat) bytes)
  rw [joinWith_pieces] at joined
  rw [joined, pieces_joinWith (by simp [pieces_ne_nil])]
  intro part inside
  obtain ⟨piece, member, rfl⟩ := List.mem_map.mp inside
  exact mt (mem_of_mem_decodeFrom small some sound_none) (notMem_of_mem_pieces member)

end Ascii

end CallAtlas.Text
