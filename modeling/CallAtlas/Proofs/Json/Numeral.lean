import CallAtlas.Proofs.Json.Number

set_option autoImplicit false
set_option relaxedAutoImplicit false

/-!
What a number stands for, told from its parts and not from the way it is read.  The reader returns
exactly this.
-/

namespace CallAtlas.Json

/-- Of digits that go on a number as many are kept as leave a word; the others are left. -/
structure Keeps (before : Nat) (digits : List Char) (after : Nat) (left : List Char) : Prop where
  split : ∃ kept, digits = kept ++ left ∧ after = Nat.ofDigitChars 10 kept before
  word : after ≤ Text.wordMax
  most : ∀ c others, left = c :: others → Text.wordMax < Nat.ofDigitChars 10 [c] after

/-- The significand of a number and the exponent of its last digit: digits dropped before the point
raise it, and digits kept after it lower it. -/
inductive Scans (whole : List Char) : List Char → Nat → Int → Prop
  | bare {significand : Nat} {dropped : List Char} (kept : Keeps 0 whole significand dropped) :
      Scans whole [] significand dropped.length
  | placed {before significand : Nat} {digits dropped left : List Char}
      (kept : Keeps 0 whole before dropped) (placed : Keeps before digits significand left) :
      Scans whole ('.' :: digits) significand (dropped.length - (digits.length - left.length : Nat))

def exponentOf : List Char → Int
  | _ :: '-' :: digits => -(Nat.ofDigitChars 10 digits 0 : Int)
  | _ :: '+' :: digits => Nat.ofDigitChars 10 digits 0
  | _ :: digits => Nat.ofDigitChars 10 digits 0
  | [] => 0

def integerOf (sign digits : List Char) : Int :=
  if sign = [] then Nat.ofDigitChars 10 digits 0 else -(Nat.ofDigitChars 10 digits 0 : Int)

/-- A number is an integer if it has neither places nor a power and fits a word.  A minus sign makes
no integer of a zero. -/
def IsInteger (sign whole places power : List Char) : Prop :=
  places = [] ∧ power = [] ∧
    (sign = [] ∧ Nat.ofDigitChars 10 whole 0 ≤ Text.wordMax ∨
      sign = ['-'] ∧ 0 < Nat.ofDigitChars 10 whole 0 ∧
        Nat.ofDigitChars 10 whole 0 ≤ Text.signedMax + 1)

instance (sign whole places power : List Char) : Decidable (IsInteger sign whole places power) :=
  inferInstanceAs (Decidable (_ ∧ _))

/-- The real number of a significand, the exponent of its last digit and a written one.  Written
beyond the greatest exponent, it leaves zero or is too large. -/
def real? (negative : Bool) (significand : Nat) (exponent written : Int) : Option Binary64 :=
  if exponentMax < written.natAbs then
    if significand ≠ 0 ∧ 0 < written then none else some (Binary64.zero negative)
  else scaled? negative significand (exponent + written)

/-- What a number stands for, which is nothing if it is too large. -/
inductive Denotes : List Char → Json → Prop
  | integer {sign whole : List Char} (w : IsWhole whole) (fits : IsInteger sign whole [] []) :
      Denotes (sign ++ whole) (.integer (integerOf sign whole))
  | real {sign whole places power : List Char} {significand : Nat} {exponent : Int}
      {value : Binary64} (signed : sign = [] ∨ sign = ['-']) (w : IsWhole whole)
      (h : IsPlaces places) (p : IsPower power) (other : ¬IsInteger sign whole places power)
      (scanned : Scans whole places significand exponent)
      (rounded : real? (sign ≠ []) significand exponent (exponentOf power) = some value) :
      Denotes (sign ++ (whole ++ (places ++ power))) (.real value)

/-! Keeping digits. -/

theorem digit?_eq_some {c : Char} (digit : c.isDigit = true) :
    Text.digit? c = some (c.toNat - '0'.toNat) := by
  rw [Text.digit?, digit]
  rfl

theorem keeps_readSignificand {before : Nat} (word : before ≤ Text.wordMax) {digits : List Char}
    (all : ∀ c ∈ digits, c.isDigit = true) :
    Keeps before digits (readSignificand before digits).1 (readSignificand before digits).2 := by
  induction digits generalizing before with
  | nil => exact ⟨⟨[], rfl, rfl⟩, word, fun c others none => by cases none⟩
  | cons c rest ih =>
    rw [readSignificand, digit?_eq_some (all c List.mem_cons_self)]
    dsimp only
    split
    · rename_i fits
      obtain ⟨⟨kept, split, after⟩, small, most⟩ :=
        ih fits fun d inside => all d (List.mem_cons_of_mem c inside)
      exact ⟨⟨c :: kept, congrArg (c :: ·) split, after.trans (Nat.ofDigitChars_cons ..).symm⟩,
        small, most⟩
    · rename_i large
      refine ⟨⟨[], rfl, rfl⟩, word, fun d others same => ?_⟩
      obtain ⟨rfl, -⟩ := List.cons.inj same
      rw [Nat.ofDigitChars_cons]
      exact Nat.not_le.mp large

namespace Keeps

variable {before after : Nat} {digits left : List Char}

theorem readSignificand_eq (keeps : Keeps before digits after left)
    (all : ∀ c ∈ digits, c.isDigit = true) : readSignificand before digits = (after, left) := by
  obtain ⟨⟨kept, rfl, rfl⟩, word, most⟩ := keeps
  induction kept generalizing before with
  | nil =>
    cases left with
    | nil => rfl
    | cons c others =>
      have large := most c others rfl
      rw [Nat.ofDigitChars_cons] at large
      rw [List.nil_append, readSignificand, digit?_eq_some (all c List.mem_cons_self)]
      exact if_neg (Nat.not_le.mpr large)
  | cons c kept ih =>
    rw [Nat.ofDigitChars_cons] at word most ⊢
    rw [List.cons_append, readSignificand, digit?_eq_some (all c List.mem_cons_self)]
    have fits := Nat.le_trans (Text.le_ofDigitChars kept _) word
    dsimp only
    rw [if_pos fits]
    exact ih (fun d inside => all d (List.mem_cons_of_mem c inside)) word most

theorem isDigit (keeps : Keeps before digits after left) (all : ∀ c ∈ digits, c.isDigit = true) :
    ∀ c ∈ left, c.isDigit = true := by
  obtain ⟨⟨kept, rfl, -⟩, -, -⟩ := keeps
  exact fun c inside => all c (List.mem_append_right _ inside)

theorem left_eq_nil_iff (keeps : Keeps before digits after left) :
    left = [] ↔ Nat.ofDigitChars 10 digits before ≤ Text.wordMax := by
  obtain ⟨⟨kept, rfl, rfl⟩, word, most⟩ := keeps
  constructor
  · rintro rfl
    rwa [List.append_nil]
  · intro small
    cases left with
    | nil => rfl
    | cons c others =>
      have large := most c others rfl
      rw [← List.singleton_append, Nat.ofDigitChars_append, Nat.ofDigitChars_append] at small
      have longer := Text.le_ofDigitChars others (Nat.ofDigitChars 10 [c]
        (Nat.ofDigitChars 10 kept before))
      exact absurd (Nat.le_trans longer small) (Nat.not_le.mpr large)

theorem eq_of_left_eq_nil (keeps : Keeps before digits after left) (none : left = []) :
    after = Nat.ofDigitChars 10 digits before := by
  obtain ⟨⟨kept, rfl, rfl⟩, -, -⟩ := keeps
  rw [none, List.append_nil]

end Keeps

theorem IsWhole.isDigit {whole : List Char} (w : IsWhole whole) :
    ∀ c ∈ whole, c.isDigit = true := by
  rcases w with rfl | ⟨⟨-, all⟩, -⟩
  · exact List.forall_mem_singleton.mpr rfl
  · exact all

theorem exists_scans {whole places : List Char} (w : IsWhole whole) (h : IsPlaces places) :
    ∃ significand exponent, Scans whole places significand exponent := by
  have kept := keeps_readSignificand (Nat.zero_le _) w.isDigit
  rcases h with rfl | ⟨digits, rfl, number⟩
  · exact ⟨_, _, .bare kept⟩
  · exact ⟨_, _, .placed kept (keeps_readSignificand kept.word number.2)⟩

/-! The reader on a number. -/

theorem finishSigned?_eq {digits rest : List Char} (h : IsDigits digits) (bare : NoDigit rest)
    (negative : Bool) (significand : Nat) (exponent : Int) (raised : Bool) :
    finishSigned? negative significand exponent raised (digits ++ rest) =
      (real? negative significand exponent
        (if raised then Nat.ofDigitChars 10 digits 0 else -(Nat.ofDigitChars 10 digits 0 : Int))).map
          fun value => (value, rest) := by
  have size : (if raised then (Nat.ofDigitChars 10 digits 0 : Int)
      else -(Nat.ofDigitChars 10 digits 0 : Int)).natAbs = Nat.ofDigitChars 10 digits 0 := by
    cases raised <;> simp
  have filled : digits.isEmpty = false := by simpa using h.1
  unfold finishSigned? real?
  dsimp only
  rw [takeWhile_append_of_noDigit h.2 bare, dropWhile_append_of_noDigit h.2 bare, filled,
    if_neg Bool.false_ne_true, size]
  by_cases fits : Nat.ofDigitChars 10 digits 0 ≤ exponentMax
  · rw [(Text.readDigits_eq_ok (Nat.zero_le _)).mpr ⟨h.2, rfl, fits⟩, if_neg (Nat.not_lt.mpr fits)]
    cases raised <;> rfl
  · have large := Nat.not_le.mp fits
    rw [if_pos large]
    cases read : Text.readDigits exponentMax 0 digits with
    | ok n =>
      obtain ⟨-, rfl, small⟩ := (Text.readDigits_eq_ok (Nat.zero_le _)).mp read
      exact absurd small fits
    | error fault =>
      have positive : 0 < Nat.ofDigitChars 10 digits 0 := Nat.zero_lt_of_lt large
      cases raised
      · simp [Int.not_lt.mpr (Int.natCast_nonneg (Nat.ofDigitChars 10 digits 0))]
      · by_cases zero : significand = 0 <;> simp [zero, positive]

theorem exponentOf_bare {digits : List Char} (h : IsDigits digits) (mark : Char) :
    exponentOf (mark :: digits) = Nat.ofDigitChars 10 digits 0 := by
  have plus := @IsDigits.head?_ne digits h '+' rfl []
  have minus := @IsDigits.head?_ne digits h '-' rfl []
  rw [List.append_nil] at plus minus
  unfold exponentOf
  split
  · rename_i same
    exact absurd (congrArg (fun text => text.tail.head?) same) minus
  · rename_i same
    exact absurd (congrArg (fun text => text.tail.head?) same) plus
  · rename_i same
    rw [(List.cons.inj same).2]
  · rename_i same
    cases same

theorem finish?_power {power rest : List Char} (p : IsPower power) (ends : EndsNumber rest)
    (negative : Bool) (significand : Nat) (exponent : Int) :
    finish? negative ⟨significand, exponent, power ++ rest⟩ =
      (real? negative significand exponent (exponentOf power)).map fun value => (value, rest) := by
  rcases p with rfl | ⟨mark, sign, digits, rfl, marked, signed, number⟩
  · rw [exponentOf, real?, if_neg (by simp), Int.add_zero, List.nil_append, finish?]
    split
    · rename_i equal
      exact absurd rfl (ends 'e' (congrArg List.head? equal)).2.2.1
    · rename_i equal
      exact absurd rfl (ends 'E' (congrArg List.head? equal)).2.2.2
    · rfl
  · have finished : finish? negative ⟨significand, exponent, mark :: (sign ++ digits) ++ rest⟩ =
        finishExponent? negative significand exponent (sign ++ (digits ++ rest)) := by
      rw [← List.append_assoc]
      rcases marked with rfl | rfl <;> rfl
    rw [finished]
    rcases signed with rfl | rfl | rfl
    · rw [List.nil_append, List.nil_append, exponentOf_bare number,
        finishExponent?_bare (number.head?_ne rfl rest) (number.head?_ne rfl rest),
        finishSigned?_eq number ends.noDigit]
      rfl
    · exact finishSigned?_eq number ends.noDigit negative significand exponent true
    · exact finishSigned?_eq number ends.noDigit negative significand exponent false

theorem readPlaces?_eq {digits left rest : List Char} {before after : Nat} (h : IsDigits digits)
    (keeps : Keeps before digits after left) (bare : NoDigit rest) (exponent : Int) :
    readPlaces? before exponent (digits ++ rest) =
      some ⟨after, exponent - (digits.length - left.length : Nat), rest⟩ := by
  have first : ((digits ++ rest).head?.bind Text.digit?).isNone = false := by
    obtain ⟨c, others, rfl⟩ := List.exists_cons_of_ne_nil h.1
    rw [List.cons_append, List.head?_cons, Option.bind_some,
      digit?_eq_some (h.2 c List.mem_cons_self)]
    rfl
  rw [readPlaces?, first, readSignificand_append before digits bare, keeps.readSignificand_eq h.2]
  dsimp only
  rw [skipDigits_append (keeps.isDigit h.2) bare, List.length_append, List.length_append,
    Nat.add_sub_add_right]
  rfl

theorem readUnsigned?_whole {whole dropped rest : List Char} {significand : Nat}
    (w : IsWhole whole) (keeps : Keeps 0 whole significand dropped) (bare : NoDigit rest)
    (negative : Bool) : readUnsigned? negative (whole ++ rest) =
      finishWhole? negative significand dropped.length rest := by
  have read : readWhole? (whole ++ rest) = some (significand, dropped ++ rest) := by
    have kept := keeps.readSignificand_eq w.isDigit
    rcases w with rfl | ⟨number, first⟩
    · obtain ⟨rfl, rfl⟩ := Prod.mk.inj kept
      rw [List.cons_append, List.nil_append, readWhole?_zero, first_of_noDigit bare]
      rfl
    · rw [readWhole?_of_isDigits number first, readSignificand_append 0 whole bare, kept]
  rw [readUnsigned?_eq, read, Option.bind_some, skipDigits_append (keeps.isDigit w.isDigit) bare]

theorem finishWhole?_nil {sign whole dropped rest : List Char} {significand : Nat}
    (signed : sign = [] ∨ sign = ['-']) (keeps : Keeps 0 whole significand dropped)
    (ends : EndsNumber rest) :
    finishWhole? (sign ≠ []) significand dropped.length rest =
      if IsInteger sign whole [] [] then some (.integer (integerOf sign whole), rest)
      else (real? (sign ≠ []) significand dropped.length 0).map fun value =>
        (.real value, rest) := by
  have finished := finish?_power (.inl rfl) ends (sign ≠ []) significand dropped.length
  rw [exponentOf, List.nil_append] at finished
  have point : rest.head? ≠ some '.' := fun first => (ends _ first).2.1 rfl
  have small : rest.head? ≠ some 'e' := fun first => (ends _ first).2.2.1 rfl
  have great : rest.head? ≠ some 'E' := fun first => (ends _ first).2.2.2 rfl
  rw [finishWhole?_bare point, finished, Option.map_map]
  simp only [small, great, ne_eq, not_false_iff, decide_true, Bool.true_and]
  by_cases kept : dropped = []
  · obtain rfl := keeps.eq_of_left_eq_nil kept
    have word := keeps.left_eq_nil_iff.mp kept
    rcases signed with rfl | rfl
    · simp [kept, IsInteger, integerOf, word]
    · simp [kept, IsInteger, integerOf, Function.comp_def]
  · have large := mt keeps.left_eq_nil_iff.mpr kept
    have other : ¬IsInteger sign whole [] [] := by
      rintro ⟨-, -, ⟨-, word⟩ | ⟨-, -, word⟩⟩
      · exact large word
      · exact large (Nat.le_trans word (by decide))
    simp [kept, other, Function.comp_def]

theorem readNumber?_eq {sign whole places power rest : List Char} {significand : Nat}
    {exponent : Int} (signed : sign = [] ∨ sign = ['-']) (w : IsWhole whole) (h : IsPlaces places)
    (p : IsPower power) (scanned : Scans whole places significand exponent)
    (ends : EndsNumber rest) :
    readNumber? (sign ++ (whole ++ (places ++ (power ++ rest)))) =
      if IsInteger sign whole places power then some (.integer (integerOf sign whole), rest)
      else (real? (sign ≠ []) significand exponent (exponentOf power)).map fun value =>
        (.real value, rest) := by
  have read : readNumber? (sign ++ (whole ++ (places ++ (power ++ rest)))) =
      readUnsigned? (sign ≠ []) (whole ++ (places ++ (power ++ rest))) := by
    rcases signed with rfl | rfl
    · obtain ⟨c, others, rfl, digit⟩ := w.exists_cons
      refine readNumber?_positive fun first => ?_
      obtain rfl := Option.some.inj first
      cases digit
    · rfl
  have bare := p.noDigit_append ends
  rw [read]
  cases scanned with
  | bare kept =>
    rw [List.nil_append, readUnsigned?_whole w kept bare]
    by_cases none : power = []
    · rw [none]
      exact finishWhole?_nil signed kept ends
    · have other : ¬IsInteger sign whole [] power := fun fits => none fits.2.1
      obtain ⟨mark, sign, digits, rfl, marked, -⟩ := p.resolve_left none
      have first : (mark :: (sign ++ digits) ++ rest).head? = some 'e' ∨
          (mark :: (sign ++ digits) ++ rest).head? = some 'E' :=
        marked.imp (congrArg some) (congrArg some)
      rw [finishWhole?_power first, finish?_power p ends, if_neg other, Option.map_map]
      rfl
  | @placed before _ digits dropped left kept placed =>
    have number : IsDigits digits := by
      obtain ⟨_, same, number⟩ := h.resolve_left (List.cons_ne_nil _ _)
      exact (List.cons.inj same).2 ▸ number
    have other : ¬IsInteger sign whole ('.' :: digits) power := fun fits => by cases fits.1
    rw [readUnsigned?_whole w kept (h.noDigit_append bare), List.cons_append, finishWhole?,
      readPlaces?_eq number placed bare, Option.bind_some, finish?_power p ends, if_neg other,
      Option.map_map]
    rfl

/-- The reader takes a number and stops, whatever ends it, exactly if the number stands for
something. -/
theorem readNumber?_eq_some {number rest : List Char} {value : Json} (h : IsNumber number)
    (ends : EndsNumber rest) :
    readNumber? (number ++ rest) = some (value, rest) ↔ Denotes number value := by
  constructor
  · intro read
    obtain ⟨sign, whole, places, power, rfl, signed, w, h, p⟩ := h
    obtain ⟨significand, exponent, scanned⟩ := exists_scans w h
    simp only [List.append_assoc] at read
    rw [readNumber?_eq signed w h p scanned ends] at read
    split at read
    · rename_i fits
      obtain ⟨rfl, rfl, -⟩ := id fits
      obtain rfl := (Prod.mk.inj (Option.some.inj read)).1
      rw [List.append_nil, List.append_nil]
      exact .integer w fits
    · rename_i other
      obtain ⟨real, rounded, same⟩ := Option.map_eq_some_iff.mp read
      obtain rfl := (Prod.mk.inj same).1
      exact .real signed w h p other scanned rounded
  · intro meaning
    cases meaning with
    | @integer sign whole w fits =>
      obtain ⟨significand, exponent, scanned⟩ := exists_scans w (.inl rfl)
      have read := readNumber?_eq (fits.2.2.imp And.left And.left) w (.inl rfl) (.inl rfl) scanned
        ends
      rwa [if_pos fits, List.nil_append, List.nil_append, ← List.append_assoc] at read
    | real signed w h' p other scanned rounded =>
      have read := readNumber?_eq signed w h' p scanned ends
      rw [if_neg other, rounded] at read
      simpa only [List.append_assoc, Option.map_some] using read

theorem Denotes.isNumber {text : List Char} {value : Json} (meaning : Denotes text value) :
    IsNumber text := by
  cases meaning with
  | @integer sign whole w fits =>
    exact ⟨sign, whole, [], [], by simp, fits.2.2.imp And.left And.left, w, .inl rfl, .inl rfl⟩
  | real signed w h p => exact ⟨_, _, _, _, rfl, signed, w, h, p⟩

theorem Denotes.integer_le {text : List Char} {n : Int} (meaning : Denotes text (.integer n)) :
    n ≤ Text.wordMax := by
  cases meaning with
  | integer w fits =>
    rcases fits.2.2 with ⟨rfl, word⟩ | ⟨rfl, -⟩
    · exact Int.ofNat_le.mpr word
    · rw [integerOf, if_neg (List.cons_ne_nil _ _)]
      omega

theorem denotes_decimal {n : Nat} (word : n ≤ Text.wordMax) :
    Denotes (Text.decimal n) (.integer n) := by
  have value : Nat.ofDigitChars 10 (Text.decimal n) 0 = n := Nat.ofDigitChars_ten_toDigits
  have fits : IsInteger [] (Text.decimal n) [] [] := ⟨rfl, rfl, .inl ⟨rfl, value.symm ▸ word⟩⟩
  have meaning := Denotes.integer (isWhole_decimal n) fits
  rwa [integerOf, if_pos rfl, value] at meaning

end CallAtlas.Json
