import CallAtlas.Json.Number

set_option autoImplicit false
set_option relaxedAutoImplicit false

namespace CallAtlas.Json

def IsDigits (text : List Char) : Prop := text ≠ [] ∧ ∀ c ∈ text, c.isDigit = true

/-- The whole part of a number: a zero, or digits that start with another one. -/
def IsWhole (text : List Char) : Prop := text = ['0'] ∨ IsDigits text ∧ text.head? ≠ some '0'

def IsPlaces (text : List Char) : Prop :=
  text = [] ∨ ∃ digits, text = '.' :: digits ∧ IsDigits digits

def IsPower (text : List Char) : Prop :=
  text = [] ∨ ∃ mark sign digits, text = mark :: (sign ++ digits) ∧ (mark = 'e' ∨ mark = 'E') ∧
    (sign = [] ∨ sign = ['+'] ∨ sign = ['-']) ∧ IsDigits digits

/-- A text that is one number. -/
def IsNumber (text : List Char) : Prop :=
  ∃ sign whole places power, text = sign ++ (whole ++ (places ++ power)) ∧
    (sign = [] ∨ sign = ['-']) ∧ IsWhole whole ∧ IsPlaces places ∧ IsPower power

def NoDigit (rest : List Char) : Prop := ∀ c, rest.head? = some c → c.isDigit = false

/-- What comes first carries on no number. -/
def EndsNumber (rest : List Char) : Prop :=
  ∀ c, rest.head? = some c → c.isDigit = false ∧ c ≠ '.' ∧ c ≠ 'e' ∧ c ≠ 'E'

theorem EndsNumber.noDigit {rest : List Char} (ends : EndsNumber rest) : NoDigit rest :=
  fun c first => (ends c first).1

theorem noDigit_cons {c : Char} (other : c.isDigit = false) (rest : List Char) :
    NoDigit (c :: rest) := by
  intro d first
  obtain rfl := Option.some.inj first
  exact other

theorem IsPower.noDigit_append {power rest : List Char} (h : IsPower power)
    (ends : EndsNumber rest) : NoDigit (power ++ rest) := by
  rcases h with rfl | ⟨mark, sign, digits, rfl, rfl | rfl, -⟩
  · exact ends.noDigit
  · exact noDigit_cons (by decide) _
  · exact noDigit_cons (by decide) _

theorem IsPlaces.noDigit_append {places rest : List Char} (h : IsPlaces places)
    (bare : NoDigit rest) : NoDigit (places ++ rest) := by
  rcases h with rfl | ⟨digits, rfl, -⟩
  · exact bare
  · exact noDigit_cons (by decide) _

/-! Digits. -/

theorem digit?_isSome {c : Char} : (Text.digit? c).isSome = c.isDigit := by
  unfold Text.digit?
  cases c.isDigit <;> rfl

theorem takeWhile_append_of_noDigit {digits rest : List Char} (all : ∀ c ∈ digits, c.isDigit = true)
    (bare : NoDigit rest) : (digits ++ rest).takeWhile Char.isDigit = digits := by
  rw [List.takeWhile_append_of_pos all]
  cases rest with
  | nil => simp
  | cons c others => rw [List.takeWhile_cons_of_neg (by simp [bare c rfl]), List.append_nil]

theorem dropWhile_append_of_noDigit {digits rest : List Char} (all : ∀ c ∈ digits, c.isDigit = true)
    (bare : NoDigit rest) : (digits ++ rest).dropWhile Char.isDigit = rest := by
  rw [List.dropWhile_append_of_pos all]
  cases rest with
  | nil => rfl
  | cons c others => rw [List.dropWhile_cons_of_neg (by simp [bare c rfl])]

theorem skipDigits_append {digits rest : List Char} (all : ∀ c ∈ digits, c.isDigit = true)
    (bare : NoDigit rest) : skipDigits (digits ++ rest) = (digits.length, rest) := by
  rw [skipDigits, takeWhile_append_of_noDigit all bare, dropWhile_append_of_noDigit all bare]

theorem skipDigits_of_noDigit {rest : List Char} (bare : NoDigit rest) :
    skipDigits rest = (0, rest) :=
  @skipDigits_append [] rest (List.forall_mem_nil _) bare

theorem digit?_le {c : Char} {digit : Nat} (found : Text.digit? c = some digit) : digit ≤ 9 := by
  unfold Text.digit? at found
  split at found
  · rename_i inside
    have range := Char.isDigit_iff_toNat.mp inside
    have zero : '0'.toNat = 48 := rfl
    have nine : '9'.toNat = 57 := rfl
    rw [← Option.some.inj found]
    omega
  · cases found

theorem digit?_eq_none {c : Char} (other : c.isDigit = false) : Text.digit? c = none := by
  rw [Text.digit?, other]
  rfl

/-- The digits that do not fit stay, in front of what follows. -/
theorem readSignificand_append (value : Nat) (text : List Char) {rest : List Char}
    (bare : NoDigit rest) :
    readSignificand value (text ++ rest) =
      ((readSignificand value text).1, (readSignificand value text).2 ++ rest) := by
  induction text generalizing value with
  | nil =>
    cases rest with
    | nil => rfl
    | cons c others =>
      simp only [List.nil_append, readSignificand, digit?_eq_none (bare c rfl)]
  | cons c others ih =>
    rw [List.cons_append, readSignificand, readSignificand]
    split
    · rfl
    · split
      · exact ih _
      · rfl

theorem skipDigits_readSignificand (value : Nat) (text : List Char) :
    (skipDigits (readSignificand value text).2).2 = text.dropWhile Char.isDigit := by
  induction text generalizing value with
  | nil => rfl
  | cons c others ih =>
    rw [readSignificand]
    split
    · rfl
    · rename_i digit found
      have first : c.isDigit = true := by rw [← digit?_isSome, found]; rfl
      split
      · rw [ih, List.dropWhile_cons_of_pos first]
      · rfl

/-! The steps of the reader. -/

def finishSigned? (negative : Bool) (significand : Nat) (exponent : Int) (raised : Bool)
    (text : List Char) : Option (Binary64 × List Char) :=
  let digits := text.takeWhile Char.isDigit
  let rest := text.dropWhile Char.isDigit
  if digits.isEmpty then none
  else
    match Text.readDigits exponentMax 0 digits with
    | .error _ =>
      if significand ≠ 0 && raised then none else some (Binary64.zero negative, rest)
    | .ok size =>
      let total := if raised then exponent + size else exponent - size
      (scaled? negative significand total).map (·, rest)

theorem finishExponent?_bare {text : List Char} (plus : text.head? ≠ some '+')
    (minus : text.head? ≠ some '-') (negative : Bool) (significand : Nat) (exponent : Int) :
    finishExponent? negative significand exponent text =
      finishSigned? negative significand exponent true text := by
  unfold finishExponent?
  split
  rename_i raised rest parted
  split at parted
  · exact absurd rfl plus
  · exact absurd rfl minus
  · obtain ⟨rfl, rfl⟩ := Prod.mk.inj parted
    rfl

theorem IsDigits.head?_ne {digits : List Char} (h : IsDigits digits) {c : Char}
    (other : c.isDigit = false) (rest : List Char) : (digits ++ rest).head? ≠ some c := by
  obtain ⟨filled, all⟩ := h
  obtain ⟨d, others, rfl⟩ := List.exists_cons_of_ne_nil filled
  intro first
  obtain rfl := Option.some.inj first
  rw [all d List.mem_cons_self] at other
  cases other

def readWhole? (text : List Char) : Option (Nat × List Char) :=
  match text with
  | '0' :: rest => if (rest.head?.bind Text.digit?).isSome then none else some (0, rest)
  | c :: _ => if (Text.digit? c).isSome then some (readSignificand 0 text) else none
  | [] => none

theorem readWhole?_zero (rest : List Char) : readWhole? ('0' :: rest) =
    if (rest.head?.bind Text.digit?).isSome then none else some (0, rest) := rfl

theorem readWhole?_cons {c : Char} (other : c ≠ '0') (rest : List Char) : readWhole? (c :: rest) =
    if (Text.digit? c).isSome then some (readSignificand 0 (c :: rest)) else none := by
  unfold readWhole?
  split
  · rename_i equal
    exact absurd (List.cons.inj equal).1 other
  · rename_i equal
    obtain ⟨rfl, rfl⟩ := List.cons.inj equal
    rfl
  · rename_i equal
    cases equal

def finishWhole? (negative : Bool) (significand dropped : Nat) (text : List Char) :
    Option (Json × List Char) :=
  match text with
  | '.' :: rest =>
    (readPlaces? significand dropped rest).bind fun scan =>
      (finish? negative scan).map fun (value, rest) => (.real value, rest)
  | rest =>
    let plain := rest.head? ≠ some 'e' && rest.head? ≠ some 'E'
    if plain && dropped = 0 && !negative then some (.integer significand, rest)
    else if plain && dropped = 0 && negative && 0 < significand &&
        significand ≤ Text.signedMax + 1 then
      some (.integer (-(significand : Int)), rest)
    else
      (finish? negative ⟨significand, dropped, rest⟩).map fun (value, rest) =>
        (.real value, rest)

theorem readUnsigned?_eq (negative : Bool) (text : List Char) :
    readUnsigned? negative text = (readWhole? text).bind fun start =>
      finishWhole? negative start.1 (skipDigits start.2).1 (skipDigits start.2).2 := by
  unfold readUnsigned?
  split
  · rw [readWhole?_zero]
    split
    · rfl
    · rfl
  · rename_i other
    rw [readWhole?_cons other]
    split
    · rfl
    · rfl
  · rfl

theorem first_of_noDigit {rest : List Char} (bare : NoDigit rest) :
    (rest.head?.bind Text.digit?).isSome = false := by
  cases rest with
  | nil => rfl
  | cons c others => rw [List.head?_cons, Option.bind_some, digit?_eq_none (bare c rfl)]; rfl

theorem readWhole?_of_isDigits {whole : List Char} (h : IsDigits whole)
    (first : whole.head? ≠ some '0') (rest : List Char) :
    readWhole? (whole ++ rest) = some (readSignificand 0 (whole ++ rest)) := by
  obtain ⟨filled, all⟩ := h
  obtain ⟨c, others, rfl⟩ := List.exists_cons_of_ne_nil filled
  have digit := all c List.mem_cons_self
  have other : c ≠ '0' := fun same => first (congrArg some same)
  rw [List.cons_append, readWhole?_cons other, digit?_isSome, if_pos digit]

theorem finishWhole?_bare {text : List Char} (point : text.head? ≠ some '.') (negative : Bool)
    (significand dropped : Nat) : finishWhole? negative significand dropped text =
      let plain := text.head? ≠ some 'e' && text.head? ≠ some 'E'
      if plain && dropped = 0 && !negative then some (.integer significand, text)
      else if plain && dropped = 0 && negative && 0 < significand &&
          significand ≤ Text.signedMax + 1 then
        some (.integer (-(significand : Int)), text)
      else
        (finish? negative ⟨significand, dropped, text⟩).map fun (value, rest) =>
          (.real value, rest) := by
  unfold finishWhole?
  split
  · exact absurd rfl point
  · rfl

theorem finishWhole?_power {text : List Char}
    (marked : text.head? = some 'e' ∨ text.head? = some 'E') (negative : Bool)
    (significand dropped : Nat) : finishWhole? negative significand dropped text =
      (finish? negative ⟨significand, dropped, text⟩).map fun found => (.real found.1, found.2) := by
  have point : text.head? ≠ some '.' := by rcases marked with first | first <;> simp [first]
  rw [finishWhole?_bare point]
  rcases marked with first | first <;> simp [first]

theorem readNumber?_positive {text : List Char} (plain : text.head? ≠ some '-') :
    readNumber? text = readUnsigned? false text := by
  unfold readNumber?
  split
  · exact absurd rfl plain
  · rfl

theorem IsWhole.exists_cons {whole : List Char} (h : IsWhole whole) :
    ∃ c others, whole = c :: others ∧ c.isDigit = true := by
  rcases h with rfl | ⟨⟨filled, all⟩, -⟩
  · exact ⟨'0', [], rfl, rfl⟩
  · obtain ⟨c, others, rfl⟩ := List.exists_cons_of_ne_nil filled
    exact ⟨c, others, rfl, all c List.mem_cons_self⟩

/-! What the reader takes is a number. -/

theorem isDigits_takeWhile {text : List Char}
    (filled : (text.takeWhile Char.isDigit).isEmpty = false) :
    IsDigits (text.takeWhile Char.isDigit) :=
  ⟨by simpa using filled, fun c inside => List.all_eq_true.1 List.all_takeWhile c inside⟩

theorem isDigits_of_finishSigned? {negative raised : Bool} {significand : Nat} {exponent : Int}
    {text rest : List Char} {value : Binary64}
    (found : finishSigned? negative significand exponent raised text = some (value, rest)) :
    ∃ digits, text = digits ++ rest ∧ IsDigits digits := by
  unfold finishSigned? at found
  dsimp only at found
  split at found
  · cases found
  · rename_i filled
    have same : text.dropWhile Char.isDigit = rest := by
      split at found
      · split at found
        · cases found
        · exact (Prod.mk.inj (Option.some.inj found)).2
      · obtain ⟨_, _, same⟩ := Option.map_eq_some_iff.1 found
        exact (Prod.mk.inj same).2
    rw [← same]
    exact ⟨_, List.takeWhile_append_dropWhile.symm, isDigits_takeWhile (by simpa using filled)⟩

theorem isPower_of_finishExponent? {negative : Bool} {significand : Nat} {exponent : Int}
    {text rest : List Char} {value : Binary64}
    (found : finishExponent? negative significand exponent text = some (value, rest)) :
    ∃ sign digits, text = sign ++ digits ++ rest ∧ (sign = [] ∨ sign = ['+'] ∨ sign = ['-']) ∧
      IsDigits digits := by
  by_cases plus : text.head? = some '+'
  · obtain ⟨others, rfl⟩ := List.head?_eq_some_iff.1 plus
    obtain ⟨digits, rfl, number⟩ := isDigits_of_finishSigned? found
    exact ⟨['+'], digits, rfl, .inr (.inl rfl), number⟩
  · by_cases minus : text.head? = some '-'
    · obtain ⟨others, rfl⟩ := List.head?_eq_some_iff.1 minus
      obtain ⟨digits, rfl, number⟩ := isDigits_of_finishSigned? found
      exact ⟨['-'], digits, rfl, .inr (.inr rfl), number⟩
    · rw [finishExponent?_bare plus minus] at found
      obtain ⟨digits, rfl, number⟩ := isDigits_of_finishSigned? found
      exact ⟨[], digits, rfl, .inl rfl, number⟩

theorem isPower_of_finish? {negative : Bool} {significand : Nat} {exponent : Int}
    {text rest : List Char} {value : Binary64}
    (found : finish? negative ⟨significand, exponent, text⟩ = some (value, rest)) :
    ∃ power, text = power ++ rest ∧ IsPower power := by
  unfold finish? at found
  dsimp only at found
  split at found
  · obtain ⟨sign, digits, rfl, signed, number⟩ := isPower_of_finishExponent? found
    exact ⟨_, rfl, .inr ⟨'e', sign, digits, rfl, .inl rfl, signed, number⟩⟩
  · obtain ⟨sign, digits, rfl, signed, number⟩ := isPower_of_finishExponent? found
    exact ⟨_, rfl, .inr ⟨'E', sign, digits, rfl, .inr rfl, signed, number⟩⟩
  · obtain ⟨_, _, same⟩ := Option.map_eq_some_iff.1 found
    exact ⟨[], (Prod.mk.inj same).2, .inl rfl⟩

theorem isPlaces_of_readPlaces? {significand : Nat} {exponent : Int} {text : List Char}
    {scan : Scan} (found : readPlaces? significand exponent text = some scan) :
    ∃ digits, text = digits ++ scan.rest ∧ IsDigits digits := by
  unfold readPlaces? at found
  split at found
  · cases found
  · rename_i first
    obtain rfl := Option.some.inj found
    refine ⟨text.takeWhile Char.isDigit, ?_, isDigits_takeWhile ?_⟩
    · rw [skipDigits_readSignificand, List.takeWhile_append_dropWhile]
    · cases text with
      | nil => exact absurd rfl first
      | cons c others =>
        rw [List.head?_cons, Option.bind_some, ← Option.not_isSome, digit?_isSome] at first
        rw [List.takeWhile_cons_of_pos (by simpa using first)]
        rfl

theorem isWhole_of_readWhole? {text left : List Char} {significand : Nat}
    (found : readWhole? text = some (significand, left)) :
    ∃ whole, text = whole ++ (skipDigits left).2 ∧ IsWhole whole := by
  unfold readWhole? at found
  split at found
  · rename_i rest
    split at found
    · cases found
    · rename_i first
      obtain ⟨rfl, rfl⟩ := Prod.mk.inj (Option.some.inj found)
      have bare : NoDigit rest := by
        intro c head
        rw [head, Option.bind_some, digit?_isSome] at first
        simpa using first
      rw [skipDigits_of_noDigit bare]
      exact ⟨['0'], rfl, .inl rfl⟩
  · rename_i c rest other
    split at found
    · rename_i first
      rw [digit?_isSome] at first
      obtain rfl := congrArg Prod.snd (Option.some.inj found)
      rw [skipDigits_readSignificand 0 (c :: rest)]
      refine ⟨_, List.takeWhile_append_dropWhile.symm, .inr ⟨isDigits_takeWhile ?_, ?_⟩⟩
      · rw [List.takeWhile_cons_of_pos first]
        rfl
      · rw [List.takeWhile_cons_of_pos first]
        intro head
        obtain rfl := Option.some.inj head
        exact other rfl
    · cases found
  · cases found

theorem isNumber_of_finishWhole? {negative : Bool} {significand dropped : Nat}
    {text rest : List Char} {value : Json}
    (found : finishWhole? negative significand dropped text = some (value, rest)) :
    ∃ places power, text = places ++ (power ++ rest) ∧ IsPlaces places ∧ IsPower power := by
  by_cases point : text.head? = some '.'
  · obtain ⟨others, rfl⟩ := List.head?_eq_some_iff.1 point
    obtain ⟨scan, places, ended⟩ := Option.bind_eq_some_iff.1 found
    obtain ⟨digits, rfl, number⟩ := isPlaces_of_readPlaces? places
    obtain ⟨⟨real, left⟩, finished, same⟩ := Option.map_eq_some_iff.1 ended
    obtain ⟨-, rfl⟩ := Prod.mk.inj same
    obtain ⟨power, tail, p⟩ := isPower_of_finish? finished
    exact ⟨'.' :: digits, power, congrArg (fun tail => '.' :: (digits ++ tail)) tail,
      .inr ⟨digits, rfl, number⟩, p⟩
  · rw [finishWhole?_bare point] at found
    dsimp only at found
    split at found
    · exact ⟨[], [], (Prod.mk.inj (Option.some.inj found)).2, .inl rfl, .inl rfl⟩
    · split at found
      · exact ⟨[], [], (Prod.mk.inj (Option.some.inj found)).2, .inl rfl, .inl rfl⟩
      · obtain ⟨⟨real, rest⟩, finished, same⟩ := Option.map_eq_some_iff.1 found
        obtain ⟨-, rfl⟩ := Prod.mk.inj same
        obtain ⟨power, tail, p⟩ := isPower_of_finish? finished
        exact ⟨[], power, tail, .inl rfl, p⟩

theorem isNumber_of_readUnsigned? {negative : Bool} {text rest : List Char} {value : Json}
    (found : readUnsigned? negative text = some (value, rest)) :
    ∃ whole places power, text = whole ++ (places ++ (power ++ rest)) ∧ IsWhole whole ∧
      IsPlaces places ∧ IsPower power := by
  rw [readUnsigned?_eq] at found
  obtain ⟨⟨significand, left⟩, read, finished⟩ := Option.bind_eq_some_iff.1 found
  obtain ⟨whole, start, w⟩ := isWhole_of_readWhole? read
  obtain ⟨places, power, tail, h, p⟩ := isNumber_of_finishWhole? finished
  exact ⟨whole, places, power, by rw [start, ← tail], w, h, p⟩

theorem isNumber_of_readNumber? {text rest : List Char} {value : Json}
    (found : readNumber? text = some (value, rest)) :
    ∃ number, text = number ++ rest ∧ IsNumber number := by
  by_cases minus : text.head? = some '-'
  · obtain ⟨others, rfl⟩ := List.head?_eq_some_iff.1 minus
    obtain ⟨whole, places, power, rfl, w, h, p⟩ := isNumber_of_readUnsigned? found
    exact ⟨_, by simp only [List.append_assoc, List.cons_append, List.nil_append],
      ['-'], whole, places, power, rfl, .inr rfl, w, h, p⟩
  · rw [readNumber?_positive minus] at found
    obtain ⟨whole, places, power, rfl, w, h, p⟩ := isNumber_of_readUnsigned? found
    exact ⟨_, by simp only [List.append_assoc, List.nil_append],
      [], whole, places, power, rfl, .inl rfl, w, h, p⟩

/-! Decimal digits. -/

theorem isDigits_decimal (n : Nat) : IsDigits (Text.decimal n) :=
  ⟨Nat.toDigits_ne_nil, fun _ => Text.isDigit_of_mem_decimal⟩

theorem head?_decimal {n : Nat} (positive : 0 < n) : (Text.decimal n).head? ≠ some '0' := by
  induction n using Nat.strongRecOn with
  | ind n ih =>
    rw [Text.decimal]
    by_cases single : n < 10
    · rw [Nat.toDigits_of_lt_base single]
      intro first
      exact Nat.ne_of_gt positive (Nat.digitChar_eq_zero.mp (Option.some.inj first))
    · rw [Nat.toDigits_of_base_le (by decide) (by omega),
        List.head?_append]
      have some := List.isSome_head?.mpr (Nat.toDigits_ne_nil (n := n / 10) (b := 10))
      rw [Option.or_of_isSome some]
      exact ih (n / 10) (by omega) (by omega)

theorem isWhole_decimal (n : Nat) : IsWhole (Text.decimal n) := by
  rcases Nat.eq_zero_or_pos n with rfl | positive
  · exact .inl rfl
  · exact .inr ⟨isDigits_decimal n, head?_decimal positive⟩

end CallAtlas.Json
