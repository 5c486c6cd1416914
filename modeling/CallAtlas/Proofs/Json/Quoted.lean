import CallAtlas.Json.Quoted

set_option autoImplicit false
set_option relaxedAutoImplicit false

namespace CallAtlas.Json

inductive IsUnit : List Char → Nat → Prop
  | mk {a b c d : Char} {w x y z : Nat} (first : hexDigit? a = some w)
      (second : hexDigit? b = some x) (third : hexDigit? c = some y)
      (fourth : hexDigit? d = some z) : IsUnit [a, b, c, d] (((w * 16 + x) * 16 + y) * 16 + z)

def shortEscape? : Char → Option Char
  | '"' => some '"'
  | '\\' => some '\\'
  | '/' => some '/'
  | 'b' => some '\x08'
  | 'f' => some '\x0C'
  | 'n' => some '\n'
  | 'r' => some '\r'
  | 't' => some '\t'
  | _ => none

/-- What may follow a backslash, and the character for which both stand.  Code units of surrogates
come in pairs only. -/
inductive Escapes : List Char → Char → Prop
  | short {mark c : Char} (known : shortEscape? mark = some c) : Escapes [mark] c
  | unit {digits : List Char} {unit : Nat} (written : IsUnit digits unit)
      (single : unit < 0xD800 ∨ 0xDFFF < unit) : Escapes ('u' :: digits) (Char.ofNat unit)
  | pair {digits others : List Char} {high low : Nat} (first : IsUnit digits high)
      (second : IsUnit others low) (leads : 0xD800 ≤ high ∧ high < 0xDC00)
      (trails : 0xDC00 ≤ low ∧ low ≤ 0xDFFF) :
      Escapes ('u' :: (digits ++ '\\' :: 'u' :: others))
        (Char.ofNat (0x10000 + (high - 0xD800) * 0x400 + (low - 0xDC00)))

/-- A text between quotes, and the characters for which it stands. -/
inductive IsQuoted : List Char → List Char → Prop
  | empty : IsQuoted [] []
  | plain {c : Char} {body text : List Char} (unquoted : c ≠ '"') (unescaped : c ≠ '\\')
      (printable : ¬c.toNat < 0x20) (rest : IsQuoted body text) : IsQuoted (c :: body) (c :: text)
  | escape {c : Char} {code body text : List Char} (escaped : Escapes code c)
      (rest : IsQuoted body text) : IsQuoted ('\\' :: (code ++ body)) (c :: text)

theorem readUnit?_eq_some {text rest : List Char} {unit : Nat} :
    readUnit? text = some (unit, rest) ↔ ∃ digits, text = digits ++ rest ∧ IsUnit digits unit := by
  constructor
  · intro read
    unfold readUnit? at read
    split at read
    · split at read
      · rename_i a b c d others _ _ _ _ w x y z first second third fourth
        obtain ⟨rfl, rfl⟩ := Prod.mk.inj (Option.some.inj read)
        exact ⟨[a, b, c, d], rfl, .mk first second third fourth⟩
      · cases read
    · cases read
  · rintro ⟨_, rfl, ⟨first, second, third, fourth⟩⟩
    simp only [readUnit?, List.cons_append, List.nil_append, first, second, third, fourth]

theorem readCodePoint?_eq_some {text rest : List Char} {c : Char} :
    readCodePoint? text = some (c, rest) ↔
      ∃ code, text = code ++ rest ∧ Escapes ('u' :: code) c := by
  constructor
  · intro read
    unfold readCodePoint? at read
    split at read
    · cases read
    · rename_i high others unit
      obtain ⟨digits, rfl, written⟩ := readUnit?_eq_some.mp unit
      split at read
      · rename_i single
        obtain ⟨rfl, rfl⟩ := Prod.mk.inj (Option.some.inj read)
        exact ⟨digits, rfl, .unit written single⟩
      · rename_i surrogate
        split at read
        · cases read
        · rename_i leads
          split at read
          · split at read
            · cases read
            · rename_i low others unit
              obtain ⟨digits', rfl, written'⟩ := readUnit?_eq_some.mp unit
              split at read
              · cases read
              · rename_i trails
                obtain ⟨rfl, rfl⟩ := Prod.mk.inj (Option.some.inj read)
                refine ⟨digits ++ '\\' :: 'u' :: digits', by simp, .pair written written' ?_ ?_⟩
                · omega
                · omega
          · cases read
  · rintro ⟨code, rfl, escaped⟩
    cases escaped with
    | short known => cases known
    | unit written single =>
      rw [readCodePoint?, readUnit?_eq_some.mpr ⟨_, rfl, written⟩]
      exact if_pos single
    | pair first second leads trails =>
      rw [readCodePoint?, List.append_assoc, readUnit?_eq_some.mpr ⟨_, rfl, first⟩]
      dsimp only
      rw [if_neg (by omega), if_neg (by omega)]
      simp only [List.cons_append, readUnit?_eq_some.mpr ⟨_, rfl, second⟩]
      exact if_neg (by omega)

theorem readEscape?_of_short {mark c : Char} (known : shortEscape? mark = some c)
    (rest : List Char) : readEscape? (mark :: rest) = some (c, rest) := by
  unfold shortEscape? at known
  split at known
  all_goals cases known
  all_goals rfl

theorem readEscape?_eq_some {text rest : List Char} {c : Char} :
    readEscape? text = some (c, rest) ↔ ∃ code, text = code ++ rest ∧ Escapes code c := by
  constructor
  · intro read
    unfold readEscape? at read
    split at read
    case h_9 =>
      obtain ⟨code, rfl, escaped⟩ := readCodePoint?_eq_some.mp read
      exact ⟨'u' :: code, rfl, escaped⟩
    case h_10 => cases read
    all_goals
      obtain ⟨rfl, rfl⟩ := Prod.mk.inj (Option.some.inj read)
      exact ⟨[_], rfl, .short rfl⟩
  · rintro ⟨code, rfl, escaped⟩
    cases escaped with
    | short known => exact readEscape?_of_short known rest
    | unit written single => exact readCodePoint?_eq_some.mpr ⟨_, rfl, .unit written single⟩
    | pair first second leads trails =>
      exact readCodePoint?_eq_some.mpr ⟨_, rfl, .pair first second leads trails⟩

theorem readQuotedWithin_of_isQuoted {steps : Nat} {body text : List Char}
    (quoted : IsQuoted body text) (rest : List Char) (enough : body.length < steps) :
    readQuotedWithin steps (body ++ '"' :: rest) = some (text, rest) := by
  induction quoted generalizing steps with
  | empty =>
    cases steps with
    | zero => cases enough
    | succ steps => rfl
  | @plain c body text unquoted unescaped printable others ih =>
    cases steps with
    | zero => cases enough
    | succ steps =>
      have fewer : body.length < steps := by simpa using enough
      rw [List.cons_append, readQuotedWithin, if_neg printable, ih fewer]
      · rfl
      · exact unquoted
      · exact unescaped
  | @escape c code body text escaped others ih =>
    cases steps with
    | zero => cases enough
    | succ steps =>
      have fewer : body.length < steps := by
        simp only [List.length_cons, List.length_append] at enough
        omega
      rw [List.cons_append, List.append_assoc, readQuotedWithin,
        readEscape?_eq_some.mpr ⟨code, rfl, escaped⟩]
      dsimp only
      rw [ih fewer]
      rfl

theorem isQuoted_of_readQuotedWithin {steps : Nat} {source text rest : List Char}
    (read : readQuotedWithin steps source = some (text, rest)) :
    ∃ body, source = body ++ '"' :: rest ∧ IsQuoted body text := by
  fun_induction readQuotedWithin steps source generalizing text with
  | case1 => cases read
  | case2 => cases read
  | case3 steps after =>
    obtain ⟨rfl, rfl⟩ := Prod.mk.inj (Option.some.inj read)
    exact ⟨[], rfl, .empty⟩
  | case4 => cases read
  | case5 steps source c others escape ih =>
    obtain ⟨⟨later, tail⟩, further, equal⟩ := Option.map_eq_some_iff.mp read
    obtain ⟨rfl, rfl⟩ := Prod.mk.inj equal
    obtain ⟨code, rfl, escaped⟩ := readEscape?_eq_some.mp escape
    obtain ⟨body, rfl, quoted⟩ := ih further
    exact ⟨'\\' :: (code ++ body), by simp, .escape escaped quoted⟩
  | case6 => cases read
  | case7 steps c source unquoted unescaped printable ih =>
    obtain ⟨⟨later, tail⟩, further, equal⟩ := Option.map_eq_some_iff.mp read
    obtain ⟨rfl, rfl⟩ := Prod.mk.inj equal
    obtain ⟨body, rfl, quoted⟩ := ih further
    exact ⟨c :: body, rfl, .plain unquoted unescaped printable quoted⟩

theorem readQuoted?_eq_some {source rest : List Char} {value : String} :
    readQuoted? source = some (value, rest) ↔
      ∃ body, source = body ++ '"' :: rest ∧ IsQuoted body value.toList := by
  constructor
  · intro read
    obtain ⟨⟨text, tail⟩, within, equal⟩ := Option.map_eq_some_iff.mp read
    obtain ⟨rfl, rfl⟩ := Prod.mk.inj equal
    obtain ⟨body, rfl, quoted⟩ := isQuoted_of_readQuotedWithin within
    exact ⟨body, rfl, by rwa [String.toList_ofList]⟩
  · rintro ⟨body, rfl, quoted⟩
    have enough : body.length < (body ++ '"' :: rest).length + 1 := by
      rw [List.length_append]
      omega
    rw [readQuoted?, readQuotedWithin_of_isQuoted quoted rest enough, Option.map_some]
    dsimp only
    rw [String.ofList_toList]

theorem readQuoted?_append {body : List Char} {value : String} (quoted : IsQuoted body value.toList)
    (rest : List Char) : readQuoted? (body ++ '"' :: rest) = some (value, rest) :=
  readQuoted?_eq_some.mpr ⟨body, rfl, quoted⟩

theorem hexDigit?_hexDigit : ∀ n < 16, hexDigit? (hexDigit n) = some n := by decide

theorem isQuoted_quoteChar (c : Char) {body text : List Char} (rest : IsQuoted body text) :
    IsQuoted (quoteChar c ++ body) (c :: text) := by
  unfold quoteChar
  split
  · rename_i quote
    subst quote
    exact .escape (.short rfl) rest
  · rename_i unquoted
    split
    · rename_i backslash
      subst backslash
      exact .escape (.short rfl) rest
    · rename_i unescaped
      split
      · rename_i control
        have high := hexDigit?_hexDigit (c.toNat / 16) (by omega)
        have low := hexDigit?_hexDigit (c.toNat % 16) (by omega)
        have zero : hexDigit? '0' = some 0 := rfl
        have written := IsUnit.mk zero zero high low
        have number : ((0 * 16 + 0) * 16 + c.toNat / 16) * 16 + c.toNat % 16 = c.toNat := by omega
        have escaped := Escapes.unit written (.inl (by omega))
        rw [number, Char.ofNat_toNat] at escaped
        exact .escape escaped rest
      · rename_i printable
        exact .plain unquoted unescaped printable rest

/-- A text is written with escapes for quotes, backslashes and control characters only. -/
theorem isQuoted_flatMap_quoteChar (text : List Char) :
    IsQuoted (text.flatMap quoteChar) text := by
  induction text with
  | nil => exact .empty
  | cons c rest ih => exact isQuoted_quoteChar c ih

end CallAtlas.Json
