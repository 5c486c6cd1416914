import CallAtlas.Json.Reader
import CallAtlas.Proofs.Json.Numeral
import CallAtlas.Proofs.Json.Quoted

set_option autoImplicit false
set_option relaxedAutoImplicit false

/-!
The grammar of JSON, with room for a number of nested containers.  The reader takes exactly the
texts of one value with blanks around it, and returns the value that they spell.
-/

namespace CallAtlas.Json

/-- Blanks that may stand around a value, a name and a mark. -/
def IsGap (text : List Char) : Prop := ∀ c ∈ text, isGap c = true

mutual

/-- A text that is one value, with room for the given number of nested containers. -/
inductive Spells : Nat → List Char → Json → Prop
  | null {room : Nat} : Spells room ['n', 'u', 'l', 'l'] .null
  | yes {room : Nat} : Spells room ['t', 'r', 'u', 'e'] (.boolean true)
  | no {room : Nat} : Spells room ['f', 'a', 'l', 's', 'e'] (.boolean false)
  | number {room : Nat} {text : List Char} {value : Json} (meaning : Denotes text value) :
      Spells room text value
  | string {room : Nat} {body : List Char} {value : String} (quoted : IsQuoted body value.toList) :
      Spells room ('"' :: (body ++ ['"'])) (.string value)
  | emptyList {room : Nat} {gap : List Char} (blank : IsGap gap) :
      Spells (room + 1) ('[' :: (gap ++ [']'])) (.list [])
  | list {room : Nat} {text : List Char} {items : List Json} (inside : SpellsItems room text items) :
      Spells (room + 1) ('[' :: (text ++ [']'])) (.list items)
  | emptyObject {room : Nat} {gap : List Char} (blank : IsGap gap) :
      Spells (room + 1) ('{' :: (gap ++ ['}'])) (.object [])
  | object {room : Nat} {text : List Char} {fields : Fields}
      (inside : SpellsFields room text fields) :
      Spells (room + 1) ('{' :: (text ++ ['}'])) (.object (Fields.ofList fields))

inductive SpellsItems : Nat → List Char → List Json → Prop
  | one {room : Nat} {before text after : List Char} {item : Json} (ahead : IsGap before)
      (spelled : Spells room text item) (behind : IsGap after) :
      SpellsItems room (before ++ (text ++ after)) [item]
  | more {room : Nat} {before text after rest : List Char} {item : Json} {items : List Json}
      (ahead : IsGap before) (spelled : Spells room text item) (behind : IsGap after)
      (others : SpellsItems room rest items) :
      SpellsItems room (before ++ (text ++ (after ++ ',' :: rest))) (item :: items)

inductive SpellsField : Nat → List Char → String × Json → Prop
  | mk {room : Nat} {before body middle inner text after : List Char} {name : String} {value : Json}
      (ahead : IsGap before) (quoted : IsQuoted body name.toList) (between : IsGap middle)
      (within : IsGap inner) (spelled : Spells room text value) (behind : IsGap after) :
      SpellsField room
        (before ++ '"' :: (body ++ '"' :: (middle ++ ':' :: (inner ++ (text ++ after)))))
        (name, value)

inductive SpellsFields : Nat → List Char → Fields → Prop
  | one {room : Nat} {text : List Char} {field : String × Json}
      (spelled : SpellsField room text field) : SpellsFields room text [field]
  | more {room : Nat} {text rest : List Char} {field : String × Json} {fields : Fields}
      (spelled : SpellsField room text field) (others : SpellsFields room rest fields) :
      SpellsFields room (text ++ ',' :: rest) (field :: fields)

end

/-! Gaps. -/

theorem skipGap_append {gap : List Char} (blank : IsGap gap) (text : List Char) :
    skipGap (gap ++ text) = skipGap text :=
  List.dropWhile_append_of_pos blank

theorem skipGap_cons {c : Char} (solid : isGap c = false) (text : List Char) :
    skipGap (c :: text) = c :: text :=
  List.dropWhile_cons_of_neg (by simp [solid])

theorem exists_gap (text : List Char) : ∃ gap, text = gap ++ skipGap text ∧ IsGap gap :=
  ⟨text.takeWhile isGap, List.takeWhile_append_dropWhile.symm,
    fun c inside => List.all_eq_true.mp List.all_takeWhile c inside⟩

theorem isGap_of_skipGap_eq_nil {text : List Char} (nothing : skipGap text = []) : IsGap text := by
  obtain ⟨gap, equal, blank⟩ := exists_gap text
  rw [nothing, List.append_nil] at equal
  exact equal ▸ blank

theorem endsNumber_cons {c : Char}
    (other : c.isDigit = false ∧ c ≠ '.' ∧ c ≠ 'e' ∧ c ≠ 'E') (rest : List Char) :
    EndsNumber (c :: rest) := by
  intro d first
  obtain rfl := Option.some.inj first
  exact other

theorem endsNumber_of_isGap {c : Char} (blank : isGap c = true) (rest : List Char) :
    EndsNumber (c :: rest) := by
  refine endsNumber_cons ?_ rest
  simp only [isGap, Bool.or_eq_true, decide_eq_true_eq] at blank
  rcases blank with ((rfl | rfl) | rfl) | rfl <;> decide

theorem endsNumber_append {gap rest : List Char} (blank : IsGap gap) (ends : EndsNumber rest) :
    EndsNumber (gap ++ rest) := by
  cases gap with
  | nil => exact ends
  | cons c others => exact endsNumber_of_isGap (blank c List.mem_cons_self) _

theorem endsNumber_of_skipGap {text : List Char} (ends : EndsNumber (skipGap text)) :
    EndsNumber text := by
  obtain ⟨gap, equal, blank⟩ := exists_gap text
  rw [equal]
  exact endsNumber_append blank ends

/-! First characters. -/

theorem IsNumber.exists_cons {number : List Char} (h : IsNumber number) :
    ∃ c others, number = c :: others ∧ (c = '-' ∨ c.isDigit = true) := by
  obtain ⟨sign, whole, places, power, rfl, signed, w, -⟩ := h
  rcases signed with rfl | rfl
  · obtain ⟨c, others, rfl, digit⟩ := w.exists_cons
    exact ⟨c, _, rfl, .inr digit⟩
  · exact ⟨'-', _, rfl, .inl rfl⟩

theorem isGap_of_isDigit {c : Char} (digit : c.isDigit = true) : isGap c = false := by
  rw [Bool.eq_false_iff]
  intro blank
  rw [(endsNumber_of_isGap blank [] c rfl).1] at digit
  cases digit

theorem Spells.exists_cons {room : Nat} {text : List Char} {value : Json}
    (spelled : Spells room text value) :
    ∃ c others, text = c :: others ∧ isGap c = false ∧ c ≠ ']' := by
  cases spelled with
  | number meaning =>
    obtain ⟨c, others, rfl, rfl | digit⟩ := meaning.isNumber.exists_cons
    · exact ⟨'-', others, rfl, by decide, by decide⟩
    · refine ⟨c, others, rfl, isGap_of_isDigit digit, ?_⟩
      rintro rfl
      cases digit
  | _ => exact ⟨_, _, rfl, by decide, by decide⟩

theorem Spells.skipGap_append {room : Nat} {gap text : List Char} {value : Json}
    (spelled : Spells room text value) (blank : IsGap gap) (rest : List Char) :
    skipGap (gap ++ (text ++ rest)) = text ++ rest := by
  obtain ⟨c, others, rfl, solid, -⟩ := spelled.exists_cons
  rw [Json.skipGap_append blank, List.cons_append, skipGap_cons solid]

/-! What the grammar spells, the reader takes. -/

theorem readValue_of_isNumber {steps room : Nat} {start number rest : List Char}
    (skipped : skipGap start = number ++ rest) (h : IsNumber number) :
    readValue (steps + 1) room start = readNumber? (number ++ rest) := by
  obtain ⟨c, others, rfl, first⟩ := h.exists_cons
  have differs (mark : Char) (other : mark ≠ '-' ∧ mark.isDigit = false) : c ≠ mark := by
    rintro rfl
    rcases first with rfl | digit
    · exact other.1 rfl
    · rw [other.2] at digit
      cases digit
  unfold readValue
  rw [skipped, List.cons_append]
  split
  case h_7 => rfl
  all_goals
    rename_i same
    exact absurd (List.cons.inj same).1 (differs _ (by decide))

/-- What the reader takes within a number of steps. -/
structure ReadsWithin (steps : Nat) : Prop where
  value {room : Nat} {gap text rest : List Char} {value : Json} (blank : IsGap gap)
    (spelled : Spells room text value) (ends : EndsNumber rest)
    (enough : 2 * text.length ≤ steps + 1) :
    readValue steps room (gap ++ (text ++ rest)) = some (value, rest)
  items {room : Nat} {text rest : List Char} {items : List Json}
    (spelled : SpellsItems room text items) (enough : 2 * text.length ≤ steps) :
    readItems steps room (text ++ ']' :: rest) = some (items, rest)
  fields {room : Nat} {text rest : List Char} {fields : Fields}
    (spelled : SpellsFields room text fields) (enough : 2 * text.length ≤ steps) :
    readFields steps room (text ++ '}' :: rest) = some (fields, rest)

theorem Spells.length_pos {room : Nat} {text : List Char} {value : Json}
    (spelled : Spells room text value) : 0 < text.length := by
  obtain ⟨c, others, rfl, -⟩ := spelled.exists_cons
  exact Nat.succ_pos _

theorem SpellsItems.length_pos {room : Nat} {text : List Char} {items : List Json}
    (spelled : SpellsItems room text items) : 0 < text.length := by
  cases spelled with
  | one ahead spelled behind =>
    have some := spelled.length_pos
    simp only [List.length_append]
    omega
  | more ahead spelled behind others =>
    have some := spelled.length_pos
    simp only [List.length_append]
    omega

theorem SpellsItems.head?_skipGap_ne {room : Nat} {text : List Char} {items : List Json}
    (spelled : SpellsItems room text items) (rest : List Char) :
    (skipGap (text ++ rest)).head? ≠ some ']' := by
  cases spelled with
  | one ahead spelled behind =>
    obtain ⟨c, others, rfl, -, other⟩ := spelled.exists_cons
    rw [List.append_assoc, List.append_assoc, spelled.skipGap_append ahead]
    exact fun first => other (Option.some.inj first)
  | more ahead spelled behind others =>
    obtain ⟨c, others, rfl, -, other⟩ := spelled.exists_cons
    rw [List.append_assoc, List.append_assoc, spelled.skipGap_append ahead]
    exact fun first => other (Option.some.inj first)

theorem SpellsField.head?_skipGap {room : Nat} {text : List Char} {field : String × Json}
    (spelled : SpellsField room text field) (rest : List Char) :
    (skipGap (text ++ rest)).head? = some '"' := by
  obtain ⟨ahead, quoted, between, within, spelled, behind⟩ := spelled
  rw [List.append_assoc, Json.skipGap_append ahead, List.cons_append, skipGap_cons (by decide)]
  rfl

theorem SpellsFields.head?_skipGap {room : Nat} {text : List Char} {fields : Fields}
    (spelled : SpellsFields room text fields) (rest : List Char) :
    (skipGap (text ++ rest)).head? = some '"' := by
  cases spelled with
  | one spelled => exact spelled.head?_skipGap rest
  | more spelled others =>
    rw [List.append_assoc]
    exact spelled.head?_skipGap _

theorem readValue_succ {steps room : Nat} (before : ReadsWithin steps) {gap text rest : List Char}
    {value : Json} (blank : IsGap gap) (spelled : Spells room text value) (ends : EndsNumber rest)
    (enough : 2 * text.length ≤ steps + 1 + 1) :
    readValue (steps + 1) room (gap ++ (text ++ rest)) = some (value, rest) := by
  have skipped := spelled.skipGap_append blank rest
  cases spelled with
  | null => rw [readValue, skipped]; rfl
  | yes => rw [readValue, skipped]; rfl
  | no => rw [readValue, skipped]; rfl
  | number meaning =>
    rw [readValue_of_isNumber skipped meaning.isNumber]
    exact (readNumber?_eq_some meaning.isNumber ends).mpr meaning
  | string quoted =>
    rw [readValue, skipped]
    simp only [List.cons_append, List.append_assoc, List.nil_append, readQuoted?_append quoted,
      Option.map_some]
  | emptyList inner =>
    rw [readValue, skipped]
    simp only [List.cons_append, List.append_assoc, List.nil_append, skipGap_append inner]
    rfl
  | @list room text items inside =>
    have fewer : 2 * text.length ≤ steps := by
      simp only [List.length_cons, List.length_append, List.length_nil] at enough
      omega
    rw [readValue, skipped]
    simp only [List.cons_append, List.append_assoc, List.nil_append]
    split
    · rename_i closed
      exact absurd (congrArg List.head? closed) (inside.head?_skipGap_ne _)
    · rw [before.items inside fewer, Option.map_some]
  | emptyObject inner =>
    rw [readValue, skipped]
    simp only [List.cons_append, List.append_assoc, List.nil_append, skipGap_append inner]
    rfl
  | @object room text fields inside =>
    have fewer : 2 * text.length ≤ steps := by
      simp only [List.length_cons, List.length_append, List.length_nil] at enough
      omega
    rw [readValue, skipped]
    simp only [List.cons_append, List.append_assoc, List.nil_append]
    split
    · rename_i closed
      have first := inside.head?_skipGap ('}' :: rest)
      rw [closed] at first
      cases first
    · rw [before.fields inside fewer, Option.map_some]

theorem endsNumber_behind {gap : List Char} (blank : IsGap gap) {mark : Char}
    (separates : mark = ',' ∨ mark = ']' ∨ mark = '}') (rest : List Char) :
    EndsNumber (gap ++ mark :: rest) := by
  refine endsNumber_append blank (endsNumber_cons ?_ rest)
  rcases separates with rfl | rfl | rfl <;> decide

theorem readItems_succ {steps room : Nat} (before : ReadsWithin steps) {text rest : List Char}
    {items : List Json} (spelled : SpellsItems room text items)
    (enough : 2 * text.length ≤ steps + 1) :
    readItems (steps + 1) room (text ++ ']' :: rest) = some (items, rest) := by
  cases spelled with
  | @one _ ahead' text behind' item ahead spelled behind =>
    have ends := endsNumber_behind behind (.inr (.inl rfl)) rest
    have fewer : 2 * text.length ≤ steps + 1 := by
      simp only [List.length_append] at enough
      omega
    rw [readItems, List.append_assoc, List.append_assoc, before.value ahead spelled ends fewer]
    dsimp only
    rw [skipGap_append behind, skipGap_cons (by decide)]
    rfl
  | @more _ ahead' text behind' others item items ahead spelled behind inside =>
    have ends := endsNumber_behind behind (.inl rfl) (others ++ ']' :: rest)
    simp only [List.length_append, List.length_cons] at enough
    simp only [List.append_assoc, List.cons_append]
    rw [readItems, before.value ahead spelled ends (by omega)]
    dsimp only
    rw [skipGap_append behind, skipGap_cons (by decide)]
    exact congrArg (Option.map _) (before.items inside (by omega))

theorem readFields_of_field {steps room : Nat} (before : ReadsWithin steps) {text rest : List Char}
    {field : String × Json} {mark : Char} (spelled : SpellsField room text field)
    (separates : mark = ',' ∨ mark = '}') (enough : 2 * text.length ≤ steps + 1) :
    readFields (steps + 1) room (text ++ mark :: rest) =
      if mark = '}' then some ([field], rest)
      else (readFields steps room rest).map fun (fields, rest) => (field :: fields, rest) := by
  obtain @⟨_, ahead', body, middle, inner, text, behind', name, value, ahead, quoted, between,
    within, spelled, behind⟩ := spelled
  have ends : EndsNumber (behind' ++ mark :: rest) :=
    endsNumber_behind behind (separates.imp id .inr) rest
  simp only [List.length_append, List.length_cons] at enough
  simp only [List.append_assoc, List.cons_append]
  rw [readFields, skipGap_append ahead, skipGap_cons (by decide)]
  simp only [readQuoted?_append quoted]
  rw [skipGap_append between, skipGap_cons (by decide)]
  simp only [before.value within spelled ends (by omega)]
  rw [skipGap_append behind]
  rcases separates with rfl | rfl
  · rfl
  · rfl

theorem readFields_succ {steps room : Nat} (before : ReadsWithin steps) {text rest : List Char}
    {fields : Fields} (spelled : SpellsFields room text fields)
    (enough : 2 * text.length ≤ steps + 1) :
    readFields (steps + 1) room (text ++ '}' :: rest) = some (fields, rest) := by
  cases spelled with
  | one spelled => rw [readFields_of_field before spelled (.inr rfl) enough, if_pos rfl]
  | more spelled others =>
    simp only [List.length_append, List.length_cons] at enough
    rw [List.append_assoc, List.cons_append,
      readFields_of_field before spelled (.inl rfl) (by omega), if_neg (by decide),
      before.fields others (by omega), Option.map_some]

theorem SpellsFields.length_pos {room : Nat} {text : List Char} {fields : Fields}
    (spelled : SpellsFields room text fields) : 0 < text.length := by
  have first := spelled.head?_skipGap []
  rw [List.append_nil] at first
  refine List.length_pos_iff.mpr ?_
  rintro rfl
  cases first

theorem readsWithin (steps : Nat) : ReadsWithin steps := by
  -- A value of `n` characters takes `2 * n - 1` steps at most, and the items inside of a container
  -- `2 * n`, so its two brackets pay for the step to the container and the step to its items.
  induction steps with
  | zero =>
    refine ⟨fun _ spelled _ enough => ?_, fun spelled enough => ?_, fun spelled enough => ?_⟩
    · have some := spelled.length_pos
      omega
    · have some := spelled.length_pos
      omega
    · have some := spelled.length_pos
      omega
  | succ steps ih => exact ⟨readValue_succ ih, readItems_succ ih, readFields_succ ih⟩

/-! What the reader takes, the grammar spells. -/

/-- What the reader has taken within a number of steps. -/
structure TakesWithin (steps : Nat) : Prop where
  value {room : Nat} {start rest : List Char} {value : Json}
    (read : readValue steps room start = some (value, rest)) (ends : EndsNumber rest) :
    ∃ gap text, start = gap ++ (text ++ rest) ∧ IsGap gap ∧ Spells room text value
  items {room : Nat} {start rest : List Char} {items : List Json}
    (read : readItems steps room start = some (items, rest)) :
    ∃ text, start = text ++ ']' :: rest ∧ SpellsItems room text items
  fields {room : Nat} {start rest : List Char} {fields : Fields}
    (read : readFields steps room start = some (fields, rest)) :
    ∃ text, start = text ++ '}' :: rest ∧ SpellsFields room text fields

theorem spells_of_readValue {steps room : Nat} (before : TakesWithin steps)
    {start rest : List Char} {value : Json}
    (read : readValue (steps + 1) room start = some (value, rest)) (ends : EndsNumber rest) :
    ∃ text, skipGap start = text ++ rest ∧ Spells room text value := by
  unfold readValue at read
  split at read
  · rename_i tail word
    obtain ⟨rfl, rfl⟩ := Prod.mk.inj (Option.some.inj read)
    exact ⟨_, word, .null⟩
  · rename_i tail word
    obtain ⟨rfl, rfl⟩ := Prod.mk.inj (Option.some.inj read)
    exact ⟨_, word, .yes⟩
  · rename_i tail word
    obtain ⟨rfl, rfl⟩ := Prod.mk.inj (Option.some.inj read)
    exact ⟨_, word, .no⟩
  · rename_i tail mark
    obtain ⟨⟨text, rest⟩, inside, same⟩ := Option.map_eq_some_iff.mp read
    obtain ⟨rfl, rfl⟩ := Prod.mk.inj same
    obtain ⟨body, rfl, quoted⟩ := readQuoted?_eq_some.mp inside
    exact ⟨'"' :: (body ++ ['"']), by rw [mark]; simp, .string quoted⟩
  · rename_i tail mark
    split at read
    · cases read
    · rename_i room
      split at read
      · rename_i others closed
        obtain ⟨rfl, rfl⟩ := Prod.mk.inj (Option.some.inj read)
        obtain ⟨gap, equal, blank⟩ := exists_gap tail
        exact ⟨'[' :: (gap ++ [']']), by rw [mark, equal, closed]; simp, .emptyList blank⟩
      · obtain ⟨⟨items, rest⟩, inside, same⟩ := Option.map_eq_some_iff.mp read
        obtain ⟨rfl, rfl⟩ := Prod.mk.inj same
        obtain ⟨text, rfl, spelled⟩ := before.items inside
        exact ⟨'[' :: (text ++ [']']), by rw [mark]; simp, .list spelled⟩
  · rename_i tail mark
    split at read
    · cases read
    · rename_i room
      split at read
      · rename_i others closed
        obtain ⟨rfl, rfl⟩ := Prod.mk.inj (Option.some.inj read)
        obtain ⟨gap, equal, blank⟩ := exists_gap tail
        exact ⟨'{' :: (gap ++ ['}']), by rw [mark, equal, closed]; simp, .emptyObject blank⟩
      · obtain ⟨⟨fields, rest⟩, inside, same⟩ := Option.map_eq_some_iff.mp read
        obtain ⟨rfl, rfl⟩ := Prod.mk.inj same
        obtain ⟨text, rfl, spelled⟩ := before.fields inside
        exact ⟨'{' :: (text ++ ['}']), by rw [mark]; simp, .object spelled⟩
  · obtain ⟨number, equal, h⟩ := isNumber_of_readNumber? read
    rw [equal] at read
    exact ⟨number, equal, .number ((readNumber?_eq_some h ends).mp read)⟩

theorem spellsItems_of_readItems {steps room : Nat} (before : TakesWithin steps)
    {start rest : List Char} {items : List Json}
    (read : readItems (steps + 1) room start = some (items, rest)) :
    ∃ text, start = text ++ ']' :: rest ∧ SpellsItems room text items := by
  rw [readItems] at read
  split at read
  · cases read
  · rename_i item after first
    obtain ⟨behind, equal, blank⟩ := exists_gap after
    split at read
    · rename_i others closed
      obtain ⟨rfl, rfl⟩ := Prod.mk.inj (Option.some.inj read)
      have ends := endsNumber_of_skipGap (closed ▸ endsNumber_cons (by decide) others)
      obtain ⟨gap, text, rfl, ahead, spelled⟩ := before.value first ends
      refine ⟨gap ++ (text ++ behind), ?_, .one ahead spelled blank⟩
      rw [equal, closed]
      simp only [List.append_assoc]
    · rename_i others comma
      obtain ⟨⟨items, rest⟩, further, same⟩ := Option.map_eq_some_iff.mp read
      obtain ⟨rfl, rfl⟩ := Prod.mk.inj same
      obtain ⟨text', rfl, inside⟩ := before.items further
      have ends := endsNumber_of_skipGap (comma ▸ endsNumber_cons (by decide) _)
      obtain ⟨gap, text, rfl, ahead, spelled⟩ := before.value first ends
      refine ⟨gap ++ (text ++ (behind ++ ',' :: text')), ?_, .more ahead spelled blank inside⟩
      rw [equal, comma]
      simp only [List.append_assoc, List.cons_append]
    · cases read

theorem spellsFields_of_readFields {steps room : Nat} (before : TakesWithin steps)
    {start rest : List Char} {fields : Fields}
    (read : readFields (steps + 1) room start = some (fields, rest)) :
    ∃ text, start = text ++ '}' :: rest ∧ SpellsFields room text fields := by
  rw [readFields] at read
  obtain ⟨ahead, equal, blank⟩ := exists_gap start
  split at read
  · rename_i tail mark
    split at read
    · cases read
    · rename_i name after named
      obtain ⟨body, rfl, quoted⟩ := readQuoted?_eq_some.mp named
      obtain ⟨middle, equal', between⟩ := exists_gap after
      split at read
      · rename_i source colon
        split at read
        · cases read
        · rename_i value left first
          obtain ⟨behind, equal'', blank'⟩ := exists_gap left
          split at read
          · rename_i others closed
            obtain ⟨rfl, rfl⟩ := Prod.mk.inj (Option.some.inj read)
            have ends := endsNumber_of_skipGap (closed ▸ endsNumber_cons (by decide) others)
            obtain ⟨gap, text, rfl, within, spelled⟩ := before.value first ends
            refine ⟨_, ?_, .one (.mk blank quoted between within spelled blank')⟩
            rw [equal, mark, equal', colon, equal'', closed]
            simp only [List.append_assoc, List.cons_append]
          · rename_i others comma
            obtain ⟨⟨fields, rest⟩, further, same⟩ := Option.map_eq_some_iff.mp read
            obtain ⟨rfl, rfl⟩ := Prod.mk.inj same
            obtain ⟨text', rfl, inside⟩ := before.fields further
            have ends := endsNumber_of_skipGap (comma ▸ endsNumber_cons (by decide) _)
            obtain ⟨gap, text, rfl, within, spelled⟩ := before.value first ends
            refine ⟨_, ?_, .more (.mk blank quoted between within spelled blank') inside⟩
            rw [equal, mark, equal', colon, equal'', comma]
            simp only [List.append_assoc, List.cons_append]
          · cases read
      · cases read
  · cases read

theorem takesWithin (steps : Nat) : TakesWithin steps := by
  induction steps with
  | zero =>
    refine ⟨fun read _ => ?_, fun read => ?_, fun read => ?_⟩
    · cases read
    · cases read
    · cases read
  | succ steps ih =>
    refine ⟨fun {room start rest value} read ends => ?_, spellsItems_of_readItems ih,
      spellsFields_of_readFields ih⟩
    obtain ⟨text, skipped, spelled⟩ := spells_of_readValue ih read ends
    obtain ⟨gap, equal, blank⟩ := exists_gap start
    exact ⟨gap, text, by rw [← skipped]; exact equal, blank, spelled⟩

/-- The reader takes exactly the texts of one value with blanks around it. -/
theorem read?_eq_some {source : List Char} {value : Json} :
    read? source = some value ↔ ∃ before text after, source = before ++ (text ++ after) ∧
      IsGap before ∧ IsGap after ∧ Spells depthMax text value := by
  constructor
  · intro read
    unfold read? at read
    split at read
    · rename_i found rest first
      split at read
      · rename_i nothing
        obtain rfl := Option.some.inj read
        have blank := isGap_of_skipGap_eq_nil nothing
        have ends : EndsNumber rest :=
          endsNumber_of_skipGap (nothing ▸ fun c first => by cases first)
        obtain ⟨before, text, rfl, ahead, spelled⟩ := (takesWithin _).value first ends
        exact ⟨before, text, rest, rfl, ahead, blank, spelled⟩
      · cases read
    · cases read
  · rintro ⟨before, text, after, rfl, ahead, behind, spelled⟩
    have ends : EndsNumber after := by
      rw [← List.append_nil after]
      exact endsNumber_append behind fun c first => by cases first
    have enough : 2 * text.length ≤ 2 * (before ++ (text ++ after)).length + 1 + 1 := by
      simp only [List.length_append]
      omega
    rw [read?, (readsWithin _).value ahead spelled ends enough]
    dsimp only
    rw [if_pos]
    have blank := skipGap_append behind []
    rwa [List.append_nil] at blank

/-! Last characters. -/

theorem IsDigits.solid {digits : List Char} (h : IsDigits digits) :
    ∀ c ∈ digits, isGap c = false :=
  fun c inside => isGap_of_isDigit (h.2 c inside)

theorem IsNumber.solid {number : List Char} (h : IsNumber number) :
    ∀ c ∈ number, isGap c = false := by
  obtain ⟨sign, whole, places, power, rfl, signed, w, h, p⟩ := h
  simp only [List.forall_mem_append]
  refine ⟨?_, ?_, ?_, ?_⟩
  · rcases signed with rfl | rfl
    · exact List.forall_mem_nil _
    · exact List.forall_mem_singleton.mpr rfl
  · rcases w with rfl | ⟨digits, -⟩
    · exact List.forall_mem_singleton.mpr rfl
    · exact digits.solid
  · rcases h with rfl | ⟨digits, rfl, h⟩
    · exact List.forall_mem_nil _
    · exact List.forall_mem_cons.mpr ⟨by decide, h.solid⟩
  · rcases p with rfl | ⟨mark, sign, digits, rfl, marked, signed, h⟩
    · exact List.forall_mem_nil _
    · rw [List.forall_mem_cons, List.forall_mem_append]
      refine ⟨?_, ?_, h.solid⟩
      · rcases marked with rfl | rfl <;> decide
      · rcases signed with rfl | rfl | rfl
        · exact List.forall_mem_nil _
        · exact List.forall_mem_singleton.mpr rfl
        · exact List.forall_mem_singleton.mpr rfl

theorem Spells.exists_concat {room : Nat} {text : List Char} {value : Json}
    (spelled : Spells room text value) : ∃ others c, text = others ++ [c] ∧ isGap c = false := by
  cases spelled with
  | null => exact ⟨['n', 'u', 'l'], 'l', rfl, by decide⟩
  | yes => exact ⟨['t', 'r', 'u'], 'e', rfl, by decide⟩
  | no => exact ⟨['f', 'a', 'l', 's'], 'e', rfl, by decide⟩
  | number meaning =>
    have number := meaning.isNumber
    obtain ⟨c, others, rfl, -⟩ := number.exists_cons
    have some : c :: others ≠ [] := List.cons_ne_nil c others
    exact ⟨_, _, (List.dropLast_concat_getLast some).symm, number.solid _ (List.getLast_mem some)⟩
  | _ => exact ⟨_ :: _, _, rfl, by decide⟩

theorem read?_concat_gap {c : Char} (blank : isGap c = true) (source : List Char) :
    read? (source ++ [c]) = read? source := by
  refine Option.ext fun value => ?_
  rw [read?_eq_some, read?_eq_some]
  constructor
  · rintro ⟨before, text, after, equal, ahead, behind, spelled⟩
    rcases List.eq_nil_or_concat after with rfl | ⟨left, last, rfl⟩
    · obtain ⟨others, d, rfl, solid⟩ := spelled.exists_concat
      rw [List.append_nil, ← List.append_assoc] at equal
      obtain rfl := List.singleton_inj.mp (List.append_inj_right' equal rfl)
      rw [blank] at solid
      cases solid
    · rw [List.concat_eq_append] at behind equal
      rw [← List.append_assoc, ← List.append_assoc] at equal
      have same := List.append_inj_left' equal rfl
      rw [List.append_assoc] at same
      exact ⟨before, text, left, same, ahead, (List.forall_mem_append.mp behind).1, spelled⟩
  · rintro ⟨before, text, after, rfl, ahead, behind, spelled⟩
    refine ⟨before, text, after ++ [c], by simp, ahead, ?_, spelled⟩
    rw [IsGap, List.forall_mem_append]
    exact ⟨behind, List.forall_mem_singleton.mpr blank⟩

end CallAtlas.Json
