import CallAtlas.Occurrence.Attribution
import CallAtlas.Proofs.Tag.Record
import CallAtlas.Proofs.Text.Line
import Mathlib.Data.List.Perm.Basic

set_option autoImplicit false
set_option relaxedAutoImplicit false

namespace CallAtlas.Tag

/-! Rows. -/

theorem readLine?_eq_some {row : List Char} {record : Record} :
    readLine? row = some record ↔
      ∃ members, Json.IsObject row members ∧ record = Json.Fields.ofList members := by
  rw [← Json.read?_eq_some_object, readLine?, Option.bind_eq_some_iff]
  constructor
  · rintro ⟨value, read, fields⟩
    cases value with
    | object record =>
      obtain rfl := Option.some.inj fields
      exact read
    | _ => cases fields
  · exact fun read => ⟨_, read, rfl⟩

theorem readLine?_withoutReturn (row : List Char) :
    readLine? (Text.withoutReturn row) = readLine? row := by
  rcases Text.withoutReturn_or row with same | shorter
  · rw [← same]
  · have longer := Json.read?_concat_gap (c := '\r') (by decide) (Text.withoutReturn row)
    rw [← shorter] at longer
    rw [readLine?, readLine?, longer]

def startOf? (row : List Char) : Option Start := (readLine? row).bind start?

theorem startOf?_withoutReturn (row : List Char) :
    startOf? (Text.withoutReturn row) = startOf? row := by
  rw [startOf?, startOf?, readLine?_withoutReturn]

theorem filterMap_start?_read (output : String) :
    (read output).filterMap start? = (Text.lines output.toList).filterMap startOf? :=
  List.filterMap_filterMap

theorem filterMap_start?_read_unlines {rows : List (List Char)}
    (plain : ∀ row ∈ rows, '\n' ∉ row) :
    (read (String.ofList (Text.unlines rows))).filterMap start? = rows.filterMap startOf? := by
  rw [filterMap_start?_read, String.toList_ofList, Text.lines_unlines plain, List.filterMap_map]
  exact List.filterMap_congr fun row _ => startOf?_withoutReturn row

/-! Written starts. -/

/-- A text that holds a line number: its digits, or a string that is them between blanks. -/
inductive HoldsLine (line : Nat) : List Char → Prop
  | number : HoldsLine line (Text.decimal line)
  | digits {before after text : List Char} (ahead : ∀ c ∈ before, Text.isBlank c = true)
      (behind : ∀ c ∈ after, Text.isBlank c = true)
      (spelled : Json.IsString (String.ofList (before ++ (Text.decimal line ++ after))) text) :
      HoldsLine line text

theorem HoldsLine.exists_isLine {room line : Nat} {text : List Char} (holds : HoldsLine line text)
    (positive : 0 < line) (word : line ≤ Text.wordMax) :
    ∃ value, Json.Spells room text value ∧ IsLine value line := by
  cases holds with
  | number => exact ⟨_, .number (Json.denotes_decimal word), .number positive word⟩
  | digits ahead behind spelled =>
    obtain ⟨body, rfl, quoted⟩ := spelled
    refine ⟨_, .string quoted, .numeral positive ?_⟩
    have solid : ∀ c ∈ Text.decimal line, Text.isBlank c = false :=
      fun c inside => Text.isBlank_of_isDigit (Text.isDigit_of_mem_decimal inside)
    rw [String.toList_ofList, Text.trim_between ahead behind solid Nat.toDigits_ne_nil]
    exact Text.isNumeral_decimal word

/-- The names of the members that say where a function starts. -/
def memberNames : List String := ["_type", "kind", "name", "line"]

/-- The members that say where a function starts, with texts for their values. -/
inductive Start.IsSpelled (start : Start) : List (String × List Char) → Prop
  | mk {type kind name line : List Char} (tagged : Json.IsString "tag" type)
      (kinded : Json.IsString functionKind kind) (named : Json.IsString start.name name)
      (holds : HoldsLine start.line line) :
      start.IsSpelled [("_type", type), ("kind", kind), ("name", name), ("line", line)]

/-- A row is an object that says where a function starts, in any order and with any members of
other names. -/
def Start.WrittenIn (start : Start) (row : List Char) : Prop :=
  ∃ members known others, Json.IsRecord row members ∧ members.Perm (known ++ others) ∧
    start.IsSpelled known ∧
      ∀ member ∈ others, member.1 ∉ memberNames ∧ Json.IsValue (Json.depthMax - 1) member.2

/-- A start as a row, with the text of its line number and further fields. -/
def Start.write (start : Start) (line : List Char) (others : List (String × List Char)) :
    List Char :=
  Json.writeObject ([("_type", Json.quote "tag"), ("kind", Json.quote functionKind),
    ("name", Json.quote start.name), ("line", line)] ++ others)

theorem Start.writtenIn_write {start : Start} {line : List Char}
    {others : List (String × List Char)} (holds : HoldsLine start.line line)
    (further : ∀ member ∈ others, member.1 ∉ memberNames ∧
      Json.IsValue (Json.depthMax - 1) member.2) : start.WrittenIn (start.write line others) :=
  ⟨_, _, _, Json.isRecord_writeObject _, .refl _,
    .mk (Json.isString_quote _) (Json.isString_quote _) (Json.isString_quote _) holds, further⟩

def Start.members (start : Start) (line : Json) : Json.Fields :=
  [("_type", .string "tag"), ("kind", .string functionKind), ("name", .string start.name),
    ("line", line)]

theorem Start.IsSpelled.exists_members {start : Start} {known : List (String × List Char)}
    (spelled : start.IsSpelled known) (positive : 0 < start.line)
    (word : start.line ≤ Text.wordMax) (room : Nat) : ∃ line, IsLine line start.line ∧
      List.Forall₂ (Json.StandsFor room) known (start.members line) := by
  have string {meant : String} {text : List Char} (written : Json.IsString meant text) :
      Json.Spells room text (.string meant) := by
    obtain ⟨body, rfl, quoted⟩ := written
    exact .string quoted
  obtain ⟨tagged, kinded, named, holds⟩ := spelled
  obtain ⟨line, meaning, number⟩ := holds.exists_isLine positive word
  exact ⟨line, number, .cons ⟨rfl, string tagged⟩ (.cons ⟨rfl, string kinded⟩
    (.cons ⟨rfl, string named⟩ (.cons ⟨rfl, meaning⟩ .nil)))⟩

theorem Start.WrittenIn.exists_isObject {start : Start} {row : List Char}
    (written : start.WrittenIn row) (positive : 0 < start.line)
    (word : start.line ≤ Text.wordMax) :
    ∃ members line others, Json.IsObject row members ∧ IsLine line start.line ∧
      members.Perm (start.members line ++ others) ∧ ∀ member ∈ others, member.1 ∉ memberNames := by
  obtain ⟨texts, known, others, record, perm, spelled, further⟩ := written
  obtain ⟨line, number, first⟩ := spelled.exists_members positive word (Json.depthMax - 1)
  obtain ⟨fields, second⟩ := Json.exists_fields fun member inside =>
    (further member inside).2.exists_spells
  obtain ⟨members, meaning, same⟩ := List.perm_comp_forall₂ perm (List.rel_append first second)
  refine ⟨members, line, fields, record.isObject meaning, number, same, fun field inside => ?_⟩
  have named : field.1 ∈ others.map Prod.fst :=
    Json.names_eq_of_standsFor second ▸ List.mem_map_of_mem inside
  obtain ⟨member, among, equal⟩ := List.mem_map.mp named
  exact equal ▸ (further member among).1

theorem eq_of_mem_members {start : Start} {line value other : Json} {name : String}
    (inside : (name, value) ∈ start.members line) (again : (name, other) ∈ start.members line) :
    other = value := by
  simp only [Start.members, List.mem_cons, Prod.mk.injEq, List.not_mem_nil, or_false]
    at inside again
  rcases inside with ⟨rfl, rfl⟩ | ⟨rfl, rfl⟩ | ⟨rfl, rfl⟩ | ⟨rfl, rfl⟩ <;> simpa using again

theorem get?_of_mem_members {start : Start} {line value : Json} {members others : Json.Fields}
    {name : String} (perm : members.Perm (start.members line ++ others))
    (apart : ∀ member ∈ others, member.1 ∉ memberNames)
    (inside : (name, value) ∈ start.members line) :
    (Json.Fields.ofList members).get? name = some value := by
  refine Json.Fields.get?_ofList_of_mem (perm.mem_iff.mpr (List.mem_append_left _ inside)) ?_
  intro other found
  rcases List.mem_append.mp (perm.mem_iff.mp found) with again | later
  · exact eq_of_mem_members inside again
  · have known : name ∈ (start.members line).map Prod.fst := List.mem_map_of_mem inside
    exact absurd known (apart _ later)

def Start.IsValid (start : Start) : Prop :=
  start.name ≠ "" ∧ 0 < start.line ∧ start.line ≤ Text.wordMax

instance (start : Start) : Decidable start.IsValid := inferInstanceAs (Decidable (_ ∧ _ ∧ _))

theorem startOf?_of_writtenIn {start : Start} {row : List Char} (valid : start.IsValid)
    (written : start.WrittenIn row) : startOf? row = some start := by
  obtain ⟨named, positive, word⟩ := valid
  obtain ⟨members, line, others, object, number, perm, apart⟩ :=
    written.exists_isObject positive word
  have get {name : String} {value : Json} (inside : (name, value) ∈ start.members line) :=
    get?_of_mem_members perm apart inside
  have tagged := get (.head _)
  have starts : Starts (Json.Fields.ofList members) start :=
    { tag := by
        intro type typed
        rw [tagged] at typed
        cases typed
        rfl
      kind := get (.tail _ (.head _))
      name := get (.tail _ (.tail _ (.head _)))
      named := named
      line := ⟨line, get (.tail _ (.tail _ (.tail _ (.head _)))), number⟩ }
  rw [startOf?, readLine?_eq_some.mpr ⟨members, object, rfl⟩, Option.bind_some]
  exact (start?_eq_some (fits_ofList object)).mpr starts

theorem startOf?_rows {starts : List Start} {rows : List (List Char)}
    (valid : ∀ start ∈ starts, start.IsValid)
    (written : List.Forall₂ Start.WrittenIn starts rows) : rows.filterMap startOf? = starts := by
  induction written with
  | nil => rfl
  | @cons start row starts rows first later ih =>
    have read := startOf?_of_writtenIn (valid start List.mem_cons_self) first
    have others := ih fun other inside => valid other (List.mem_cons_of_mem _ inside)
    rw [List.filterMap_cons_some read, others]

/-- Starts that are written a row each are read back as they were, and give their spans. -/
theorem written_starts_read_back {starts : List Start} {rows : List (List Char)}
    (valid : ∀ start ∈ starts, start.IsValid)
    (written : List.Forall₂ Start.WrittenIn starts rows) (plain : ∀ row ∈ rows, '\n' ∉ row) :
    let output := String.ofList (Text.unlines rows)
    (read output).filterMap start? = starts ∧
      Span.ofRecords (read output) = Span.infer starts := by
  intro output
  have starts : (read output).filterMap start? = starts := by
    rw [filterMap_start?_read_unlines plain, startOf?_rows valid written]
  exact ⟨starts, congrArg Span.infer starts⟩

theorem written_starts_read_back_escaped :
    let first : Start := ⟨"\"q\\\n\u2028ü", Text.wordMax⟩
    let second : Start := ⟨"main", 7⟩
    let rows := [first.write (Text.decimal Text.wordMax) [],
      second.write (Json.quote " 7\t") [("x", ['0', '.', '2', '5'])]]
    (∀ start ∈ [first, second], start.IsValid) ∧
      List.Forall₂ Start.WrittenIn [first, second] rows ∧ (∀ row ∈ rows, '\n' ∉ row) ∧
        Span.ofRecords (read (String.ofList (Text.unlines rows))) = Span.infer [first, second] := by
  intro first second rows
  have valid : ∀ start ∈ [first, second], start.IsValid := by decide
  have plain : ∀ row ∈ rows, '\n' ∉ row := by decide
  have number : first.WrittenIn (first.write (Text.decimal Text.wordMax) []) :=
    Start.writtenIn_write .number (List.forall_mem_nil _)
  have blanks : HoldsLine 7 (Json.quote " 7\t") :=
    @HoldsLine.digits 7 [' '] ['\t'] _ (List.forall_mem_singleton.mpr rfl)
      (List.forall_mem_singleton.mpr rfl) (Json.isString_quote _)
  have places : Json.IsPlaces ['.', '2', '5'] := .inr ⟨['2', '5'], rfl, Json.isDigits_decimal 25⟩
  have quarter : Json.IsBelow 300 ['0', '.', '2', '5'] :=
    Json.isBelow_of_length_le (.inl rfl) (Json.isWhole_decimal 0) places (by decide)
  have digits : second.WrittenIn (second.write (Json.quote " 7\t") [("x", ['0', '.', '2', '5'])]) :=
    Start.writtenIn_write blanks
      (List.forall_mem_singleton.mpr ⟨by simp [memberNames], .number quarter⟩)
  have written : List.Forall₂ Start.WrittenIn [first, second] rows :=
    .cons number (.cons digits .nil)
  exact ⟨valid, written, plain, (written_starts_read_back valid written plain).2⟩

/-- A row is lost when another member of it is a number that is too large, which holds for some
below the greatest one of 64 bits as well, is nested too deep or holds half of a pair of
surrogates. -/
theorem written_start_lost_beside_refused_member :
    let start : Start := ⟨"f", 1⟩
    let tooLarge := ['1', 'e', '9', '9', '9']
    let nearLargest := ['1', '.', '7', '9', '7', '6', '9', '3', '1', '3', '4', '8', '6', '2', '3',
      '1', '5', '7', '0', '0', 'e', '3', '0', '8']
    let tooDeep := List.replicate 127 '[' ++ List.replicate 127 ']'
    let halfPair := ['"', '\\', 'u', 'd', '8', '0', '0', '"']
    start.IsValid ∧ Json.IsNumber tooLarge ∧ Json.IsNumber nearLargest ∧
      Span.infer [start] = [⟨"f", 1, Span.openEnd⟩] ∧
        ∀ text ∈ [tooLarge, nearLargest, tooDeep, halfPair], Span.ofRecords (read (String.ofList
          (Text.unlines [start.write (Text.decimal 1) [("x", text)]]))) = [] := by
  have whole : Json.IsWhole ['1'] := .inr ⟨Json.isDigits_decimal 1, by decide⟩
  have tooLarge : Json.IsNumber (['1'] ++ ['e', '9', '9', '9']) :=
    ⟨[], ['1'], [], _, rfl, .inl rfl, whole, .inl rfl,
      .inr ⟨'e', [], _, rfl, .inl rfl, .inl rfl, Json.isDigits_decimal 999⟩⟩
  have nearLargest : Json.IsNumber
      (['1'] ++ ('.' :: Text.decimal 797693134862315700 ++ 'e' :: Text.decimal 308)) :=
    ⟨[], ['1'], _, _, rfl, .inl rfl, whole, .inr ⟨_, rfl, Json.isDigits_decimal 797693134862315700⟩,
      .inr ⟨'e', [], _, rfl, .inl rfl, .inl rfl, Json.isDigits_decimal 308⟩⟩
  refine ⟨by decide, tooLarge, nearLargest, by decide +kernel, fun text inside => ?_⟩
  have plain : ∀ row ∈ [Start.write ⟨"f", 1⟩ (Text.decimal 1) [("x", text)]], '\n' ∉ row := by
    revert text
    decide +kernel
  have lost : startOf? (Start.write ⟨"f", 1⟩ (Text.decimal 1) [("x", text)]) = none := by
    revert text
    decide +kernel
  rw [Span.ofRecords, filterMap_start?_read_unlines plain, List.filterMap_cons_none lost]
  decide +kernel

/-! Noise. -/

/-- A row that is no object, or one that is no tag of a function. -/
def IsNoiseRow (row : List Char) : Prop :=
  ∀ members, Json.IsObject row members → IsNoise (Json.Fields.ofList members)

theorem isNoiseRow_iff {row : List Char} : IsNoiseRow row ↔ startOf? row = none := by
  constructor
  · intro noise
    refine Option.bind_eq_none_iff.mpr fun record read => ?_
    obtain ⟨members, object, rfl⟩ := readLine?_eq_some.mp read
    exact (start?_eq_none (fits_ofList object)).mpr (noise members object)
  · intro silent members object
    have read := readLine?_eq_some.mpr ⟨members, object, rfl⟩
    rw [startOf?, read, Option.bind_some] at silent
    exact (start?_eq_none (fits_ofList object)).mp silent

instance (row : List Char) : Decidable (IsNoiseRow row) :=
  decidable_of_iff _ isNoiseRow_iff.symm

theorem starts_of_insertsLine {row : List Char} {output longer : String} (plain : '\n' ∉ row)
    (noise : IsNoiseRow row) (inserts : Text.InsertsLine row output.toList longer.toList) :
    (read longer).filterMap start? = (read output).filterMap start? := by
  rw [filterMap_start?_read, filterMap_start?_read]
  exact Text.filterMap_lines_of_insertsLine rfl startOf?_withoutReturn plain
    (isNoiseRow_iff.mp noise) inserts

/-- A row that starts no function changes no span and no owner of a line, wherever it stands. -/
theorem noise_leaves_spans {row : List Char} {output longer : String} (plain : '\n' ∉ row)
    (noise : IsNoiseRow row) (inserts : Text.InsertsLine row output.toList longer.toList) :
    Span.ofRecords (read longer) = Span.ofRecords (read output) ∧
      ∀ line, Occurrence.owner (Span.ofRecords (read longer)) line =
        Occurrence.owner (Span.ofRecords (read output)) line := by
  have same : Span.ofRecords (read longer) = Span.ofRecords (read output) := by
    rw [Span.ofRecords, Span.ofRecords, starts_of_insertsLine plain noise inserts]
  exact ⟨same, fun line => by rw [same]⟩

theorem noise_leaves_spans_between_functions :
    let row := Json.writeObject [("_type", Json.quote "ptag"), ("kind", Json.quote functionKind),
      ("name", Json.quote "g"), ("line", Text.decimal 5)]
    let first := Start.write ⟨"f", 3⟩ (Text.decimal 3) []
    let second := Start.write ⟨"h", 9⟩ (Text.decimal 9) []
    '\n' ∉ row ∧ IsNoiseRow row ∧
      Text.InsertsLine row (Text.unlines [first, second]) (Text.unlines [first, row, second]) ∧
        Span.ofRecords (read (String.ofList (Text.unlines [first, row, second]))) =
          [⟨"f", 3, 8⟩, ⟨"h", 9, Span.openEnd⟩] := by
  intro row first second
  have plain : '\n' ∉ row := by decide
  have noise : IsNoiseRow row := by decide +kernel
  have edge : Text.IsLineEdge (first ++ ['\n']) := .inr ⟨first, rfl⟩
  have inserts : Text.InsertsLine row (Text.unlines [first, second])
      (Text.unlines [first, row, second]) := by
    have between := @Text.InsertsLine.between row _ (second ++ ['\n']) edge
    simpa [Text.unlines] using between
  have same := (@noise_leaves_spans row (String.ofList (Text.unlines [first, second]))
    (String.ofList (Text.unlines [first, row, second])) plain noise (by simpa using inserts)).1
  have starts : (read (String.ofList (Text.unlines [first, second]))).filterMap start? =
      [⟨"f", 3⟩, ⟨"h", 9⟩] := by
    rw [filterMap_start?_read_unlines (by decide)]
    decide +kernel
  have spans : Span.ofRecords (read (String.ofList (Text.unlines [first, second]))) =
      [⟨"f", 3, 8⟩, ⟨"h", 9, Span.openEnd⟩] := by
    rw [Span.ofRecords, starts, Span.infer, List.mergeSort_of_pairwise (by decide)]
    rfl
  exact ⟨plain, noise, inserts, same.trans spans⟩

end CallAtlas.Tag
